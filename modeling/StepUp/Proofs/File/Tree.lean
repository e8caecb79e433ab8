import StepUp.File.Tree

/-!
# Files are read as they were written

Putting a file in a place changes what is found in that place and nowhere else
(`FileTree.node?_put_self`, `FileTree.node?_put_of_ne`). A path that leads to the place leads there
still, since the way to it goes through directories and a file is only put where no directory is.
So a file that was written is read as it was written (`FileTree.read_of_overwrite`), along the path
it was written by.
-/

namespace StepUp.FileTree

variable {t t' : FileTree} {p : Path} {place : Place} {node : FileNode} {octets : List UInt8}

/-! ## One place -/

theorem lookup_replace (entries : List (Place × FileNode)) (place : Place) (node : FileNode)
    (other : Place) :
    (entries.map fun e => if e.1 = place then (place, node) else e).lookup other =
      if other = place then (entries.lookup place).map fun _ => node else entries.lookup other := by
  induction entries with
  | nil => simp
  | cons e rest ih =>
    obtain ⟨here, old⟩ := e
    by_cases hhere : here = place
    · subst hhere
      simp only [List.map_cons, if_true, List.lookup_cons, ih]
      by_cases hother : other = here
      · simp [hother]
      · simp [hother, beq_false_of_ne hother]
    · simp only [List.map_cons, if_neg hhere, List.lookup_cons, ih]
      by_cases hother : other = place
      · subst hother
        simp [beq_false_of_ne (Ne.symm hhere)]
      · simp only [if_neg hother]

theorem lookup_put (t : FileTree) (place : Place) (node : FileNode) (other : Place) :
    (t.put place node).entries.lookup other =
      if other = place then some node else t.entries.lookup other := by
  unfold put
  split
  · next hnone =>
    by_cases hother : other = place
    · subst hother
      simp [List.lookup_append, hnone]
    · have hbeq : (other == place) = false := beq_false_of_ne hother
      simp [List.lookup_append, List.lookup_cons, hbeq, hother]
  · next old hsome =>
    rw [lookup_replace, hsome]
    rfl

theorem node?_put_self (h : isGiven place = false) :
    (t.put place node).node? place = some node := by
  rw [node?, h, lookup_put, if_pos rfl]
  rfl

theorem node?_put_of_ne {other : Place} (h : other ≠ place) :
    (t.put place node).node? other = t.node? other := by
  rw [node?, node?, lookup_put, if_neg h]

/-- Nothing or a file stands in a place. -/
def Free (t : FileTree) (place : Place) : Prop := ∀ mode, t.node? place ≠ some (.directory mode)

theorem Free.isGiven_eq_false (h : t.Free place) : isGiven place = false := by
  cases hgiven : isGiven place with
  | false => rfl
  | true => exact absurd (if_pos hgiven) (h directoryMode)

/-! ## The way to a place -/

/-- The way to a place goes through directories and so past every place that has none. -/
theorem walk_put {start : Place} {parts : List Text} {free : Place} (hfree : t.Free free)
    (h : t.walk start parts = .ok place) : (t.put free node).walk start parts = .ok place := by
  induction parts generalizing start with
  | nil => exact h
  | cons part rest ih =>
    rw [walk] at h ⊢
    by_cases hstart : start = free
    · subst hstart
      split at h
      · cases h
      · cases h
      · next mode hnode => exact absurd hnode (hfree mode)
    · rw [node?_put_of_ne hstart]
      split at h
      · cases h
      · cases h
      · split at h
        · cases h
        · next hlength =>
          simp only [if_neg hlength]
          exact ih h

theorem resolve_put {free : Place} (hfree : t.Free free) (h : t.resolve p = .ok place) :
    (t.put free node).resolve p = .ok place := by
  unfold resolve at h ⊢
  split at h
  · cases h
  · next hlength =>
    rw [if_neg hlength]
    exact walk_put hfree h

/-! ## A file -/

/-- A file is written where its path leads to a place without a directory. -/
theorem overwrite_eq_ok_iff : t.overwrite p octets = .ok t' ↔
    hasNull p = false ∧ ∃ place, t.resolve p = .ok place ∧ t.Free place ∧
      t' = t.put place (.file octets) := by
  constructor
  · intro h
    unfold overwrite at h
    split at h
    · cases h
    · next hnull =>
      split at h
      · cases h
      · next place hplace =>
        split at h
        · cases h
        · next hfree =>
          cases h
          exact ⟨Bool.eq_false_iff.mpr hnull, place, hplace, hfree, rfl⟩
  · rintro ⟨hnull, place, hplace, hfree, rfl⟩
    unfold overwrite
    rw [hnull, if_neg Bool.false_ne_true, hplace]
    dsimp only
    split
    · next mode hnode => exact absurd hnode (hfree mode)
    · rfl

/-- A file is found where it was written. -/
theorem find_of_overwrite (h : t.overwrite p octets = .ok t') : t'.find p = .ok (.file octets) := by
  obtain ⟨-, place, hplace, hfree, rfl⟩ := overwrite_eq_ok_iff.mp h
  unfold find
  rw [resolve_put hfree hplace]
  simp only [bind, Except.bind, node?_put_self hfree.isGiven_eq_false]
  rfl

theorem read_of_overwrite (h : t.overwrite p octets = .ok t') : t'.read p = .ok octets := by
  rw [read, find_of_overwrite h]

theorem exists?_of_overwrite (h : t.overwrite p octets = .ok t') : t'.exists? p = .ok true := by
  rw [exists?, (overwrite_eq_ok_iff.mp h).1, find_of_overwrite h]
  rfl

/-- The directories on the way to a path can be made, and the path leads to no directory then. -/
def Admits (t : FileTree) (p : Path) : Prop :=
  hasNull p = false ∧ ∃ made place, t.makeDirectories p.parent = (made, .ok ()) ∧
    made.resolve p = .ok place ∧ made.Free place

/-- A path admits a file whatever the octets to be written are. -/
theorem admits_iff (octets : List UInt8) : t.Admits p ↔
    ∃ made saved, t.makeDirectories p.parent = (made, .ok ()) ∧
      made.overwrite p octets = .ok saved := by
  constructor
  · rintro ⟨hnull, made, place, hmade, hplace, hfree⟩
    exact ⟨made, _, hmade, overwrite_eq_ok_iff.mpr ⟨hnull, place, hplace, hfree, rfl⟩⟩
  · rintro ⟨made, saved, hmade, hwritten⟩
    obtain ⟨hnull, place, hplace, hfree, -⟩ := overwrite_eq_ok_iff.mp hwritten
    exact ⟨hnull, made, place, hmade, hplace, hfree⟩

end StepUp.FileTree
