import StepUp.Proofs.File.Tree

/-!
# Growing file trees

Nothing is lost when directories are made and files are opened and appended to: a tree that
`Extends` another has its directories, and its files with more behind what was in them. A path that
leads somewhere leads there in every larger tree (`FileTree.Extends.resolve`), since all that
matters on the way are directories.

Making room for a file writes nothing: no operation but `FileTree.append` changes the octets in any
place (`FileTree.Prepares`). Appending along a path with a file (`FileTree.HasFile`) puts the octets
behind those of that file and changes no other place.
-/

namespace StepUp

namespace FileNode

def octets : FileNode → List UInt8
  | .directory _ => []
  | .file octets => octets

/-- A directory for a directory, and for a file one with more behind what was in it. -/
inductive Continues : FileNode → FileNode → Prop
  | directory (mode mode' : Nat) : Continues (.directory mode) (.directory mode')
  | file (octets more : List UInt8) : Continues (.file octets) (.file (octets ++ more))

theorem Continues.refl : ∀ node : FileNode, node.Continues node
  | .directory mode => .directory mode mode
  | .file octets => by
    have h := Continues.file octets []
    rwa [List.append_nil] at h

theorem Continues.trans {first second third : FileNode} (h : first.Continues second)
    (h' : second.Continues third) : first.Continues third := by
  cases h with
  | directory mode mode' =>
    cases h' with
    | directory _ mode'' => exact .directory mode mode''
  | file octets more =>
    cases h' with
    | file _ evenMore =>
      rw [List.append_assoc]
      exact .file octets (more ++ evenMore)

end FileNode

/-- The place that the parts of a path lead to, whatever is on the way. -/
def Path.place (p : Path) : Place :=
  p.parts.foldl FileTree.step (if p.root.isEmpty then [] else ["/"])

namespace FileTree

variable {t t' t'' : FileTree} {p : Path} {place other : Place} {node : FileNode}
  {octets : List UInt8}

/-- What is in the file in a place; nothing where there is no file. -/
def contents (t : FileTree) (place : Place) : List UInt8 :=
  ((t.node? place).map FileNode.octets).getD []

theorem contents_of_node? (h : t.node? place = some node) : t.contents place = node.octets := by
  rw [contents, h]
  rfl

/-- What is in a place of the first tree goes on in the second. -/
def Extends (t t' : FileTree) : Prop :=
  ∀ ⦃place node⦄, t.node? place = some node →
    ∃ node', t'.node? place = some node' ∧ node.Continues node'

/-- The second tree extends the first one, and nothing was written. -/
structure Prepares (t t' : FileTree) : Prop where
  grown : t.Extends t'
  same : ∀ place, t'.contents place = t.contents place

theorem Extends.refl (t : FileTree) : t.Extends t :=
  fun _ node h => ⟨node, h, .refl node⟩

theorem Extends.trans (h : t.Extends t') (h' : t'.Extends t'') : t.Extends t'' := by
  intro place node hnode
  obtain ⟨node', hnode', hgoes⟩ := h hnode
  obtain ⟨node'', hnode'', hgoes'⟩ := h' hnode'
  exact ⟨node'', hnode'', hgoes.trans hgoes'⟩

theorem Prepares.refl (t : FileTree) : t.Prepares t := ⟨.refl t, fun _ => rfl⟩

theorem Prepares.trans (h : t.Prepares t') (h' : t'.Prepares t'') : t.Prepares t'' :=
  ⟨h.grown.trans h'.grown, fun place => (h'.same place).trans (h.same place)⟩

/-! ## Ways -/

theorem eq_foldl_of_walk {start : Place} {parts : List Text}
    (h : t.walk start parts = .ok place) : place = parts.foldl step start := by
  induction parts generalizing start with
  | nil =>
    cases h
    rfl
  | cons part rest ih =>
    rw [walk] at h
    split at h
    · cases h
    · cases h
    · split at h
      · cases h
      · exact ih h

theorem eq_place_of_resolve (h : t.resolve p = .ok place) : place = p.place := by
  unfold resolve at h
  split at h
  · cases h
  · exact eq_foldl_of_walk h

theorem Extends.walk (h : t.Extends t') {start : Place} {parts : List Text}
    (hwalk : t.walk start parts = .ok place) : t'.walk start parts = .ok place := by
  induction parts generalizing start with
  | nil => exact hwalk
  | cons part rest ih =>
    rw [FileTree.walk] at hwalk ⊢
    split at hwalk
    · cases hwalk
    · cases hwalk
    · next mode hnode =>
      obtain ⟨node', hnode', hgoes⟩ := h hnode
      cases hgoes
      rw [hnode']
      split at hwalk
      · cases hwalk
      · next hlength =>
        simp only [if_neg hlength]
        exact ih hwalk

theorem Extends.resolve (h : t.Extends t') (hp : t.resolve p = .ok place) :
    t'.resolve p = .ok place := by
  unfold FileTree.resolve at hp ⊢
  split at hp
  · cases hp
  · next hlength =>
    rw [if_neg hlength]
    exact h.walk hp

/-- A path ends where its last part says. -/
theorem getLast?_place {name : Text} (h : p.parts.getLast? = some name)
    (hname : name ≠ "..") : p.place.getLast? = some name := by
  obtain ⟨before, hparts⟩ := List.getLast?_eq_some_iff.mp h
  rw [Path.place, hparts, List.foldl_append, List.foldl_cons, List.foldl_nil, step,
    if_pos (bne_iff_ne.mpr hname), List.getLast?_concat]

/-! ## Putting -/

theorem node?_of_isGiven (h : isGiven place = true) (t : FileTree) :
    t.node? place = some (.directory directoryMode) := if_pos h

theorem extends_put (h : ∀ old, t.node? place = some old → old.Continues node) :
    t.Extends (t.put place node) := by
  intro other old hold
  by_cases hother : other = place
  · subst hother
    cases hgiven : isGiven other with
    | true =>
      rw [node?_of_isGiven hgiven] at hold ⊢
      cases hold
      exact ⟨_, rfl, .refl _⟩
    | false => exact ⟨node, node?_put_self hgiven, h old hold⟩
  · rw [node?_put_of_ne hother]
    exact ⟨old, hold, .refl old⟩

theorem contents_put_self (h : isGiven place = false) :
    (t.put place node).contents place = node.octets := contents_of_node? (node?_put_self h)

theorem contents_put_of_ne (h : other ≠ place) :
    (t.put place node).contents other = t.contents other := by
  rw [contents, contents, node?_put_of_ne h]

theorem prepares_put (h : ∀ old, t.node? place = some old → old.Continues node)
    (hcontents : node.octets = t.contents place) : t.Prepares (t.put place node) := by
  refine ⟨extends_put h, fun other => ?_⟩
  by_cases hother : other = place
  · subst hother
    cases hgiven : isGiven other with
    | true =>
      have hbefore := contents_of_node? (node?_of_isGiven hgiven t)
      exact (contents_of_node? (node?_of_isGiven hgiven _)).trans hbefore.symm
    | false => rw [contents_put_self hgiven, hcontents]
  · exact contents_put_of_ne hother

theorem prepares_put_of_none (h : t.node? place = none) (hnode : node.octets = []) :
    t.Prepares (t.put place node) := by
  have hcontents : t.contents place = [] := by
    rw [contents, h]
    rfl
  refine prepares_put (fun old hold => ?_) (hnode.trans hcontents.symm)
  rw [h] at hold
  cases hold

theorem prepares_put_directory {mode : Nat} (h : t.node? place = some (.directory mode))
    (mode' : Nat) : t.Prepares (t.put place (.directory mode')) := by
  refine prepares_put (fun old hold => ?_) (contents_of_node? h).symm
  rw [h] at hold
  cases hold
  exact .directory mode mode'

theorem isGiven_eq_false_of_none (h : t.node? place = none) : isGiven place = false := by
  cases hgiven : isGiven place with
  | false => rfl
  | true =>
    rw [node?_of_isGiven hgiven] at h
    cases h

/-! ## Directories -/

theorem isDirectory_iff : t.isDirectory p = true ↔
    ∃ place mode, t.resolve p = .ok place ∧ t.node? place = some (.directory mode) := by
  unfold isDirectory find
  cases t.resolve p with
  | error e => simp [bind, Except.bind]
  | ok place =>
    simp only [bind, Except.bind, Except.ok.injEq, exists_and_left, exists_eq_left']
    cases t.node? place with
    | none => simp
    | some node => cases node <;> simp [pure, Except.pure]

theorem makeDirectory_eq_ok (h : t.makeDirectory p = .ok t') :
    t.Prepares t' ∧ t'.isDirectory p = true := by
  unfold makeDirectory at h
  cases hplace : t.resolve p with
  | error e =>
    rw [hplace] at h
    cases h
  | ok place =>
    rw [hplace] at h
    simp only [bind, Except.bind] at h
    split at h
    · cases h
    · next hnone =>
      cases h
      have hgiven := isGiven_eq_false_of_none hnone
      have hprepares : t.Prepares (t.put place (.directory directoryMode)) :=
        prepares_put_of_none hnone rfl
      exact ⟨hprepares, isDirectory_iff.mpr
        ⟨place, directoryMode, hprepares.grown.resolve hplace, node?_put_self hgiven⟩⟩

theorem ensureDirectory_eq_ok (h : t.ensureDirectory p = .ok t') :
    t.Prepares t' ∧ t'.isDirectory p = true := by
  unfold ensureDirectory at h
  split at h
  · next hmade =>
    cases h
    exact makeDirectory_eq_ok hmade
  · cases h
  · split at h
    · next hdirectory =>
      cases h
      exact ⟨.refl t, hdirectory⟩
    · cases h

theorem prepares_makeDirectoriesUpTo (t : FileTree) (p : Path) (n : Nat) :
    t.Prepares (t.makeDirectoriesUpTo p n).1 := by
  induction n with
  | zero => exact .refl t
  | succ n ih =>
    rw [makeDirectoriesUpTo]
    split
    · next hhere => exact (ensureDirectory_eq_ok hhere).1
    · split
      · next made hmade =>
        rw [hmade] at ih
        split
        · next hhere => exact ih.trans (ensureDirectory_eq_ok hhere).1
        · exact ih
      · exact ih
    · exact .refl t

/-- The directory of the first parts is there when it was made. -/
theorem isDirectory_of_makeDirectoriesUpTo {n : Nat}
    (h : t.makeDirectoriesUpTo p (n + 1) = (t', .ok ())) :
    t'.isDirectory { p with parts := p.parts.take (n + 1) } = true := by
  rw [makeDirectoriesUpTo.eq_def] at h
  dsimp only at h
  split at h
  · next hhere =>
    cases h
    exact (ensureDirectory_eq_ok hhere).2
  · split at h
    · split at h
      · next hhere =>
        cases h
        exact (ensureDirectory_eq_ok hhere).2
      · cases h
    · next hfailure =>
      cases hfailure t' h
  · cases h

theorem prepares_makeDirectories (t : FileTree) (p : Path) :
    t.Prepares (t.makeDirectories p).1 := by
  unfold makeDirectories
  split
  · exact .refl t
  · exact prepares_makeDirectoriesUpTo t p p.parts.length

/-- A path whose directory was made leads to it, unless what it leads to is there anyway. -/
theorem isDirectory_of_makeDirectories (h : t.makeDirectories p = (t', .ok ()))
    (hplace : t'.resolve p = .ok place) (hgiven : isGiven place = false) :
    t'.isDirectory p = true := by
  obtain ⟨root, parts⟩ := p
  cases parts with
  | nil =>
    -- without parts a path leads to the root or to the working directory, which are given
    rw [eq_place_of_resolve hplace, Path.place, List.foldl_nil] at hgiven
    split at hgiven <;> cases hgiven
  | cons part rest =>
    unfold makeDirectories at h
    split at h
    · cases h
    · rcases hmade : t.makeDirectoriesUpTo ⟨root, part :: rest⟩ (rest.length + 1)
        with ⟨made, outcome⟩
      rw [List.length_cons, hmade] at h
      cases outcome with
      | error e => cases h
      | ok _ =>
        cases h
        have hhere := isDirectory_of_makeDirectoriesUpTo hmade
        rwa [← List.length_cons (a := part), List.take_length] at hhere

/-- Permissions are only taken from what is a directory. -/
theorem prepares_restrict (h : t.makeDirectories p = (t', .ok ())) :
    t'.Prepares (t'.restrict p) := by
  unfold restrict
  split
  · next place hplace =>
    split
    · exact .refl t'
    · next hgiven =>
      have hdirectory := isDirectory_of_makeDirectories h hplace (Bool.eq_false_iff.mpr hgiven)
      obtain ⟨place', mode, hplace', hnode⟩ := isDirectory_iff.mp hdirectory
      rw [hplace] at hplace'
      cases hplace'
      exact prepares_put_directory hnode privateMode
  · exact .refl t'

/-! ## Files -/

/-- A path leads to a file. -/
structure HasFile (t : FileTree) (p : Path) : Prop where
  leads : t.resolve p = .ok p.place
  there : t.node? p.place = some (.file (t.contents p.place))

theorem hasFile_of_node? (hplace : t.resolve p = .ok place)
    (hnode : t.node? place = some (.file octets)) : t.HasFile p := by
  cases eq_place_of_resolve hplace
  refine ⟨hplace, ?_⟩
  rw [contents_of_node? hnode]
  exact hnode

theorem Extends.hasFile (h : t.Extends t') (hp : t.HasFile p) : t'.HasFile p := by
  obtain ⟨node', hnode', hgoes⟩ := h hp.there
  cases hgoes
  exact hasFile_of_node? (h.resolve hp.leads) hnode'

/-- Opening a file writes nothing and leaves a file to append to. -/
theorem openToAppend_eq_ok (h : t.openToAppend p = .ok t') : t.Prepares t' ∧ t'.HasFile p := by
  unfold openToAppend at h
  split at h
  · cases h
  · next place hplace =>
    split at h
    · cases h
    · next hnode =>
      cases h
      exact ⟨.refl t, hasFile_of_node? hplace hnode⟩
    · next hnone =>
      cases h
      have hprepares : t.Prepares (t.put place (.file [])) := prepares_put_of_none hnone rfl
      exact ⟨hprepares, hasFile_of_node? (hprepares.grown.resolve hplace)
        (node?_put_self (isGiven_eq_false_of_none hnone))⟩

theorem openToAppend_eq_error {f : FileFault} (h : t.openToAppend p = .error f) :
    ∃ e, f = .system e p.text := by
  unfold openToAppend at h
  split at h
  · next e _ =>
    cases h
    exact ⟨e, rfl⟩
  · split at h
    · cases h
      exact ⟨.isDirectory, rfl⟩
    · cases h
    · cases h

theorem HasFile.isGiven_eq_false (h : t.HasFile p) : isGiven p.place = false := by
  cases hgiven : isGiven p.place with
  | false => rfl
  | true =>
    have hthere := h.there
    rw [node?_of_isGiven hgiven] at hthere
    cases hthere

theorem HasFile.append_eq (h : t.HasFile p) (octets : List UInt8) :
    t.append p octets = t.put p.place (.file (t.contents p.place ++ octets)) := by
  rw [append, h.leads]
  dsimp only
  rw [h.there]

theorem HasFile.contents_append (h : t.HasFile p) (octets : List UInt8) :
    (t.append p octets).contents p.place = t.contents p.place ++ octets := by
  rw [h.append_eq, contents_put_self h.isGiven_eq_false]
  rfl

theorem HasFile.node?_append_of_ne (h : t.HasFile p) (octets : List UInt8)
    (hother : other ≠ p.place) : (t.append p octets).node? other = t.node? other := by
  rw [h.append_eq, node?_put_of_ne hother]

theorem HasFile.contents_append_of_ne (h : t.HasFile p) (octets : List UInt8)
    (hother : other ≠ p.place) : (t.append p octets).contents other = t.contents other := by
  rw [contents, contents, h.node?_append_of_ne octets hother]

/-- Appending takes nothing away, whether there is a file or not. -/
theorem extends_append (t : FileTree) (p : Path) (octets : List UInt8) :
    t.Extends (t.append p octets) := by
  unfold append
  split
  · exact .refl t
  · split
    · next before hnode =>
      refine extends_put fun old hold => ?_
      rw [hnode] at hold
      cases hold
      exact .file before octets
    · exact .refl t

end FileTree

end StepUp
