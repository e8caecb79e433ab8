import StepUp.Text.Ranges

/-!
# Glob patterns

In a glob `*` stands for any text, `?` for any one code point, a bracket expression for one code
point of its set or, after `!`, of the complement; everything else stands for itself, also a `[`
that no `]` closes. A `]` in the first place of a bracket expression is a member.

`Glob.describes` fills one row of a table for every token, from the last token to the first: for
each suffix of the text, whether the tokens from here on describe it.
-/

namespace StepUp

inductive GlobToken where
  | star
  | anyOne
  | literal (c : CodePoint)
  | oneOf (negated : Bool) (members : Ranges)

abbrev Glob := List GlobToken

theorem Text.length_of_splitAtFirst {c : CodePoint} {t u v : Text}
    (h : t.splitAtFirst c = some (u, v)) : v.length < t.length := by
  induction t generalizing u v with
  | nil => simp [splitAtFirst] at h
  | cons d rest ih =>
    rw [splitAtFirst] at h
    split at h
    · cases h; simp
    · obtain ⟨⟨s, t⟩, hst, heq⟩ := Option.map_eq_some_iff.1 h
      cases heq
      have := ih hst
      simp only [List.length_cons]
      omega

namespace Glob

/-- The parts of a bracket expression between its range hyphens. A hyphen among the first `skip`
code points of a part is no range hyphen. -/
def parts (skip : Nat) (t : Text) : List Text :=
  match _h : Text.splitAtFirst (CodePoint.ofChar '-') (t.drop skip) with
  | none => [t]
  | some (before, after) => (t.take skip ++ before) :: parts 2 after
termination_by t.length
decreasing_by
  have := Text.length_of_splitAtFirst _h
  simp only [List.length_drop] at this
  omega

/-- A hyphen at the very end is a member of the part before it. -/
def keepLastHyphen : List Text → List Text
  | [] => []
  | [p] => [p]
  | [p, []] => [p ++ [CodePoint.ofChar '-']]
  | p :: q :: rest => p :: keepLastHyphen (q :: rest)

/-- Put a part before others; a reversed range between them is empty and goes away with its two
ends. -/
def joinPart (p : Text) : List Text → List Text
  | [] => [p]
  | q :: rest =>
    match p.getLast?, q.head? with
    | some lo, some hi => if hi.val < lo.val then (p.dropLast ++ q.tail) :: rest else p :: q :: rest
    | _, _ => p :: q :: rest

def single (c : CodePoint) : Nat × Nat := (c.val, c.val)

/-- The members that parts denote: the code points of the parts, and a range wherever two parts
meet. Where there is no code point for a range to start from, the hyphen is a member. -/
def members : List Text → Ranges
  | [] => []
  | [p] => p.map single
  | p :: q :: rest =>
    match p.getLast?, q with
    | some lo, hi :: _ => p.dropLast.map single ++ (lo.val, hi.val) :: members (q :: rest)
    | _, _ => single '-' :: members (q :: rest)

/-- A bracket expression from what stands between the brackets. If nothing remains of it, it
matches nothing; if only the complement sign remains, it matches everything. -/
def bracket (inside : Text) : GlobToken :=
  let skip := if inside.head? = some (CodePoint.ofChar '!') then 2 else 1
  match (keepLastHyphen (parts skip inside)).foldr joinPart [] with
  | (c :: p) :: rest =>
    if c = '!' then .oneOf true (members (p :: rest)) else .oneOf false (members ((c :: p) :: rest))
  | ps => .oneOf false (members ps)

/-- What stands between the brackets, given the text after the opening one. -/
def inside? (t : Text) : Option Text :=
  let sign := if t.head? = some (CodePoint.ofChar '!') then 1 else 0
  let opening := if (t.drop sign).head? = some (CodePoint.ofChar ']') then sign + 1 else sign
  match Text.splitAtFirst (CodePoint.ofChar ']') (t.drop opening) with
  | none => none
  | some (before, _) => some (t.take opening ++ before)

def parse (t : Text) : Glob :=
  match t with
  | [] => []
  | c :: rest =>
    if c = '*' then .star :: parse rest
    else if c = '?' then .anyOne :: parse rest
    else if c = '[' then
      match inside? rest with
      | some inside => bracket inside :: parse (rest.drop (inside.length + 1))
      | none => .literal c :: parse rest
    else .literal c :: parse rest
termination_by t.length
decreasing_by all_goals simp only [List.length_cons, List.length_drop]; omega

end Glob

namespace GlobToken

/-- Whether a token other than the star describes a code point. -/
def accepts : GlobToken → CodePoint → Bool
  | .star, _ => false
  | .anyOne, _ => true
  | .literal c, d => c == d
  | .oneOf negated members, c => members.contains c.val != negated

end GlobToken

namespace Glob

/-- For each suffix of a text, the longest first, whether it is empty. -/
def emptyRow (t : Text) : List Bool := t.map (fun _ => false) ++ [true]

/-- The row of a single token in front of a row: one code point, then the rest. -/
def oneRow (token : GlobToken) (t : Text) (row : List Bool) : List Bool :=
  List.zipWith (fun c next => token.accepts c && next) t row.tail ++ [false]

/-- The row of a star in front of a row: any suffix of the suffix will do. -/
def starRow : List Bool → List Bool
  | [] => []
  | b :: row => let rest := starRow row; (b || rest.headD false) :: rest

def row (t : Text) : Glob → List Bool
  | [] => emptyRow t
  | .star :: g => starRow (row t g)
  | token :: g => oneRow token t (row t g)

/-- Whether the glob describes the whole text. -/
def describes (g : Glob) (t : Text) : Bool := (row t g).headD false

end Glob

end StepUp
