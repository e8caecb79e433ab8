import StepUp.Proofs.Config.Policy
import StepUp.Proofs.Glob.Language

/-!
# The definition that governs an id

A directory that holds its definitions in a list finds the first one whose glob stands for the id,
and none just if the globs of none do (`ServiceDirectory.found_iff_matches`). A glob stands for
what is written in it unless a `!` stands behind reversed ranges between brackets; a definition
that is written for an id may then miss it (`ServiceDirectory.shifted_missed`).
-/

namespace StepUp

namespace ServiceDirectory

variable {definitions : List ServiceDefinition} {id : Text} {d : ServiceDefinition}

theorem governs_iff_matches : d.governs id = true ↔ Glob.Matches Glob.admits d.serviceId id :=
  Glob.describes_parse d.serviceId id

/-- **The definition that governs an id.** It is the first one whose glob stands for the id, and
there is none just if the globs of none do. A glob stands for what is written in it, where no `!`
is behind reversed ranges between brackets. A run of stars means the same as one star. -/
theorem found_iff_matches (definitions : List ServiceDefinition) (id : Text) :
    (∀ d, (ofList definitions).find id = .ok (some d) ↔
      ∃ before after, definitions = before ++ d :: after ∧
        Glob.Matches Glob.admits d.serviceId id ∧
          ∀ b ∈ before, ¬ Glob.Matches Glob.admits b.serviceId id) ∧
      ((ofList definitions).find id = .ok none ↔
        ∀ d ∈ definitions, ¬ Glob.Matches Glob.admits d.serviceId id) ∧
      (∀ p, Glob.Unshifted p → ∀ t,
        (Glob.Matches Glob.admits p t ↔ Glob.Matches Glob.plainly p t)) ∧
      ∀ p t, (Glob.squeeze (Glob.parse p)).describes t = true ↔
        Glob.Matches Glob.admits p t := by
  refine ⟨fun d => ?_, ?_, fun p hp t => Glob.matches_plainly_iff hp, fun p t => ?_⟩
  · rw [find_ofList_iff, Governing]
    simp only [governs_iff_matches, ← Bool.not_eq_true]
  · have hfind : (ofList definitions).find id = .ok none ↔
        definitions.find? (·.governs id) = none := by
      rw [ofList, Except.ok.injEq]
      rfl
    rw [hfind, List.find?_eq_none]
    simp only [governs_iff_matches]
  · rw [Glob.describes_iff_denotes, Glob.denotes_squeeze, Glob.denotes_parse]

/-- The first glob has a bracket expression and a run of stars. It comes before a star. -/
theorem found_iff_matches_wiki :
    let wiki : ServiceDefinition := ⟨"wiki", "[!a-c]?*/**", none, []⟩
    let definitions : List ServiceDefinition := [wiki, ⟨"all", "*", none, []⟩]
    (ofList definitions).find "docs/x/y" = .ok (some wiki) ∧
      Glob.Matches Glob.plainly wiki.serviceId "docs/x/y" ∧
        (ofList definitions).find "a/x" ≠ .ok none := by
  intro wiki definitions
  have hfind : (ofList definitions).find "docs/x/y" = .ok (some wiki) := by
    decide +kernel +revert
  obtain ⟨hfirst, -, hplain, -⟩ := found_iff_matches definitions "docs/x/y"
  obtain ⟨-, hnone, -, -⟩ := found_iff_matches definitions "a/x"
  have hclosed : Glob.Closes "!a-c" "!a-c]?*/**" "?*/**" := ⟨.complement (by decide), rfl⟩
  have hunshifted : Glob.Unshifted wiki.serviceId := by
    rintro q inside rest hq hclosed' ⟨hsign, -⟩
    rcases List.suffix_cons_iff.mp hq with heq | hq
    · obtain rfl := (List.cons.inj heq).2
      obtain ⟨rfl, -⟩ := hclosed.unique hclosed'
      exact hsign rfl
    · exact absurd (hq.subset List.mem_cons_self) (by decide)
  refine ⟨hfind, ?_, ?_⟩
  · obtain ⟨before, after, -, hmatches, -⟩ := (hfirst wiki).mp hfind
    exact (hplain _ hunshifted _).mp hmatches
  · intro h
    have hstar : Glob.Matches Glob.admits "*" "a/x" := Glob.matches_star_iff.mpr
      ⟨"a/x", [], rfl, .done⟩
    exact hnone.mp h _ (List.mem_cons_of_mem _ List.mem_cons_self) hstar

/-- The brackets are written for `!` and `c`, the range in front being reversed. What is asked for
is anything but `c`. -/
theorem shifted_missed :
    let d : ServiceDefinition := ⟨"a", "[b-a!c]", none, []⟩
    Glob.Matches Glob.plainly d.serviceId "c" ∧ (ofList [d]).find "c" = .ok none := by
  intro d
  have hclosed : Glob.Closes "b-a!c" "b-a!c]" [] := ⟨.plain (by decide) (by decide), rfl⟩
  refine ⟨.bracket hclosed (by decide) .done, ?_⟩
  decide +kernel +revert

end ServiceDirectory

end StepUp
