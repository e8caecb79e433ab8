import StepUp.Proofs.Pattern.Reading
import StepUp.Proofs.Role.Rule

/-!
# Which roles grant a method

The pattern of a rule stands for a language (`Pattern.Denotes`). The rule grants its method for the
roles that the user holds and that are words of that language, each as a whole, and for no others
(`RoleRules.grants_iff_mem`). How the pattern is searched, in which order its alternatives stand
and how greedy its quantifiers are makes no difference.
-/

namespace StepUp.RoleRules

open Pattern

theorem grants_iff_mem {rules : RoleRules} {d : ServiceDefinition} {rule : RoleRule}
    {p : Pattern} {L : Language CodePoint} (hstates : rules.States d rule)
    (hp : Pattern.compile rule.pattern = .ok p) (hL : Denotes rule.pattern L)
    (a : Authentication) :
    ∃ gs, (rules.evaluate a d).grants = .ok gs ∧ ∀ g, g ∈ gs ↔
      g.method = rule.method ∧ RoleRule.HeldBy g.role rule a.principal ∧ g.role ∈ L := by
  refine ⟨_, evaluate_of_read hstates hp, fun g => ?_⟩
  rw [mem_grantsOf_iff, describes_compile hL hp]

/-- An earlier alternative that takes less, and iterations that take nothing. -/
theorem grants_iff_mem_nested :
    let sms : Method := ⟨"sms", 1⟩
    let rule : RoleRule := ⟨"groups", "(a?|ab)*", sms⟩
    let d : ServiceDefinition := ⟨"app", "app", none, [("mfa_attribute_name", "groups"),
      ("mfa_attribute_pattern", "(a?|ab)*"), ("authn_method", "sms")]⟩
    let rules : RoleRules := ⟨⟨[sms], by decide⟩, "authn_method"⟩
    let ann : Authentication := ⟨⟨"ann", [("groups", .arr [.str "abaab", .str "abx"])]⟩⟩
    let word (c : CodePoint) : Language CodePoint := single {c}
    let L : Language CodePoint := repetition 0 none
      (repetition 0 (some 1) (word 'a') * 1 + word 'a' * (word 'b' * 1)) * 1
    rules.States d rule ∧ Denotes rule.pattern L ∧
      ∃ gs, (rules.evaluate ann d).grants = .ok gs ∧
        (⟨sms, "abaab"⟩ ∈ gs ∧ ("abaab" : Text) ∈ L) ∧
          (⟨sms, "abx"⟩ ∉ gs ∧ ("abx" : Text) ∉ L) := by
  intro sms rule d rules ann word L
  have hstates : rules.States d rule :=
    ⟨rfl, by decide, rfl, by decide, rfl, by decide, List.mem_singleton_self _⟩
  have hL : Denotes rule.pattern L := by
    have ha : Atom "a" (word 'a') := .literal (by decide)
    have hb : Atom "b" (word 'b') := .literal (by decide)
    have hoptional : Sequence "a?" (repetition 0 (some 1) (word 'a') * 1) :=
      .repeated ha .optional .greedy .empty
    have hboth : Sequence "ab" (word 'a' * (word 'b' * 1)) :=
      .item ha (absurd · (by decide)) (.item hb (absurd · (by decide)) .empty)
    have hgroup : Atom "(a?|ab)" _ := .capture (.either hoptional (.sequence hboth))
    exact .sequence (.repeated hgroup .star .greedy .empty)
  have hruns : ((Pattern.compile rule.pattern).toOption.map fun p =>
      (p.describes "abaab", p.describes "abx")) = some (true, false) := by decide +kernel
  cases hp : Pattern.compile rule.pattern with
  | error e =>
    rw [hp] at hruns
    cases hruns
  | ok p =>
    rw [hp] at hruns
    obtain ⟨hword, hother⟩ := Prod.mk.inj (Option.some.inj hruns)
    obtain ⟨gs, hgs, hgrants⟩ := grants_iff_mem hstates hp hL ann
    obtain rfl : _ = gs := Except.ok.inj ((evaluate_of_read hstates hp).symm.trans hgs)
    have hheld : RoleRule.HeldBy "abaab" rule ann.principal :=
      ⟨List.mem_cons_self, by decide⟩
    have hheld' : RoleRule.HeldBy "abx" rule ann.principal :=
      ⟨List.mem_cons_of_mem _ List.mem_cons_self, by decide⟩
    have hgranted : ⟨sms, "abaab"⟩ ∈ grantsOf p rule.method ann.principal rule.attributeName :=
      mem_grantsOf_iff.mpr ⟨rfl, hheld, hword⟩
    have hrefused : ⟨sms, "abx"⟩ ∉ grantsOf p rule.method ann.principal rule.attributeName := by
      intro h
      cases hother.symm.trans (mem_grantsOf_iff.mp h).2.2
    refine ⟨hstates, hL, _, hgs, ⟨hgranted, ((hgrants _).mp hgranted).2.2⟩, hrefused, ?_⟩
    intro hmem
    exact hrefused ((hgrants ⟨sms, "abx"⟩).mpr ⟨rfl, hheld', hmem⟩)

end StepUp.RoleRules
