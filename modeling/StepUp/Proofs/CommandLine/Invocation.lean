import StepUp.CommandLine.Invocation
import StepUp.Proofs.Validation.Checked

/-!
# Asking for a dry run

Each dry run can be asked for: its options are written out one after the other, a value behind each
long name (`DryRun.arguments`), and are read as they were written, whatever the values are
(`Invocation.ofArguments_arguments`).
-/

namespace StepUp

/-! ## Reading options that were written out -/

/-- The option with each of some values, by its long name. -/
def OptionSpec.arguments (o : OptionSpec) (values : List Text) : List Text :=
  values.flatMap fun value => [o.long, value]

/-- The long name of the option announces a value. -/
def OptionSpec.Announces (specs : List OptionSpec) (o : OptionSpec) : Prop :=
  o.long ≠ "--" ∧ Token.of? specs o.long = some (.ok { waiting := some (o.long, o) })

/-- Values of an option are read in the order in which they are written. -/
theorem readArguments_arguments {specs : List OptionSpec} {o : OptionSpec}
    (h : o.Announces specs) (mixed : Bool) (values rest : List Text) :
    readArguments specs mixed (o.arguments values ++ rest) =
      (readArguments specs mixed rest).map fun r =>
        { r with options := values.map (fun value => (o.long, value)) ++ r.options } := by
  induction values with
  | nil =>
    simp only [OptionSpec.arguments, List.flatMap_nil, List.nil_append, List.map_nil]
    cases readArguments specs mixed rest <;> rfl
  | cons value values ih =>
    obtain ⟨hdashes, htoken⟩ := h
    have hread : ∀ rest, readArguments specs mixed (o.long :: value :: rest) =
        (readArguments specs mixed rest).map fun r => r.add o value := by
      intro rest
      rw [readArguments, if_neg hdashes, htoken]
      rfl
    have harguments : o.arguments (value :: values) ++ rest =
        o.long :: value :: (o.arguments values ++ rest) := rfl
    rw [harguments, hread, ih]
    cases readArguments specs mixed rest <;> rfl

theorem CommandSpec.announces_resolve {o : OptionSpec} (h : o ∈ resolve.options) :
    o.Announces resolve.allOptions := by
  simp only [resolve, List.mem_cons, List.not_mem_nil, or_false] at h
  rcases h with rfl | rfl | rfl | rfl | rfl
  · exact ⟨by decide, rfl⟩
  · exact ⟨by decide, rfl⟩
  · exact ⟨by decide, rfl⟩
  · exact ⟨by decide, rfl⟩
  · exact ⟨by decide, rfl⟩

/-! ## Options with their values -/

/-- Options, each with the values that it is given. -/
abbrev Options := List (OptionSpec × List Text)

namespace Options

def longs (options : Options) : List Text := options.map fun p => p.1.long

def arguments (options : Options) : List Text := options.flatMap fun p => p.1.arguments p.2

/-- What is read of the arguments. -/
def pairs (options : Options) : List (Text × Text) :=
  options.flatMap fun p => p.2.map fun value => (p.1.long, value)

variable {options : Options}

theorem readArguments_eq {specs : List OptionSpec}
    (h : ∀ p ∈ options, p.1.Announces specs) (mixed : Bool) :
    readArguments specs mixed options.arguments = .ok { options := options.pairs } := by
  induction options with
  | nil => rfl
  | cons p options ih =>
    obtain ⟨hp, hrest⟩ := List.forall_mem_cons.mp h
    rw [arguments, List.flatMap_cons, readArguments_arguments hp, ← arguments, ih hrest]
    rfl

theorem ne_of_mem_pairs {long : Text} (h : long ∉ options.longs) :
    ∀ q ∈ options.pairs, q.1 ≠ long := by
  intro q hq heq
  obtain ⟨p, hp, hq⟩ := List.mem_flatMap.mp hq
  obtain ⟨value, -, rfl⟩ := List.mem_map.mp hq
  exact h (heq ▸ List.mem_map_of_mem hp)

/-- An option that is not among them is not given. -/
theorem not_isGiven {long : Text} (h : long ∉ options.longs) :
    Reading.isGiven { options := options.pairs } long = false := by
  rw [Reading.isGiven, List.any_eq_false]
  intro q hq
  simpa using ne_of_mem_pairs h q hq

/-- Each option has the values that it is given, if it is there once. -/
theorem values_eq {rest : List Text} {o : OptionSpec} {values : List Text}
    (hdistinct : options.longs.Nodup) (h : (o, values) ∈ options) :
    Reading.values { options := options.pairs, rest := rest } o.long = values := by
  have hblock : ∀ p : OptionSpec × List Text,
      (p.2.map fun value => (p.1.long, value)).filter (fun q => q.1 == o.long) =
        if p.1.long = o.long then p.2.map fun value => (p.1.long, value) else [] := by
    intro p
    by_cases hp : p.1.long = o.long
    · rw [if_pos hp, List.filter_eq_self]
      simp [hp]
    · rw [if_neg hp, List.filter_eq_nil_iff]
      simp [hp]
  induction options with
  | nil => cases h
  | cons p options ih =>
    have hnew : p.1.long ∉ longs options := (List.nodup_cons.mp hdistinct).1
    have hrest : (longs options).Nodup := (List.nodup_cons.mp hdistinct).2
    rw [Reading.values, pairs, List.flatMap_cons, ← pairs, List.filter_append, hblock,
      List.map_append]
    rcases List.mem_cons.mp h with rfl | hmem
    · have hnone : (pairs options).filter (fun q => q.1 == o.long) = [] := by
        rw [List.filter_eq_nil_iff]
        intro q hq
        simpa using ne_of_mem_pairs hnew q hq
      simp [hnone, Function.comp_def]
    · have hlong : o.long ∈ longs options := List.mem_map.mpr ⟨_, hmem, rfl⟩
      have hother : p.1.long ≠ o.long := fun heq => hnew (heq ▸ hlong)
      rw [if_neg hother, List.map_nil, List.nil_append]
      exact ih hrest hmem

end Options

/-! ## The options of a dry run -/

namespace DryRun

def options (path : Text) (d : DryRun) : Options :=
  [(CommandSpec.pathOption, [path]), (CommandSpec.serviceOption, d.service.toList),
    (CommandSpec.methodOption, d.method.toList), (CommandSpec.principalOption, d.principal.toList),
    (CommandSpec.attributeOption, d.attributes)]

/-- The arguments that ask for a dry run. -/
def arguments (path : Text) (d : DryRun) : List Text := "resolve" :: (d.options path).arguments

/-- What is read of the options. -/
def reading (path : Text) (d : DryRun) : Reading := { options := (d.options path).pairs }

theorem longs_options (path : Text) (d : DryRun) :
    (d.options path).longs = CommandSpec.resolve.options.map OptionSpec.long := rfl

theorem readFor_options (path : Text) (d : DryRun) :
    Invocation.readFor .resolve true (d.options path).arguments = .ok (d.reading path) := by
  have hannounced : ∀ p ∈ d.options path, p.1.Announces CommandSpec.resolve.allOptions := by
    intro p hp
    have hmem : p.1 ∈ (d.options path).map Prod.fst := List.mem_map_of_mem hp
    exact CommandSpec.announces_resolve hmem
  rw [Invocation.readFor, Options.readArguments_eq hannounced]
  rfl

theorem not_isGiven_help (path : Text) (d : DryRun) :
    (d.reading path).isGiven CommandSpec.helpOption.long = false := by
  apply Options.not_isGiven
  rw [longs_options]
  decide

theorem values_reading (path : Text) (d : DryRun) : ∀ p ∈ d.options path,
    (d.reading path).values p.1.long = p.2 := by
  intro p hp
  apply Options.values_eq _ hp
  rw [longs_options]
  decide

end DryRun

theorem Reading.value?_of_values {r : Reading} {long : Text} {value : Option Text}
    (h : r.values long = value.toList) : r.value? long = value := by
  rw [value?, h]
  cases value <;> rfl

/-- **Every dry run can be asked for**, with any values for its options. -/
theorem Invocation.ofArguments_arguments {s : ArgumentScope} {path : Text} (d : DryRun)
    (h : s.isDirectory path = false) :
    ofArguments s (d.arguments path) = .ok (.resolve path d) := by
  have hvalues := d.values_reading path
  simp only [DryRun.options, List.forall_mem_cons] at hvalues
  obtain ⟨hpath, hservice, hmethod, hprincipal, hattributes, -⟩ := hvalues
  have hchecked : pathOf s .resolve (d.reading path) = .ok path := by
    have hpath : (d.reading path).value? CommandSpec.pathOption.long = some path :=
      Reading.value?_of_values hpath
    rw [pathOf, hpath]
    simp [h]
  have hresolve : ofResolve s (d.options path).arguments = .ok (.resolve path d) := by
    rw [ofResolve, ofCommand, DryRun.readFor_options]
    simp only [bind, Except.bind, d.not_isGiven_help, hchecked,
      Reading.value?_of_values hservice, Reading.value?_of_values hmethod,
      Reading.value?_of_values hprincipal, hattributes]
    rfl
  -- the word is no option of the program and ends what the program reads
  have hword : readFor .program false (d.arguments path) = .ok { rest := d.arguments path } := rfl
  rw [ofArguments, hword]
  exact hresolve

end StepUp
