import StepUp.Config.File
import StepUp.Proofs.Config.Sound
import StepUp.Proofs.File.Tree
import StepUp.Proofs.Json.Reading
import StepUp.Proofs.Text.Utf8

/-!
# Saved configurations

A configuration that validation accepted and that has no surrogates is saved without loss: its
document has only exact leaves and distinct keys (`Config.regular_toJson`), the text of the
document is ASCII with line feeds, so neither the octets nor the line breaks of a file change it
(`Config.tame_save`), and what is read from it passes validation with the same result.
`Config.load_save` puts this together with the file that is written.

With surrogates it is otherwise. In a property key they become replacement characters when the
document is made, which can make two keys one, and of two escapes side by side the reader makes one
character.
-/

namespace StepUp

/-- No text and no property key of a service definition has a surrogate. -/
structure ServiceDefinition.Unicode (d : ServiceDefinition) : Prop where
  id : d.id.Unicode
  serviceId : d.serviceId.Unicode
  name : ∀ t ∈ d.name, Text.Unicode t
  properties : ∀ q ∈ d.properties, Text.Unicode q.1 ∧ Text.Unicode q.2

namespace Config

variable {c : Config}

/-- No text and no property key of a configuration has a surrogate. -/
structure Unicode (c : Config) : Prop where
  methods : ∀ m ∈ c.methods, m.name.Unicode
  defaultMethod : ∀ t ∈ c.defaultMethod, Text.Unicode t
  parameter : c.methodParameter.Unicode
  property : c.serviceMethodProperty.Unicode
  principal : ∀ t ∈ c.principalMethodAttribute, Text.Unicode t
  services : ∀ d ∈ c.services, d.Unicode
  logDir : ∀ t ∈ c.logging.logDir, Text.Unicode t

/-! ## The saved document -/

theorem withoutSurrogates_of_unicode {t : Text} (h : t.Unicode) :
    Problem.withoutSurrogates t = t := by
  induction t with
  | nil => rfl
  | cons c t ih =>
    obtain ⟨hc, ht⟩ := List.forall_mem_cons.mp h
    rw [Problem.withoutSurrogates, List.flatMap_cons, if_neg (Bool.eq_false_iff.mp hc)]
    exact congrArg (c :: ·) (ih ht)

theorem gather_of_nodup {properties : List (Text × Text)}
    (h : (properties.map Prod.fst).Nodup) :
    properties.foldl (fun ps p => if (ps.lookup p.1).isSome then ps.map fun q =>
      if q.1 = p.1 then p else q else ps ++ [p]) [] = properties := by
  refine Json.foldl_of_nodup (fun entries q hq => if_neg ?_) ((List.nil_append properties).symm ▸ h)
  have hnone : entries.lookup q.1 = none := by
    refine List.lookup_eq_none_iff.mpr fun e he => ?_
    exact bne_iff_ne.mpr (ne_of_mem_of_not_mem (List.mem_map_of_mem he) hq).symm
  rw [hnone]
  exact Bool.false_ne_true

/-- What becomes of the properties of a service definition leaves these ones as they are. -/
theorem savedJson_eq (hsound : c.Sound) (hunicode : c.Unicode) : c.savedJson = c.toJson := by
  have hservices : (c.services.map fun d =>
      let pairs := d.properties.map fun p => (Problem.withoutSurrogates p.1, p.2)
      { d with
        properties := pairs.foldl (fun ps p =>
          if (ps.lookup p.1).isSome then ps.map fun q => if q.1 = p.1 then p else q
          else ps ++ [p]) [] }) = c.services := by
    refine (List.map_congr_left fun d hd => ?_).trans (List.map_id' c.services)
    have hpairs : (d.properties.map fun p => (Problem.withoutSurrogates p.1, p.2)) =
        d.properties := by
      refine (List.map_congr_left fun q hq => ?_).trans (List.map_id' d.properties)
      rw [withoutSurrogates_of_unicode ((hunicode.services d hd).properties q hq).1]
    dsimp only
    rw [hpairs, gather_of_nodup (hsound.services d hd).distinct]
  unfold savedJson
  rw [hservices]

/-! ### The document is written without loss -/

theorem regular_ofOption {x : Option Text} (h : ∀ t ∈ x, Text.Unicode t) :
    (Json.ofOption x).Regular Json.Exact := by
  cases x with
  | none => exact .leaf trivial
  | some t => exact .leaf (h t rfl)

theorem regular_str {t : Text} (h : t.Unicode) : (Json.str t).Regular Json.Exact := .leaf h

theorem regular_arr_map {α : Type} {write : α → Json} {as : List α}
    (h : ∀ a ∈ as, (write a).Regular Json.Exact) : (Json.arr (as.map write)).Regular Json.Exact :=
  .arr (List.forall_mem_map.mpr h)

/-- An object with the given keys. -/
theorem regular_obj {entries : List (Text × Json)} {keys : List Text}
    (hkeys : entries.map Prod.fst = keys) (hdistinct : keys.Nodup)
    (hunicode : ∀ k ∈ keys, Text.Unicode k)
    (h : ∀ v ∈ entries.map Prod.snd, v.Regular Json.Exact) :
    (Json.obj entries).Regular Json.Exact := by
  subst hkeys
  exact .obj hdistinct (fun q hq => hunicode q.1 (List.mem_map_of_mem hq))
    fun q hq => h q.2 (List.mem_map_of_mem hq)

theorem regular_methodJson {m : Method} (hsound : m.Sound) :
    (methodJson m).Regular Json.Exact := by
  refine regular_obj (rfl : _ = (["name", "rank"] : List Text)) (by decide) (by decide) ?_
  simp only [List.map_cons, List.map_nil, List.forall_mem_cons]
  exact ⟨regular_str hsound.name_unicode, .leaf hsound.rank_limit, List.forall_mem_nil _⟩

theorem regular_serviceJson {d : ServiceDefinition} (hsound : d.Sound) (hunicode : d.Unicode) :
    (serviceJson d).Regular Json.Exact := by
  have hproperties : (Json.obj (d.properties.map fun p => (p.1, .str p.2))).Regular Json.Exact := by
    refine regular_obj (?_ : _ = d.properties.map Prod.fst) hsound.distinct ?_ ?_
    · rw [List.map_map]
      rfl
    · exact List.forall_mem_map.mpr fun q hq => (hunicode.properties q hq).1
    · rw [List.map_map]
      exact List.forall_mem_map.mpr fun q hq => regular_str (hunicode.properties q hq).2
  refine regular_obj (rfl : _ = (["id", "service_id", "name", "properties"] : List Text))
    (by decide) (by decide) ?_
  simp only [List.map_cons, List.map_nil, List.forall_mem_cons]
  exact ⟨regular_str hunicode.id, regular_str hunicode.serviceId, regular_ofOption hunicode.name,
    hproperties, List.forall_mem_nil _⟩

theorem regular_loggingJson {l : LoggingConfig} (h : ∀ t ∈ l.logDir, Text.Unicode t) :
    l.toJson.Regular Json.Exact := by
  have hlevel : l.logLevel.text.Unicode := by
    cases l.logLevel <;> decide
  refine regular_obj (rfl : _ = (["log_dir", "log_level"] : List Text)) (by decide) (by decide) ?_
  simp only [List.map_cons, List.map_nil, List.forall_mem_cons]
  exact ⟨regular_ofOption h, regular_str hlevel, List.forall_mem_nil _⟩

/-- The document of a sound configuration without surrogates is the same after writing and
reading. -/
theorem regular_toJson (hsound : c.Sound) (hunicode : c.Unicode) :
    c.toJson.Regular Json.Exact := by
  have hselection : c.roleSelection.text.Unicode := by
    cases c.roleSelection <;> decide
  refine regular_obj (rfl : _ = (["authentication_methods", "default_authentication_method",
    "authn_method_parameter", "service_method_property", "principal_method_attribute",
    "role_selection", "services", "logging"] : List Text)) (by decide) (by decide) ?_
  simp only [List.map_cons, List.map_nil, List.forall_mem_cons]
  exact ⟨regular_arr_map fun m hm => regular_methodJson (hsound.methods m hm),
    regular_ofOption hunicode.defaultMethod, regular_str hunicode.parameter,
    regular_str hunicode.property, regular_ofOption hunicode.principal, regular_str hselection,
    regular_arr_map fun d hd => regular_serviceJson (hsound.services d hd) (hunicode.services d hd),
    regular_loggingJson hunicode.logDir, List.forall_mem_nil _⟩

/-! ## The saved text -/

theorem unifyLineBreaks_of_no_return {t : Text} (h : ∀ c ∈ t, c.val ≠ 0x0D) :
    unifyLineBreaks t = t := by
  induction t with
  | nil => rfl
  | cons c t ih =>
    obtain ⟨hc, ht⟩ := List.forall_mem_cons.mp h
    rw [unifyLineBreaks.eq_def]
    simp only [if_neg hc, ih ht]

/-- A saved text has plain characters and line breaks only. -/
theorem tame_save (hsound : c.Sound) (hunicode : c.Unicode) :
    Json.Tame Json.lineBlanks c.save := by
  rw [save, savedJson_eq hsound hunicode]
  exact ((regular_toJson hsound hunicode).spells_renderAt 0).tame.append (fun _ h =>
    Or.inr (List.mem_cons_of_mem _ h))

theorem parse_save (hsound : c.Sound) (hunicode : c.Unicode) :
    Json.parse c.save = .ok c.toJson := by
  rw [save, savedJson_eq hsound hunicode]
  exact Json.parse_renderIndented (regular_toJson hsound hunicode) (by decide)

/-- A saved text is loaded, from a file of any name. -/
theorem ofOctets_save (hsound : c.Sound) (hunicode : c.Unicode) (path : Text) :
    ofOctets path (Utf8.encode c.save) = .ok c := by
  have htame := tame_save hsound hunicode
  have hblanks : ∀ d ∈ Json.lineBlanks, d.val ≠ 0x0D ∧ d.isSurrogate = false := by decide
  have hval : ∀ d ∈ c.save, d.val ≠ 0x0D ∧ d.isSurrogate = false := by
    intro d hd
    rcases htame d hd with ⟨hlow, hhigh⟩ | hblank
    · simp only [CodePoint.isSurrogate, Bool.and_eq_false_iff, decide_eq_false_iff_not]
      omega
    · exact hblanks d hblank
  rw [ofOctets, Utf8.decode_encode fun d hd => (hval d hd).2]
  dsimp only
  rw [unifyLineBreaks_of_no_return fun d hd => (hval d hd).1, ofText, parse_save hsound hunicode]
  dsimp only
  rw [hsound.check_toJson]
  rfl

/-- To save is to make the directories and to write the file. -/
theorem saveTo_eq_ok_iff {files saved : FileTree} {path : Path} :
    c.saveTo files path = (saved, .ok ()) ↔
      ∃ made, files.makeDirectories path.parent = (made, .ok ()) ∧
        made.overwrite path (Utf8.encode c.save) = .ok saved := by
  unfold saveTo
  constructor
  · intro h
    split at h
    · cases h
    · next made hmade =>
      split at h
      · cases h
      · next hwritten =>
        cases h
        exact ⟨made, hmade, hwritten⟩
  · rintro ⟨made, hmade, hwritten⟩
    simp only [hmade, hwritten]

/-- **Saving and loading are inverse.** A configuration that was read from a text and accepted,
without surrogates in its texts and property keys, is loaded as it was from the text it is saved
as, and saving it again gives that text. It can be saved wherever the files admit one, and loading
the file gives it back. -/
theorem load_save {source : Text} {v : Json} (parsed : Json.parse source = .ok v)
    (valid : check v = .ok c) (unicode : c.Unicode) :
    (∀ name, ofOctets name (Utf8.encode c.save) = .ok c ∧
      (ofOctets name (Utf8.encode c.save)).map save = .ok c.save) ∧
      ∀ (files : FileTree) path, files.Admits path →
        ∃ saved, c.saveTo files path = (saved, .ok ()) ∧
          saved.read path = .ok (Utf8.encode c.save) ∧ load saved path = .ok c := by
  have sound : c.Sound := sound_of_check (Json.regular_of_parse parsed) valid
  have hload := ofOctets_save sound unicode
  refine ⟨fun name => ⟨hload name, ?_⟩, fun files path hadmits => ?_⟩
  · rw [hload name]
    rfl
  · obtain ⟨made, saved, hmade, hwritten⟩ :=
      (FileTree.admits_iff (Utf8.encode c.save)).mp hadmits
    refine ⟨saved, saveTo_eq_ok_iff.mpr ⟨made, hmade, hwritten⟩,
      FileTree.read_of_overwrite hwritten, ?_⟩
    rw [load, FileTree.exists?_of_overwrite hwritten, FileTree.read_of_overwrite hwritten]
    exact hload path.text

/-- A name beyond the first plane, a rank in digits with an underscore and blanks, and a default
that is given up: loaded from the file as they were read. -/
theorem load_save_grin :
    let v : Json := .obj [
      ("authentication_methods", .arr [.obj [("name", .str "😀"), ("rank", .str " 0_7 ")]]),
      ("principal_method_attribute", .null)]
    let c : Config := { methods := [⟨"😀", 7⟩], principalMethodAttribute := none }
    let path := Path.parse "config.json"
    Json.parse v.render = .ok v ∧ check v = .ok c ∧ FileTree.Admits {} path ∧
      ofOctets "config.json" (Utf8.encode c.save) = .ok c ∧
      ∃ saved, c.saveTo {} path = (saved, .ok ()) ∧ load saved path = .ok c := by
  intro v c path
  have method : (Json.obj [("name", .str "😀"), ("rank", .str " 0_7 ")]).Regular Json.Exact :=
    .obj (by decide) (by decide) (List.forall_mem_cons.mpr
      ⟨.leaf (by decide), List.forall_mem_singleton.mpr (.leaf (by decide))⟩)
  have regular : v.Regular Json.Exact :=
    .obj (by decide) (by decide) (List.forall_mem_cons.mpr
      ⟨.arr (List.forall_mem_singleton.mpr method),
        List.forall_mem_singleton.mpr (.leaf trivial)⟩)
  have parsed := Json.parse_render regular
  have agreed : c.contradiction? = none :=
    contradiction?_eq_none_iff.mpr ⟨by decide, nofun, by decide⟩
  have valid : check v = .ok c :=
    check_eq_ok_iff.mpr ⟨_, rfl, ⟨rfl, rfl, rfl, rfl, rfl, rfl, rfl, rfl⟩, agreed⟩
  have unicode : c.Unicode :=
    ⟨by decide, by decide, by decide, by decide, by decide, List.forall_mem_nil _, by decide⟩
  have admits : FileTree.Admits {} path := by
    refine ⟨by decide, {}, ["config.json"], rfl, rfl, ?_⟩
    intro mode h
    cases h
  obtain ⟨loads, saves⟩ := load_save parsed valid unicode
  obtain ⟨saved, hsaved, -, hload⟩ := saves {} path admits
  exact ⟨parsed, valid, admits, (loads _).1, saved, hsaved, hload⟩

end Config

end StepUp
