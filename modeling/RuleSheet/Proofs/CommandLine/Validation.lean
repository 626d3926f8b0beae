import RuleSheet.CommandLine.Configure
import RuleSheet.Proofs.Conversion.Availability
import RuleSheet.Proofs.Files

/-!
# Settings that were checked

The check of the settings reads every source that they name, one after the other.  A conversion
reads the same sources late, in the order in which the lines of a sheet refer to them, and remembers
what it has read.  Nevertheless the check is enough: over the same files, a conversion with settings
that pass it starts, and never misses an entity that they name.

## Main definitions

* `RuleSheet.CommandLine.Settings.Usable` — the files that the settings name can be used.

## Main results

* `RuleSheet.CommandLine.validateSettings_eq_ok_iff` — the check accepts exactly the settings whose
  files can be used.
* `RuleSheet.CommandLine.validated_sources_answer` — with settings that pass the check, no use of a
  converter misses a configured entity.
-/

set_option autoImplicit false

namespace RuleSheet

/-! ### Sources that can be read -/

namespace FileTree

variable {tree : FileTree}

/-- What can be read is there. -/
lemma hasEntry_of_readSource {kind : SourceKind} {path text : Text}
    (h : tree.readSource kind path = .ok text) : tree.hasEntry path = true :=
  hasEntry_of_contentAt ((read_eq_ok_iff tree path text).mp (Except.mapError_eq_ok_iff.mp h))

end FileTree

/-- The source of an entity is there. -/
lemma Entity.hasEntry_of_extract {tree : FileTree} {path : Text} {e : Entity}
    (h : Entity.extract tree path = .ok e) : tree.hasEntry path = true := by
  obtain ⟨text, hread, -⟩ := Except.bind_eq_ok_iff.mp h
  exact FileTree.hasEntry_of_readSource hread

/-- The source of variable definitions is there. -/
lemma Variables.hasEntry_of_load {tree : FileTree} {path : Text} {vs : Variables}
    (h : Variables.load tree path = .ok vs) : tree.hasEntry path = true := by
  obtain ⟨text, hread, -⟩ := Except.map_eq_ok_iff.mp h
  exact FileTree.hasEntry_of_readSource hread

namespace CommandLine

/-! ### The check -/

namespace Settings

/-- The files that the settings name can be used. -/
structure Usable (tree : FileTree) (s : Settings) : Prop where
  /-- The sheet is there. -/
  input : ∀ path, s.inputFile = some path → tree.hasEntry path = true
  /-- The variable definitions can be read. -/
  definitions : ∀ path, s.options.definitionsFile = some path →
    ∃ vs, Variables.load tree path = .ok vs
  /-- The entity sources can be read. -/
  entities : Catalog.Available tree s.options.entityFiles

variable {tree : FileTree} {s : Settings}

/-- No file is missing if all files that are named are there. -/
lemma missing_eq_nil_iff : s.missing tree = [] ↔
    (∀ path, s.inputFile = some path → tree.hasEntry path = true) ∧
      (∀ path, s.options.definitionsFile = some path → tree.hasEntry path = true) ∧
      ∀ id path, s.options.entityFiles.find? id = some path → tree.hasEntry path = true := by
  simp only [missing, references, List.map_eq_nil_iff, List.filter_eq_nil_iff, List.mem_append,
    Option.mem_toList, Option.map_eq_some_iff, List.mem_map, Dictionary.find?_eq_some_iff]
  constructor
  · intro h
    refine ⟨fun path hpath => ?_, fun path hpath => ?_, fun id path hpath => ?_⟩
    · simpa using h _ (.inl (.inl ⟨path, hpath, rfl⟩))
    · simpa using h _ (.inl (.inr ⟨path, hpath, rfl⟩))
    · simpa using h _ (.inr ⟨(id, path), hpath, rfl⟩)
  · rintro ⟨hinput, hdefinitions, hentities⟩ entry
      ((⟨path, hpath, rfl⟩ | ⟨path, hpath, rfl⟩) | ⟨⟨id, path⟩, hpath, rfl⟩)
    · simpa using hinput path hpath
    · simpa using hdefinitions path hpath
    · simpa using hentities id path hpath

/-- No entity source is unreadable if all that are there can be read. -/
lemma unreadable_eq_nil_iff : s.unreadable tree = [] ↔
    ∀ id path, s.options.entityFiles.find? id = some path → tree.hasEntry path = true →
      ∃ e, Entity.extract tree path = .ok e := by
  simp only [unreadable, extracted, List.filterMap_eq_nil_iff, List.mem_map, List.mem_filter,
    Dictionary.find?_eq_some_iff]
  constructor
  · intro h id path hpath hthere
    have hnone := h _ ⟨(id, path), ⟨hpath, hthere⟩, rfl⟩
    dsimp only at hnone
    split at hnone
    next e he => exact ⟨e, he⟩
    next => cases hnone
  · rintro h _ ⟨⟨id, path⟩, ⟨hpath, hthere⟩, rfl⟩
    obtain ⟨e, he⟩ := h id path hpath hthere
    simp [he]

/-- The variable definitions are not unreadable if they can be read or are missing. -/
lemma unreadableDefinitions_eq_nil_iff : s.unreadableDefinitions tree = [] ↔
    ∀ path, s.options.definitionsFile = some path → tree.hasEntry path = true →
      ∃ vs, Variables.load tree path = .ok vs := by
  unfold unreadableDefinitions
  cases s.options.definitionsFile with
  | none => simp
  | some path =>
    cases hthere : tree.hasEntry path with
    | false => simp [hthere]
    | true =>
      cases hload : Variables.load tree path with
      | ok vs => simp [hload]
      | error f => simp [hthere, hload]

/-- **The settings have no problems exactly if their files can be used.** -/
lemma problems_eq_nil_iff : s.problems tree = [] ↔ s.Usable tree := by
  rw [problems, List.append_eq_nil_iff, List.append_eq_nil_iff, missing_eq_nil_iff,
    unreadable_eq_nil_iff, unreadableDefinitions_eq_nil_iff]
  constructor
  · rintro ⟨⟨⟨hinput, hdefinitions, hentities⟩, hextracted⟩, hloaded⟩
    exact ⟨hinput, fun path hpath => hloaded path hpath (hdefinitions path hpath),
      fun id path hpath => hextracted id path hpath (hentities id path hpath)⟩
  · rintro ⟨hinput, hdefinitions, hentities⟩
    refine ⟨⟨⟨hinput, fun path hpath => ?_, fun id path hpath => ?_⟩,
      fun id path hpath _ => hentities id path hpath⟩, fun path hpath _ => hdefinitions path hpath⟩
    · obtain ⟨vs, hvs⟩ := hdefinitions path hpath
      exact Variables.hasEntry_of_load hvs
    · obtain ⟨e, he⟩ := hentities id path hpath
      exact Entity.hasEntry_of_extract he

end Settings

/-- **The check accepts exactly the settings whose files can be used.** -/
lemma validateSettings_eq_ok_iff (console : Console) (tree : FileTree) (s : Settings) :
    (validateSettings console tree s).2 = .ok () ↔ s.Usable tree := by
  rw [← Settings.problems_eq_nil_iff]
  unfold validateSettings
  cases s.problems tree with
  | nil => simp
  | cons problem problems => simp

end CommandLine

/-! ### Conversions after the check -/

/-- A converter can be made if the variable definitions can be read.  Its catalog has not been
asked. -/
lemma Converter.exists_new_of_definitions {tree : FileTree} (options : Options)
    (h : ∀ path, options.definitionsFile = some path → ∃ vs, Variables.load tree path = .ok vs) :
    ∃ c, Converter.new tree options = .ok c ∧
      c.lexicon.catalog = .ofSources options.entityFiles := by
  unfold new ofCatalog
  cases hfile : options.definitionsFile with
  | none => exact ⟨_, rfl, rfl⟩
  | some path =>
    cases options.postprocess with
    | false => exact ⟨_, rfl, rfl⟩
    | true =>
      obtain ⟨vs, hvs⟩ := h path hfile
      simp only [hvs]
      exact ⟨_, rfl, rfl⟩

/-- An item that says that an entity is missing does so for this reason alone. -/
lemma Obstacle.eq_entityNotFound {reason : Obstacle} {id : Text}
    (hcode : (Obstacle.entityNotFound id).code = reason.code)
    (hmessage : (Obstacle.entityNotFound id).message = reason.message) :
    reason = .entityNotFound id := by
  cases reason with
  | entityNotFound other =>
    have htexts : ("entity not found: " : Text) ++ id = ("entity not found: " : Text) ++ other :=
      hmessage
    rw [List.append_cancel_left htexts]
  | fieldNotFound other label =>
    have hne : ("ENTITY_NOT_FOUND" : Text) ≠ "FIELD_NOT_FOUND" := by decide
    exact absurd hcode hne
  | unsupportedValue value =>
    have hne : ("ENTITY_NOT_FOUND" : Text) ≠ "UNSUPPORTED_VALUE" := by decide
    exact absurd hcode hne
  | unrecognized text =>
    have hne : ("ENTITY_NOT_FOUND" : Text) ≠ "PATTERN_MISMATCH" := by decide
    exact absurd hcode hne

namespace CommandLine

/-- **With settings that pass the check, no configured entity is missed.**  The sheet is there, and
a converter can be made, whether comparisons are to be replaced or not.  Whatever the converter was
used for before, a configured identifier and one that agrees with it are found, no question and no
line fails because of them, and no report says so.

**Proof sketch.** What the check has read can be read again, so every source is available.  A
catalog over available sources never remembers a failure for a configured identifier, and everything
that is done with it keeps that. -/
theorem validated_sources_answer {console : Console} {tree : FileTree} {s : Settings}
    (h : (validateSettings console tree s).2 = .ok ()) :
    (∀ path, s.inputFile = some path → tree.hasEntry path = true) ∧
    ∀ postprocess : Bool, ∃ converter,
      Converter.new tree { s.options with postprocess } = .ok converter ∧
      ∀ (uses : List Converter.Use) (owner id : Text),
        (s.options.entityFiles.find? owner).isSome = true → Catalog.Names owner id →
        ((converter.useAll tree uses).lexicon.catalog.get tree id).1.isSome = true ∧
        (∀ q, ((converter.useAll tree uses).lexicon.answer tree q).1 ≠
          .error (.entityNotFound id)) ∧
        (∀ helpers line, (classify tree helpers line (converter.useAll tree uses).lexicon).1 ≠
          .todo line (.entityNotFound id)) ∧
        ∀ lines, ∀ item ∈ ((converter.useAll tree uses).run tree lines).1.report.todos,
          item.code = (Obstacle.entityNotFound id).code →
            item.reason ≠ (Obstacle.entityNotFound id).message := by
  have usable := (validateSettings_eq_ok_iff console tree s).mp h
  refine ⟨usable.input, fun postprocess => ?_⟩
  obtain ⟨converter, hnew, hcatalog⟩ :=
    Converter.exists_new_of_definitions { s.options with postprocess } usable.definitions
  refine ⟨converter, hnew, fun uses owner id howner hnames => ?_⟩
  have hid : Catalog.Configured s.options.entityFiles id := ⟨owner, howner, hnames⟩
  have hanswering := Converter.answering_useAll usable.entities uses
    (hcatalog ▸ Catalog.answering_ofSources s.options.entityFiles)
  generalize converter.useAll tree uses = c at hanswering
  refine ⟨(hanswering.get usable.entities id).2 hid, fun q hq => ?_, fun helpers line hline => ?_,
    fun lines item hitem hcode hreason => ?_⟩
  · exact Lexicon.spares_of_answer usable.entities hanswering hq hid
  · have hspares := spares_classify usable.entities helpers line hanswering
    rw [hline] at hspares
    exact hspares hid
  · obtain ⟨reason, hcode', hreason', hspares⟩ :=
      c.spares_of_mem_todos tree lines usable.entities hanswering hitem
    obtain rfl := Obstacle.eq_entityNotFound (hcode.symm.trans hcode') (hreason.symm.trans hreason')
    exact hspares hid

/-- A sheet, an entity source and variable definitions. -/
def shopFiles : FileTree := ⟨.ofList
  [("rules.txt", .file (.text "項目「帽子(L01).(色)」＝３。")),
    ("Hat.java", .file (.text "class Hat \x7b\n/** [hue] 色 */\n\x7d")),
    ("Names.java", .file (.text "int 数;"))]⟩

/-- Settings that name these files. -/
def shopSettings : Settings where
  inputFile := some "rules.txt"
  options :=
    { entityFiles := .ofList [("帽子(Ｌ０１)", "Hat.java")], definitionsFile := some "Names.java" }

/-- A sheet that asks for an entity without a source first, and another look-up of it. -/
def shopUses : List Converter.Use :=
  [.sheet ["項目「靴.(色)」＝３。", "項目「帽子(L01).(丈)」＝３。"], .entity "靴"]

/-- An identifier in other characters than the configured one, after look-ups that failed. -/
theorem validated_sources_answer_shop :
    (validateSettings {} shopFiles shopSettings).2 = .ok () ∧
      (shopSettings.options.entityFiles.find? "帽子(Ｌ０１)").isSome = true ∧
      Catalog.Names "帽子(Ｌ０１)" "帽子(L01)" ∧
      ∃ converter, Converter.new shopFiles { shopSettings.options with postprocess := true } =
          .ok converter ∧
        ((converter.useAll shopFiles shopUses).lexicon.catalog.get shopFiles "帽子(L01)").1.isSome =
          true ∧
        ((converter.useAll shopFiles shopUses).lexicon.answer shopFiles
          (.operand "項目「帽子(L01).(色)」")).1 ≠ .error (.entityNotFound "帽子(L01)") := by
  have hvalid : (validateSettings {} shopFiles shopSettings).2 = .ok () :=
    (validateSettings_eq_ok_iff _ _ _).mpr (Settings.problems_eq_nil_iff.mp (by decide +kernel))
  have howner : (shopSettings.options.entityFiles.find? "帽子(Ｌ０１)").isSome = true := by
    decide +kernel
  have hnames : Catalog.Names "帽子(Ｌ０１)" "帽子(L01)" := by decide +kernel
  obtain ⟨converter, hnew, hanswers⟩ := (validated_sources_answer hvalid).2 true
  obtain ⟨hget, hquery, -⟩ := hanswers shopUses _ _ howner hnames
  exact ⟨hvalid, howner, hnames, converter, hnew, hget, hquery _⟩

end CommandLine

end RuleSheet
