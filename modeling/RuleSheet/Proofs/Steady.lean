import RuleSheet.Proofs.CatalogHistory
import RuleSheet.Proofs.Lockstep

/-!
# Answers that do not depend on the questions before

A lexicon changes with every field that is looked up.  While the files stay as they are, and no two
configured identifiers agree, the change cannot be seen from outside: whatever was asked before, a
reference means the same, a line has the same clause, and a block has the same code.

## Main definitions

* `RuleSheet.Catalog.Apart` — no two configured identifiers agree.
* `RuleSheet.Catalog.Faithful`, `RuleSheet.Lexicon.Faithful` — all that is remembered is what the
  configured sources say.
* `RuleSheet.Lexicon.Steady` — every faithful lexicon gives the same result and stays faithful.
* `RuleSheet.Lexicon.faithfulCoupling` — the coupling of any two faithful lexicons.

## Main results

* `RuleSheet.Catalog.Faithful.get` — a faithful catalog answers from the configured sources.
* `RuleSheet.Lexicon.Lockstep.steady` — what keeps all faithful lexicons in lockstep is steady.
* `RuleSheet.Converter.steady_readLines`, `steady_writePieces` — the two passes of a conversion are
  steady, the second one if comparisons are not replaced.

## Design

Any two faithful lexicons are coupled, so steadiness is a case of lockstep.  The types that a
lexicon collects are left out of `Faithful`: they do depend on history, and only the replacement of
comparisons reads them.
-/

set_option autoImplicit false

namespace RuleSheet

/-! ### Catalogs -/

namespace Catalog

/-- No two configured identifiers agree. -/
def Apart (sources : Dictionary Text) : Prop :=
  ∀ a ∈ sources.entries, ∀ b ∈ sources.entries, Label.agree a.1 b.1 = true → a.1 = b.1

instance (sources : Dictionary Text) : Decidable (Apart sources) :=
  inferInstanceAs (Decidable (∀ a ∈ _, ∀ b ∈ _, _))

section

variable {tree : FileTree} {sources : Dictionary Text}

/-- A source file belongs to a configured identifier that is the given one or agrees with it. -/
lemma exists_of_sourcePath? {id path : Text}
    (h : (ofSources sources).sourcePath? id = some path) :
    ∃ owner, sources.find? owner = some path ∧ Names id owner := by
  simp only [sourcePath?, ofSources] at h
  rcases hfind : sources.find? id with _ | own
  · rw [hfind, Option.orElse_eq_orElse, Option.orElse_eq_or, Option.none_or] at h
    obtain ⟨entry, hfirst, rfl⟩ := Option.map_eq_some_iff.mp h
    obtain ⟨howner, hagree⟩ := Dictionary.find?_of_first? hfirst
    exact ⟨entry.1, howner, Or.inr (Label.agree_symm hagree)⟩
  · rw [hfind] at h
    obtain rfl := Option.some.inj h
    exact ⟨id, hfind, Or.inl rfl⟩

/-- Identifiers that agree have the same source file, if configured identifiers do not. -/
lemma sourcePath?_of_agree (apart : Apart sources) {j j' path : Text}
    (hagree : Label.agree j j' = true) (h : (ofSources sources).sourcePath? j = some path) :
    (ofSources sources).sourcePath? j' = some path := by
  obtain ⟨owner, howner, hnames⟩ := exists_of_sourcePath? h
  have hnames' : Names j' owner := by
    rcases hnames with rfl | hj
    · exact Or.inr (Label.agree_symm hagree)
    · exact Or.inr (Label.agree_trans (Label.agree_symm hagree) hj)
  refine sourcePath?_of_names howner (fun other hother hagree' => ?_) hnames'
  obtain ⟨path', hpath'⟩ := Option.ne_none_iff_exists'.mp hother
  exact apart _ ((Dictionary.find?_eq_some_iff _ _ _).mp hpath') _
    ((Dictionary.find?_eq_some_iff _ _ _).mp howner) hagree'

/-- Identifiers that agree are loaded alike, if configured identifiers do not. -/
lemma load?_of_agree (apart : Apart sources) {j j' : Text} (hagree : Label.agree j j' = true) :
    (ofSources sources).load? tree j = (ofSources sources).load? tree j' := by
  have hpath : (ofSources sources).sourcePath? j = (ofSources sources).sourcePath? j' :=
    Option.ext fun path => ⟨sourcePath?_of_agree apart hagree,
      sourcePath?_of_agree apart (Label.agree_symm hagree)⟩
  rw [load?, load?, hpath]

/-- A catalog over configured sources whose answers are what the sources say. -/
structure Faithful (tree : FileTree) (sources : Dictionary Text) (c : Catalog) : Prop where
  /-- The sources are the configured ones. -/
  sources_eq : c.sources = sources
  /-- Every remembered answer is that of the source. -/
  loaded_eq : ∀ id answer, c.loaded.find? id = some answer →
    answer = (ofSources sources).load? tree id

/-- A catalog that has not been asked is faithful. -/
lemma faithful_ofSources (tree : FileTree) (sources : Dictionary Text) :
    Faithful tree sources (ofSources sources) :=
  ⟨rfl, fun _ _ h => by cases h⟩

/-- A faithful catalog looks up what the source says: an entity that it takes from memory is that of
an agreeing identifier, which has the same source. -/
lemma Faithful.lookUp_eq {c : Catalog} (h : c.Faithful tree sources) (apart : Apart sources)
    (id : Text) : c.lookUp tree id = (ofSources sources).load? tree id := by
  have hload : c.load? tree id = (ofSources sources).load? tree id := by
    simp only [load?, sourcePath?, ofSources, h.sources_eq]
  rw [lookUp, hload]
  rcases hrem : c.remembered? id with _ | e
  · rfl
  · -- `j` may have been asked for long ago, but its source says the same as that of `id`
    obtain ⟨j, hj, hagree⟩ := find?_of_remembered? hrem
    rw [← load?_of_agree apart hagree, ← h.loaded_eq j _ hj]
    rfl

/-- **A faithful catalog answers from the configured sources**, and stays faithful. -/
lemma Faithful.get {c : Catalog} (h : c.Faithful tree sources) (apart : Apart sources)
    (id : Text) :
    (c.get tree id).1 = (ofSources sources).load? tree id ∧
      (c.get tree id).2.Faithful tree sources := by
  rcases hfind : c.loaded.find? id with _ | answer
  · rw [get_of_find?_eq_none hfind, h.lookUp_eq apart]
    refine ⟨rfl, h.sources_eq, fun j answer hj => ?_⟩
    by_cases hid : j = id
    · subst hid
      rw [Dictionary.find?_insert_self] at hj
      exact (Option.some.inj hj).symm
    · rw [Dictionary.find?_insert_of_ne _ hid] at hj
      exact h.loaded_eq j answer hj
  · rw [get_of_find? hfind]
    exact ⟨h.loaded_eq id answer hfind, h⟩

end

end Catalog

/-! ### Lexicons -/

namespace Lexicon

/-- A lexicon over the configured sources and instances whose catalog is faithful. -/
structure Faithful (tree : FileTree) (options : Options) (l : Lexicon) : Prop where
  /-- The catalog is faithful. -/
  catalog : l.catalog.Faithful tree options.entityFiles
  /-- The instances are the configured ones. -/
  instances_eq : l.instances = options.entityInstances

/-- Something done with a lexicon is steady if every faithful lexicon gives the same result and
stays faithful. -/
def Steady (tree : FileTree) (options : Options) {α : Type} (f : Lexicon → α × Lexicon) : Prop :=
  ∃ a, ∀ l : Lexicon, l.Faithful tree options → (f l).1 = a ∧ (f l).2.Faithful tree options

namespace Steady

variable {tree : FileTree} {options : Options} {α β : Type} {f : Lexicon → α × Lexicon}

/-- Two faithful lexicons give the same result. -/
lemma result_eq (hf : Steady tree options f) {l l' : Lexicon} (h : l.Faithful tree options)
    (h' : l'.Faithful tree options) : (f l).1 = (f l').1 := by
  obtain ⟨a, ha⟩ := hf
  rw [(ha l h).1, (ha l' h').1]

/-- A faithful lexicon stays faithful. -/
lemma faithful (hf : Steady tree options f) {l : Lexicon} (h : l.Faithful tree options) :
    (f l).2.Faithful tree options := by
  obtain ⟨a, ha⟩ := hf
  exact (ha l h).2

end Steady

/-- A lexicon over the configured sources that has not been asked is faithful. -/
lemma faithful_ofCatalog (tree : FileTree) (options : Options) :
    (ofCatalog (.ofSources options.entityFiles) options.entityInstances).Faithful tree options :=
  ⟨Catalog.faithful_ofSources tree options.entityFiles, rfl⟩

/-- Any two faithful lexicons are coupled: they answer from the configured sources, and instances
depend on the configured instances only. -/
def faithfulCoupling (tree : FileTree) {options : Options}
    (apart : Catalog.Apart options.entityFiles) : Coupling tree tree where
  Rel l l' := l.Faithful tree options ∧ l'.Faithful tree options
  get h id := by
    obtain ⟨hanswer, hcatalog⟩ := h.1.catalog.get apart id
    obtain ⟨hanswer', hcatalog'⟩ := h.2.catalog.get apart id
    exact ⟨hanswer.trans hanswer'.symm, ⟨hcatalog, h.1.instances_eq⟩, hcatalog', h.2.instances_eq⟩
  owner h id e := by
    simp only [ownerOf, instanceFor?, h.1.instances_eq, h.2.instances_eq]
  record h _ _ := ⟨⟨h.1.catalog, h.1.instances_eq⟩, h.2.catalog, h.2.instances_eq⟩

/-- What keeps all faithful lexicons in lockstep is steady. -/
lemma Lockstep.steady {tree : FileTree} {options : Options}
    {apart : Catalog.Apart options.entityFiles} {α : Type} {f : FileTree → Lexicon → α × Lexicon}
    (h : Lockstep (faithfulCoupling tree apart) f) : Steady tree options (f tree) := by
  have hfresh := faithful_ofCatalog tree options
  exact ⟨_, fun l hl => ⟨(h l _ ⟨hl, hfresh⟩).1, (h l _ ⟨hl, hfresh⟩).2.1⟩⟩

end Lexicon

open Lexicon

namespace Converter

/-! ### The two passes of a conversion -/

variable {tree : FileTree} {options : Options}

/-- The clause of a raw line is steady. -/
lemma steady_readLine (apart : Catalog.Apart options.entityFiles) (helpers : Helpers)
    (number : Nat) (raw : Text) : Steady tree options (readLine tree helpers number raw) :=
  (lockstep_readLine (faithfulCoupling tree apart) helpers number raw).steady

/-- The clauses of lines are steady. -/
lemma steady_readLines (apart : Catalog.Apart options.entityFiles) (helpers : Helpers)
    (lines : List Text) (number : Nat) :
    Steady tree options (readLines tree helpers number lines) :=
  (lockstep_readLines (faithfulCoupling tree apart) helpers lines number).steady

/-- Written pieces are steady, if comparisons are not replaced: the replacement would read the
collected types, which are not the same for all lexicons. -/
lemma steady_writePieces (apart : Catalog.Apart options.entityFiles)
    (unreplaced : options.postprocess = false) (defined : Variables) (pieces : List Piece) :
    Steady tree options (writePieces tree options defined pieces) := by
  have htypes : options.postprocess = true → ∀ l l',
      (faithfulCoupling tree apart).Rel l l' → l.types = l'.types := by
    intro h
    rw [unreplaced] at h
    cases h
  exact (lockstep_writePieces (faithfulCoupling tree apart) defined pieces htypes).steady

end Converter

end RuleSheet
