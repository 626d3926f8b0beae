import RuleSheet.Proofs.CatalogHistory
import RuleSheet.Proofs.Lockstep

/-!
# What a conversion reads

A conversion reads the files below its working directory through its catalog, and the catalog reads
the configured sources.  So the result depends on the texts of these files, and on which of them
cannot be read, and on nothing else in the tree.

## Main definitions

* `RuleSheet.Catalog.SameSources` — two trees in which the configured sources say the same.
* `RuleSheet.Lexicon.sourceCoupling` — the coupling of a lexicon with itself over two such trees.

## Main results

* `RuleSheet.Catalog.get_congr` — a question gets the same answer over both trees.
* `RuleSheet.Converter.run_congr` — a sheet is converted alike over both trees.
-/

set_option autoImplicit false

namespace RuleSheet

/-! ### Catalogs -/

namespace Catalog

/-- The configured sources say the same in two trees. -/
def SameSources (sources : Dictionary Text) (tree tree' : FileTree) : Prop :=
  ∀ path ∈ sources.values, (tree.read path).toOption = (tree'.read path).toOption

variable {sources : Dictionary Text} {tree tree' : FileTree}

/-- A source file is one of the configured ones. -/
lemma mem_values_of_sourcePath? {c : Catalog} {id path : Text} (h : c.sourcePath? id = some path) :
    path ∈ c.sources.values := by
  have hmem : ∀ key value, c.sources.find? key = some value → value ∈ c.sources.values :=
    fun key value hfind => List.mem_map.mpr ⟨(key, value),
      (Dictionary.find?_eq_some_iff c.sources key value).mp hfind, rfl⟩
  rw [sourcePath?, Option.orElse_eq_orElse, Option.orElse_eq_or, Option.or_eq_some_iff] at h
  rcases h with hown | ⟨-, hother⟩
  · exact hmem id path hown
  · obtain ⟨entry, hfirst, rfl⟩ := Option.map_eq_some_iff.mp hother
    exact hmem entry.1 entry.2 (Dictionary.find?_of_first? hfirst).1

/-- The entity of a source file depends on its text only. -/
lemma toOption_extract {path : Text}
    (h : (tree.read path).toOption = (tree'.read path).toOption) :
    (Entity.extract tree path).toOption = (Entity.extract tree' path).toOption := by
  cases hread : tree.read path with
  | error failure =>
    cases hread' : tree'.read path with
    | error failure' =>
      simp [Entity.extract, FileTree.readSource, hread, hread', Except.mapError, bind, Except.bind,
        Except.toOption]
    | ok text => simp [hread, hread', Except.toOption] at h
  | ok text =>
    have hread' : tree'.read path = .ok text := by
      cases hread' : tree'.read path with
      | error failure => simp [hread, hread', Except.toOption] at h
      | ok text' =>
        simp only [hread, hread', Except.toOption, Option.some.injEq] at h
        rw [h]
    simp only [Entity.extract, FileTree.readSource, hread, hread']

/-- **A question gets the same answer over both trees.** -/
lemma get_congr (hsame : SameSources sources tree tree') {c : Catalog} (hc : c.sources = sources)
    (id : Text) : c.get tree id = c.get tree' id := by
  have hload : c.load? tree id = c.load? tree' id := by
    unfold load?
    cases hpath : c.sourcePath? id with
    | none => rfl
    | some path =>
      exact toOption_extract (hsame path (hc ▸ mem_values_of_sourcePath? hpath))
  simp only [get, lookUp, hload]

/-- A question does not change the sources. -/
lemma sources_get (tree : FileTree) (c : Catalog) (id : Text) :
    (c.get tree id).2.sources = c.sources := by
  rw [get]
  split
  · rfl
  · rfl

end Catalog

/-! ### Conversions -/

namespace Lexicon

variable {sources : Dictionary Text} {tree tree' : FileTree}

/-- A lexicon over the configured sources is coupled with itself. -/
def sourceCoupling (hsame : Catalog.SameSources sources tree tree') : Coupling tree tree' where
  Rel l l' := l = l' ∧ l.catalog.sources = sources
  get h id := by
    obtain ⟨rfl, hsources⟩ := h
    rw [Catalog.get_congr hsame hsources id]
    exact ⟨rfl, rfl, (Catalog.sources_get tree' _ id).trans hsources⟩
  owner h id e := by rw [h.1]
  record h _ _ := by
    obtain ⟨rfl, hsources⟩ := h
    exact ⟨rfl, hsources⟩

/-- What is in lockstep under this coupling does the same over both trees. -/
lemma Lockstep.congr {hsame : Catalog.SameSources sources tree tree'} {α : Type}
    {f : FileTree → Lexicon → α × Lexicon} (h : Lockstep (sourceCoupling hsame) f) {l : Lexicon}
    (hl : l.catalog.sources = sources) :
    f tree l = f tree' l ∧ (f tree' l).2.catalog.sources = sources := by
  obtain ⟨hresult, hlexicon, hsources⟩ := h l l ⟨rfl, hl⟩
  exact ⟨Prod.ext hresult hlexicon, hlexicon ▸ hsources⟩

end Lexicon

namespace Converter

variable {tree tree' : FileTree} {c : Converter}

/-- **A sheet is converted alike over both trees.** -/
lemma run_congr (hsame : Catalog.SameSources c.lexicon.catalog.sources tree tree')
    (lines : List Text) : c.run tree lines = c.run tree' lines := by
  let k := Lexicon.sourceCoupling hsame
  obtain ⟨hread, hsources⟩ :=
    (lockstep_readLines k c.options.helpers lines 1).congr (l := c.lexicon) rfl
  have hblocks : c.convertBlocks tree lines = c.convertBlocks tree' lines := by
    have htypes : c.options.postprocess = true → ∀ l l', k.Rel l l' → l.types = l'.types :=
      fun _ _ _ h => congrArg Lexicon.types h.1
    have hwrite := fun pieces =>
      ((lockstep_writePieces k c.defined pieces htypes).congr hsources).1
    simp only [convertBlocks, hread, hwrite]
  have hlines : c.convertLines tree lines = c.convertLines tree' lines := by
    simp only [convertLines, hread]
  simp only [run, hblocks, hlines]

end Converter

end RuleSheet
