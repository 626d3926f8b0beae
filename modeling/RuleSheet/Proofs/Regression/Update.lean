import RuleSheet.Proofs.Conversion.Sources
import RuleSheet.Proofs.Regression.Expectation
import RuleSheet.Regression.Check

/-!
# Checks after updates

A check that updates the expectation of a case makes the next check pass.  For that the conversion
has to give the same code again, although the files have changed in between: the code depends on the
files that are read, and the update leaves those as they are.

## Main definitions

* `RuleSheet.Regression.Case.readPaths` — the files that a case reads.
* `RuleSheet.Regression.Case.Apart` — none of them is the expectation or its backup.

## Main results

* `RuleSheet.Regression.loadCaseBy_of_grown`, `convertCase_of_grown` — a case and its code, after a
  tree has grown.
* `RuleSheet.Regression.of_compareCase` — everything that a comparison with updates can do.
* `RuleSheet.Regression.checkCase_after_update` — the check after an update.

## Design

An update may make the folder of the expectation.  A source whose path leads through that folder and
out again cannot be read before and can be read afterwards, and then the code may differ.  The main
result excludes this for the next check, and nothing else.

How the description of a case is read makes no difference: the reader is a parameter of all that is
proved here.
-/

set_option autoImplicit false

namespace RuleSheet.Regression

open Text FileTree

variable {read? : Text → Option Document} {tree tree' : FileTree} {written : List Text} {c : Case}
  {code : Text}

/-! ### Reading a case again -/

/-- The files that a case reads: its description, its rule sheet, its entity sources, and the
variable definitions if comparisons are to be replaced. -/
def Case.readPaths (c : Case) : List Text :=
  Path.join c.folder Case.fileName :: c.inputPath ::
    (c.description.options.entityFiles.values ++
      if c.description.options.postprocess then c.description.options.definitionsFile.toList
      else [])

/-- No file that a case reads is its expectation or the backup of that. -/
def Case.Apart (c : Case) : Prop :=
  ∀ path ∈ c.readPaths, placeOf path ∉ [placeOf (backupPath c.expectedPath), placeOf c.expectedPath]

instance (c : Case) : Decidable c.Apart :=
  inferInstanceAs (Decidable (∀ path ∈ c.readPaths,
    placeOf path ∉ [placeOf (backupPath c.expectedPath), placeOf c.expectedPath]))

/-- A case that can be loaded has a description, and is in the folder of its name. -/
lemma of_loadCaseBy {corpus name : Text} (h : loadCaseBy read? tree corpus name = .ok c) :
    c.folder = Path.join corpus name ∧
      ∃ text, tree.read (Path.join c.folder Case.fileName) = .ok text := by
  unfold loadCaseBy Case.loadBy at h
  dsimp only at h
  split at h
  next =>
    obtain ⟨text, hread, h⟩ := Except.bind_eq_ok_iff.mp h
    split at h
    next => cases h
    next =>
      obtain rfl := Except.ok.inj h
      exact ⟨rfl, text, Except.mapError_eq_ok_iff.mp hread⟩
  next => cases h

/-- A case depends on its description only. -/
lemma loadCaseBy_congr {corpus name text : Text}
    (h : tree.read (Path.join (Path.join corpus name) Case.fileName) = .ok text)
    (h' : tree'.read (Path.join (Path.join corpus name) Case.fileName) = .ok text) :
    loadCaseBy read? tree' corpus name = loadCaseBy read? tree corpus name := by
  have hentry := hasEntry_of_contentAt ((read_eq_ok_iff tree _ text).mp h)
  have hentry' := hasEntry_of_contentAt ((read_eq_ok_iff tree' _ text).mp h')
  simp only [loadCaseBy, hentry, hentry', Case.loadBy, h, h']

/-- **A case in a grown tree** is the same case. -/
lemma loadCaseBy_of_grown (hgrown : Grown written tree tree') {corpus name : Text}
    (hpath : placeOf (Path.join c.folder Case.fileName) ∉ written)
    (h : loadCaseBy read? tree corpus name = .ok c) :
    loadCaseBy read? tree' corpus name = .ok c := by
  obtain ⟨hfolder, text, hread⟩ := of_loadCaseBy h
  have hread' := hgrown.read hpath hread
  rw [hfolder] at hread hread'
  rw [loadCaseBy_congr hread hread', h]

/-! ### Converting a case again -/

/-- Everything that converting a case does. -/
lemma convertCase_eq_ok_iff :
    convertCase tree c = .ok code ↔
      ∃ text converter, tree.read c.inputPath = .ok text ∧
        Converter.new tree c.description.options = .ok converter ∧
        code = canonical (converter.run tree (Line.ofSheet text)).1.render := by
  unfold convertCase Case.sheet
  simp only [Except.bind_eq_ok_iff, Except.map_eq_ok_iff, Except.mapError_eq_ok_iff]
  constructor
  · rintro ⟨lines, ⟨text, hread, rfl⟩, converter, hnew, hcode⟩
    exact ⟨text, converter, hread, hnew, (Except.ok.inj hcode).symm⟩
  · rintro ⟨text, converter, hread, hnew, rfl⟩
    exact ⟨_, ⟨text, hread, rfl⟩, converter, hnew, rfl⟩

/-- A converter reads the variable definitions and nothing else, and has the configured sources. -/
lemma new_of_grown (hgrown : Grown written tree tree') {options : Options} {converter : Converter}
    (hpath : options.postprocess = true →
      ∀ path ∈ options.definitionsFile.toList, placeOf path ∉ written)
    (h : Converter.new tree options = .ok converter) :
    Converter.new tree' options = .ok converter ∧
      converter.lexicon.catalog.sources = options.entityFiles := by
  unfold Converter.new Converter.ofCatalog at h ⊢
  dsimp only at h ⊢
  split at h
  next path hfile hpost =>
    obtain ⟨defined, hdefined, h⟩ := Except.bind_eq_ok_iff.mp h
    obtain ⟨text, hsource, rfl⟩ := Except.map_eq_ok_iff.mp hdefined
    obtain rfl := Except.ok.inj h
    have hplace := hpath hpost path (by simp [hfile])
    have hsource' := hgrown.read hplace (Except.mapError_eq_ok_iff.mp hsource)
    have hdefined' : Variables.load tree' path = .ok (.ofSource text) :=
      Except.map_eq_ok_iff.mpr ⟨text, Except.mapError_eq_ok_iff.mpr hsource', rfl⟩
    exact ⟨Except.bind_eq_ok_iff.mpr ⟨_, hdefined', rfl⟩, rfl⟩
  next =>
    obtain ⟨defined, hdefined, h'⟩ := Except.bind_eq_ok_iff.mp h
    obtain rfl := Except.ok.inj h'
    exact ⟨h, rfl⟩

/-- Sources that were not written say the same, if none of them has come into reach. -/
lemma sameSources_of_grown (hgrown : Grown written tree tree') {sources : Dictionary Text}
    (hpath : ∀ path ∈ sources.values, placeOf path ∉ written)
    (hreach : ∀ path ∈ sources.values, (tree'.read path).isOk = true →
      (tree.read path).isOk = true) : Catalog.SameSources sources tree tree' := by
  intro path hmem
  cases hread : tree.read path with
  | ok text => rw [hgrown.read (hpath path hmem) hread]
  | error failure =>
    cases hread' : tree'.read path with
    | error failure' => rfl
    | ok text =>
      have hok := hreach path hmem (by rw [hread']; rfl)
      rw [hread] at hok
      cases hok

/-- **The code of a case in a grown tree** is the same code. -/
lemma convertCase_of_grown (hgrown : Grown written tree tree')
    (hpath : ∀ path ∈ c.readPaths, placeOf path ∉ written)
    (hreach : ∀ path ∈ c.description.options.entityFiles.values, (tree'.read path).isOk = true →
      (tree.read path).isOk = true)
    (h : convertCase tree c = .ok code) : convertCase tree' c = .ok code := by
  obtain ⟨text, converter, hread, hnew, rfl⟩ := convertCase_eq_ok_iff.mp h
  obtain ⟨hnew', hsources⟩ := new_of_grown hgrown
    (fun hpost path hmem => hpath path (by simp [Case.readPaths, hpost, hmem])) hnew
  have hsame : Catalog.SameSources converter.lexicon.catalog.sources tree tree' := by
    rw [hsources]
    exact sameSources_of_grown hgrown
      (fun path hmem => hpath path (by simp [Case.readPaths, hmem])) hreach
  have hread' := hgrown.read (hpath c.inputPath (by simp [Case.readPaths])) hread
  exact convertCase_eq_ok_iff.mpr ⟨text, converter, hread', hnew', by
    rw [Converter.run_congr hsame]⟩

/-- The code of a case is canonical. -/
lemma canonical_of_convertCase (h : convertCase tree c = .ok code) : canonical code = code := by
  obtain ⟨text, converter, -, -, rfl⟩ := convertCase_eq_ok_iff.mp h
  exact canonical_canonical _

/-! ### Checking -/

variable {s : Settings} {f : Finding} {name : Text}

/-- Texts that are compared and agree are equal. -/
lemma eq_of_agrees {o : LineDiff.Options} {expected actual : Text}
    (h : (LineDiff.compare o expected actual).agrees = true) : expected = actual := by
  unfold LineDiff.compare LineDiff.compareBy at h
  split at h
  next heq => exact heq
  next => cases h

/-- **Everything that a comparison with updates can do**: the code is saved, or it is what was
expected. -/
lemma of_compareCase (hupdate : s.update = true)
    (h : compareCase s tree c code = .ok (f, tree')) :
    f.updated = true ∧ saveExpectation tree c.expectedPath code = .ok tree' ∨
      f.updated = false ∧ tree' = tree ∧ loadExpectation tree c.expectedPath = .ok code := by
  unfold compareCase at h
  split at h
  next =>
    rw [hupdate, Bool.or_true, if_pos rfl] at h
    obtain ⟨saved, hsave, h⟩ := Except.bind_eq_ok_iff.mp h
    obtain ⟨rfl, rfl⟩ := Prod.mk.inj (Except.ok.inj h)
    exact .inl ⟨rfl, Except.mapError_eq_ok_iff.mp hsave⟩
  next =>
    obtain ⟨expected, hload, h⟩ := Except.bind_eq_ok_iff.mp h
    dsimp only at h
    split at h
    next hagrees =>
      obtain ⟨rfl, rfl⟩ := Prod.mk.inj (Except.ok.inj h)
      rw [← eq_of_agrees hagrees]
      exact .inr ⟨rfl, rfl, Except.mapError_eq_ok_iff.mp hload⟩
    next =>
      obtain ⟨saved, hsave, h⟩ := Except.bind_eq_ok_iff.mp h
      obtain ⟨rfl, rfl⟩ := Prod.mk.inj (Except.ok.inj h)
      exact .inl ⟨rfl, Except.mapError_eq_ok_iff.mp hsave⟩

/-- Code that is what was expected passes, whether updates are made or not. -/
lemma compareCase_of_load (s : Settings) (h : loadExpectation tree c.expectedPath = .ok code) :
    compareCase s tree c code = .ok ({ passed := true }, tree) := by
  have hexpected : hasExpectation tree c.expectedPath = true := by
    obtain ⟨text, hread, -⟩ := Except.map_eq_ok_iff.mp h
    rw [hasExpectation, (read_eq_ok_iff tree _ text).mp hread]
  have hagrees : (LineDiff.compare s.diff code code).agrees = true := by
    rw [LineDiff.compare, LineDiff.compareBy, if_pos rfl]
  simp [compareCase, hexpected, h, hagrees, Except.mapError, bind, Except.bind, pure, Except.pure]

/-- A check of a case whose verdict is positive. -/
lemma checkCaseBy_of_judge {v : Verdict} (hcase : loadCaseBy read? tree s.folder name = .ok c)
    (hverdict : judge s tree c = (v, tree')) (hpassed : v.passed = true) :
    checkCaseBy read? s tree name = (.ok v, tree') := by
  simp [checkCaseBy, hcase, hverdict, hpassed]

/-- Everything that a check with a positive verdict does. -/
lemma of_checkCaseBy {v : Verdict} (hcase : loadCaseBy read? tree s.folder name = .ok c)
    (h : checkCaseBy read? s tree name = (.ok v, tree')) :
    ∃ f, examine s tree c = .ok (f, tree') ∧ v.updated = f.updated := by
  unfold checkCaseBy judge at h
  rw [hcase] at h
  cases hexamine : examine s tree c with
  | error failure => simp [hexamine] at h
  | ok found =>
    obtain ⟨f, after⟩ := found
    cases hpassed : f.passed with
    | false => simp [hexamine, hpassed] at h
    | true =>
      simp only [hexamine, hpassed, if_true, Prod.mk.injEq, Except.ok.injEq] at h
      obtain ⟨rfl, rfl⟩ := h
      exact ⟨f, rfl, rfl⟩

/-- A case that passes has a positive verdict. -/
lemma checkCaseBy_of_examine (hcase : loadCaseBy read? tree s.folder name = .ok c)
    (h : examine s tree c = .ok ({ passed := true }, tree)) :
    checkCaseBy read? s tree name = (.ok ⟨c.name, true, none, none, false⟩, tree) :=
  checkCaseBy_of_judge hcase (by simp [judge, h]) rfl

/-- Everything that examining a case with updates can do. -/
lemma of_examine (hupdate : s.update = true) (h : examine s tree c = .ok (f, tree')) :
    c.description.enabled = false ∧ f.updated = false ∧ tree' = tree ∨
      c.description.enabled = true ∧ ∃ code, convertCase tree c = .ok code ∧
        (f.updated = true ∧ saveExpectation tree c.expectedPath code = .ok tree' ∨
          f.updated = false ∧ tree' = tree ∧ loadExpectation tree c.expectedPath = .ok code) := by
  unfold examine at h
  split at h
  next henabled =>
    obtain ⟨rfl, rfl⟩ := Prod.mk.inj (Except.ok.inj h)
    exact .inl ⟨by simpa using henabled, rfl, rfl⟩
  next henabled =>
    obtain ⟨code, hcode, h⟩ := Except.bind_eq_ok_iff.mp h
    exact .inr ⟨by simpa using henabled, code, hcode, of_compareCase hupdate h⟩

/-- A case that is not enabled passes. -/
lemma examine_of_disabled (s : Settings) (tree : FileTree) (h : c.description.enabled = false) :
    examine s tree c = .ok ({ passed := true }, tree) := by
  simp [examine, h, pure, Except.pure]

/-- A case whose code is what was expected passes. -/
lemma examine_of_load (s : Settings) (hcode : convertCase tree c = .ok code)
    (hload : loadExpectation tree c.expectedPath = .ok code) :
    examine s tree c = .ok ({ passed := true }, tree) := by
  cases henabled : c.description.enabled with
  | false => exact examine_of_disabled s tree henabled
  | true => simp [examine, henabled, hcode, compareCase_of_load s hload, bind, Except.bind]

/-! ### The check after an update -/

/-- An update brings no source into reach if the folder of the expectation is there. -/
lemma isOk_of_save (h : saveExpectation tree c.expectedPath code = .ok tree')
    (hparent : hasParent tree c.expectedPath = true) {path : Text}
    (hpath : placeOf path ∉ [placeOf (backupPath c.expectedPath), placeOf c.expectedPath])
    (hok : (tree'.read path).isOk = true) : (tree.read path).isOk = true := by
  cases hread : tree'.read path with
  | error failure =>
    rw [hread] at hok
    cases hok
  | ok text =>
    have hcontent := (grown_saveExpectation h).contentAt_back (fun _ => hasFolder_of_save h hparent)
      hpath ((read_eq_ok_iff tree' path text).mp hread)
    rw [(read_eq_ok_iff tree path text).mpr hcontent]
    rfl

/-- **The check after an update passes.**  Let the files that a case reads be others than its
expectation and the backup of that, and let a check with updates have a positive verdict.  Then
every further check of the case has one, updates nothing and shows no difference, if the folder of
the expectation was there before the update, or at least no entity source has come into reach by it.
And in any case, if the update replaced an expectation, what it was before is the content of the
backup.  All this holds however the description of the case is read.

**Proof sketch.** The update saves the code or changes nothing.  If it saves the code, the tree
grows by the expectation and its backup, so the case is loaded and converted as before, and what was
saved is loaded as the canonical form of the code, which is the code itself. -/
theorem checkCase_after_update {v : Verdict} (hupdate : s.update = true)
    (hcase : loadCaseBy read? tree s.folder name = .ok c) (hapart : c.Apart)
    (hrun : checkCaseBy read? s tree name = (.ok v, tree')) :
    ((hasParent tree c.expectedPath = true ∨
        ∀ path ∈ c.description.options.entityFiles.values,
          (tree'.read path).isOk = true → (tree.read path).isOk = true) →
      ∀ s' : Settings, s'.folder = s.folder →
        checkCaseBy read? s' tree' name = (.ok ⟨c.name, true, none, none, false⟩, tree')) ∧
    (v.updated = true → ∀ content, tree.contentAt c.expectedPath = .ok content →
      tree'.contentAt (backupPath c.expectedPath) = .ok content) := by
  obtain ⟨f, hexamine, hupdated⟩ := of_checkCaseBy hcase hrun
  rw [hupdated]
  rcases of_examine hupdate hexamine with
    ⟨hdisabled, hkept, rfl⟩ | ⟨-, code, hcode, ⟨-, hsave⟩ | ⟨hkept, rfl, hload⟩⟩
  · refine ⟨fun _ s' hfolder => ?_, fun h => by rw [hkept] at h; cases h⟩
    rw [← hfolder] at hcase
    exact checkCaseBy_of_examine hcase (examine_of_disabled s' _ hdisabled)
  · refine ⟨fun hreach s' hfolder => ?_, fun _ content => backup_of_save hsave⟩
    rw [← hfolder] at hcase
    have hgrown := grown_saveExpectation hsave
    have hcase' := loadCaseBy_of_grown hgrown (hapart _ (by simp [Case.readPaths])) hcase
    have hback : ∀ path ∈ c.description.options.entityFiles.values,
        (tree'.read path).isOk = true → (tree.read path).isOk = true := by
      rcases hreach with hparent | hreach
      · exact fun path hmem => isOk_of_save hsave hparent
          (hapart path (by simp [Case.readPaths, hmem]))
      · exact hreach
    have hcode' := convertCase_of_grown hgrown hapart hback hcode
    have hload := loadExpectation_of_save hsave
    rw [canonical_of_convertCase hcode] at hload
    exact checkCaseBy_of_examine hcase' (examine_of_load s' hcode' hload)
  · refine ⟨fun _ s' hfolder => ?_, fun h => by rw [hkept] at h; cases h⟩
    rw [← hfolder] at hcase
    exact checkCaseBy_of_examine hcase (examine_of_load s' hcode hload)

/-! ### A case -/

/-- Checks without colours, with updates or not. -/
def plainSettings (update : Bool) : Settings :=
  { corpus := some "cases", update, diff := { color := false } }

/-- A case whose sheet sets the hue of a hat, with the given source and expectation. -/
def hatCase (source expected : Text) : Case :=
  { name := "hat", folder := "cases/hat",
    description :=
      { description := "d", expected, options := { entityFiles := .ofList [("帽子", source)] } } }

/-- The files of a case whose sheet sets the hue of a hat. -/
def hatTree (description : Text) (others : List (Text × FileEntry)) : FileTree :=
  ⟨.ofList
    (("cases/hat/case.yaml", .file (.text description)) ::
      ("cases/hat/input.txt", .file (.text "項目「帽子.(色)」＝３。")) ::
      ("cases/hat/Hat.java", .file (.text "class Hat \x7b\n/** [hue] 色 */\n\x7d")) :: others)⟩

/-- The case with its source and its expectation beside its description. -/
def nearTree (others : List (Text × FileEntry)) : FileTree :=
  hatTree "description: d\noptions:\n  entity_files:\n    帽子: Hat.java\n" others

/-- An expectation that is out of date. -/
def staleTree : FileTree :=
  nearTree [("cases/hat/expected.java", .file (.text "hat.setHue(2);\n"))]

/-- The same expectation after an update. -/
def freshTree : FileTree :=
  nearTree [("cases/hat/expected.java", .file (.text "hat.setHue(3);\n")),
    ("cases/hat/expected.java.bak", .file (.text "hat.setHue(2);\n"))]

/-- The verdict of the update. -/
def staleVerdict : Verdict where
  name := "hat"
  passed := true
  error := none
  diff := some "=== Diff (-expected +generated) ===\n-hat.setHue(2);\n+hat.setHue(3);\n"
  updated := true

/-- Trees with the same entries are equal. -/
lemma eq_of_entries (h : tree.listed.entries = tree'.listed.entries) : tree = tree' := by
  obtain ⟨⟨entries, ascending⟩⟩ := tree
  obtain ⟨⟨entries', ascending'⟩⟩ := tree'
  obtain rfl : entries = entries' := h
  rfl

/-- A verdict and the files after it, by their entries. -/
lemma judge_of_entries {v : Verdict}
    (h : ((judge s tree c).1, (judge s tree c).2.listed.entries) = (v, tree'.listed.entries)) :
    judge s tree c = (v, tree') := by
  obtain ⟨hverdict, hentries⟩ := Prod.mk.inj h
  exact Prod.ext hverdict (eq_of_entries hentries)

/-- An expectation that is replaced. -/
theorem checkCase_staleTree :
    loadCase staleTree (plainSettings true).folder "hat" =
        .ok (hatCase "cases/hat/Hat.java" "expected.java") ∧
      (hatCase "cases/hat/Hat.java" "expected.java").Apart ∧
      hasParent staleTree (hatCase "cases/hat/Hat.java" "expected.java").expectedPath = true ∧
      checkCase (plainSettings true) staleTree "hat" = (.ok staleVerdict, freshTree) ∧
      checkCase (plainSettings false) freshTree "hat" =
        (.ok ⟨"hat", true, none, none, false⟩, freshTree) ∧
      freshTree.contentAt
          (backupPath (hatCase "cases/hat/Hat.java" "expected.java").expectedPath) =
        .ok (.text "hat.setHue(2);\n") := by
  have hcase : loadCase staleTree (plainSettings true).folder "hat" =
      .ok (hatCase "cases/hat/Hat.java" "expected.java") := by with_unfolding_all rfl
  have hapart : (hatCase "cases/hat/Hat.java" "expected.java").Apart := by decide +kernel
  have hparent : hasParent staleTree (hatCase "cases/hat/Hat.java" "expected.java").expectedPath =
      true := by decide +kernel
  have hrun : checkCase (plainSettings true) staleTree "hat" = (.ok staleVerdict, freshTree) :=
    checkCaseBy_of_judge hcase (judge_of_entries (by decide +kernel)) rfl
  have hcontent : staleTree.contentAt (hatCase "cases/hat/Hat.java" "expected.java").expectedPath =
      .ok (.text "hat.setHue(2);\n") := by with_unfolding_all rfl
  obtain ⟨hpass, hkept⟩ := checkCase_after_update rfl hcase hapart hrun
  exact ⟨hcase, hapart, hparent, hrun, hpass (.inl hparent) (plainSettings false) rfl,
    hkept rfl _ hcontent⟩

/-- The case with its source and its expectation behind a folder that may not be there. -/
def detourTree (others : List (Text × FileEntry)) : FileTree :=
  hatTree ("description: d\nexpected: x/expected.java\noptions:\n  entity_files:\n" ++
    "    帽子: x/../Hat.java\n") others

/-- The files after the update: the source is in reach now. -/
def openedTree : FileTree :=
  detourTree [("cases/hat/x", .folder), ("cases/hat/x/expected.java",
    .file (.text "//TODO: 項目「帽子.(色)」＝３。 [entity not found: 帽子]\n"))]

/-- The folder of the expectation is made by the update, and brings the source into reach: the check
after the update does not pass. -/
theorem checkCase_openedTree :
    loadCase (detourTree []) (plainSettings true).folder "hat" =
        .ok (hatCase "cases/hat/x/../Hat.java" "x/expected.java") ∧
      (hatCase "cases/hat/x/../Hat.java" "x/expected.java").Apart ∧
      checkCase (plainSettings true) (detourTree []) "hat" =
        (.ok ⟨"hat", true, none, none, true⟩, openedTree) ∧
      (checkCase (plainSettings false) openedTree "hat").1.isOk = false := by
  have hcase : loadCase (detourTree []) (plainSettings true).folder "hat" =
      .ok (hatCase "cases/hat/x/../Hat.java" "x/expected.java") := by with_unfolding_all rfl
  refine ⟨hcase, ?_, ?_, ?_⟩
  · decide +kernel
  · exact checkCaseBy_of_judge hcase (judge_of_entries (by decide +kernel)) rfl
  · decide +kernel

end RuleSheet.Regression
