import RuleSheet.Proofs.Conversion.Account
import RuleSheet.Proofs.Guard.Flagging
import RuleSheet.Proofs.NormalForm
import RuleSheet.Proofs.Reference
import RuleSheet.Proofs.Sentence.Conditions

/-!
# Conditions that could not be translated

A comparison that could not be translated is written as an error marker, and processing is to flag
the block.  It does, unless an operand in front of the marker makes it look as if the condition
ended there.

## Main definitions

* `RuleSheet.Comparison.Untranslated` — a comparison that could not be read, or with an operand that
  has no meaning.
* `RuleSheet.Comparison.OneLine` — a comparison of texts on one line.
* `RuleSheet.Comparison.obstacle?` — the reason that the marker of a comparison gives.
* `RuleSheet.Converter.staged` — the pieces of a sheet, each with the lexicon it is written with.

## Main results

* `RuleSheet.Lexicon.infix_of_mem_quoted` — the reason why an operand has no meaning quotes the
  operand.
* `RuleSheet.Comparison.code_eq_errorMarker` — what could not be translated is an error marker.
* `RuleSheet.Converter.oneLine_of_mem_assembled` — the comparisons of a sheet are on one line each.
* `RuleSheet.Converter.flagged_units_iff` — a block with a comparison that could not be translated
  is flagged if and only if its bracket is not closed before the marker is complete.
-/

set_option autoImplicit false

namespace RuleSheet

open Text

/-! ### Operands without a meaning -/

namespace Reference

/-- The parts of a field reference stand between the brackets. -/
lemma infix_of_ofContent? {t entity label : Text}
    (h : ofContent? t = some (.field entity label)) : entity <:+: t ∧ label <:+: t := by
  cases (ofContent?_eq_some_iff _ _).mp h with
  | @field owner inner hunmarked ht =>
    have hparts : owner <:+: trim t ∧ inner <:+: trim t := by
      rw [ht]
      exact ⟨⟨[], ".(" ++ inner ++ ")", by simp⟩, ⟨owner ++ ".(", ")", rfl⟩⟩
    exact ⟨(infix_trim owner).trans (hparts.1.trans (infix_trim t)),
      (infix_trim inner).trans (hparts.2.trans (infix_trim t))⟩

/-- What stands between the brackets, and what follows them, stands in the text. -/
lemma infix_of_bracketed? {t inside rest : Text} (h : bracketed? t = some (inside, rest)) :
    inside <:+: t ∧ rest <:+: t := by
  obtain ⟨⟨mark, -, rfl⟩, -⟩ := (bracketed?_eq_some_iff _ _ _).mp h
  exact ⟨⟨mark, "」" ++ rest, by simp⟩, ⟨mark ++ inside ++ "」", [], by simp⟩⟩

/-- The parts of a field reference stand in the token. -/
lemma infix_of_ofToken? {token entity label : Text}
    (h : ofToken? token = some (.field entity label)) : entity <:+: token ∧ label <:+: token := by
  unfold ofToken? at h
  split at h
  next inside hbracketed =>
    have hinside : inside <:+: token := (infix_of_bracketed? hbracketed).1.trans (infix_trim token)
    obtain ⟨hentity, hlabel⟩ := infix_of_ofContent? h
    exact ⟨hentity.trans hinside, hlabel.trans hinside⟩
  next => cases h

end Reference

/-- The texts that a reason quotes. -/
def Obstacle.quoted : Obstacle → List Text
  | .entityNotFound entity => [entity]
  | .fieldNotFound entity label => [entity, label]
  | .unsupportedValue value => [value]
  | .unrecognized text => [text]

/-- The wording of a reason breaks a line only where a quoted text does. -/
lemma Obstacle.newline_not_mem_message {reason : Obstacle} (h : ∀ t ∈ reason.quoted, '\n' ∉ t) :
    '\n' ∉ reason.message := by
  cases reason with
  | entityNotFound entity => exact List.not_mem_append (by decide) (h entity (by simp [quoted]))
  | fieldNotFound entity label =>
    exact List.not_mem_append (List.not_mem_append (List.not_mem_append
      (List.not_mem_append (by decide) (h entity (by simp [quoted]))) (by decide))
      (h label (by simp [quoted]))) (by decide)
  | unsupportedValue value => exact List.not_mem_append (by decide) (h value (by simp [quoted]))
  | unrecognized text => exact List.not_mem_append (by decide) (h text (by simp [quoted]))

namespace Lexicon

variable {tree : FileTree} {l : Lexicon}

/-- An operand without a meaning is the reference of a field without one: words, numbers and Java
text always have a meaning. -/
lemma error_of_resolve {operand : Text} {reason : Obstacle}
    (h : (l.resolve tree operand).1 = .error reason) :
    ∃ id label, Reference.ofToken? (trim operand) = some (.field id label) ∧
      (l.field tree id label).1 = .error reason := by
  unfold resolve at h
  dsimp only at h
  split at h
  next r hr =>
    obtain ⟨id, label, rfl, herror⟩ := error_of_reference h
    exact ⟨id, label, hr, herror⟩
  next =>
    split at h
    next => cases h
    next => split at h <;> cases h

/-- **The reason why an operand has no meaning** quotes the operand. -/
lemma infix_of_mem_quoted {operand : Text} {reason : Obstacle}
    (h : (l.resolve tree operand).1 = .error reason) : ∀ t ∈ reason.quoted, t <:+: operand := by
  obtain ⟨id, label, htoken, herror⟩ := error_of_resolve h
  obtain ⟨hid, hlabel⟩ := Reference.infix_of_ofToken? htoken
  have hid' := hid.trans (infix_trim operand)
  have hlabel' := hlabel.trans (infix_trim operand)
  rcases error_of_field herror with ⟨rfl, -⟩ | rfl
  · simpa [Obstacle.quoted] using hid'
  · simpa [Obstacle.quoted] using And.intro hid' hlabel'

end Lexicon

/-! ### Comparisons as error markers -/

namespace Comparison

/-- A comparison that could not be read, or with an operand that has no meaning.  The right operand
is looked up after the left one. -/
def Untranslated (tree : FileTree) (c : Comparison) (l : Lexicon) : Prop :=
  c.unreadable = true ∨ (l.resolve tree c.left).1.isOk = false ∨
    ((l.resolve tree c.left).2.resolve tree c.right).1.isOk = false

/-- A comparison of texts on one line. -/
structure OneLine (c : Comparison) : Prop where
  /-- The text that it was read from. -/
  raw : '\n' ∉ c.raw
  /-- The left operand. -/
  left : '\n' ∉ c.left
  /-- The right operand. -/
  right : '\n' ∉ c.right

end Comparison

/-- Breaking ends of comments breaks no lines. -/
lemma newline_not_mem_breakCommentEnds {t : Text} (ht : '\n' ∉ t) : '\n' ∉ breakCommentEnds t := by
  fun_induction breakCommentEnds t <;> simp_all

/-- What an error marker says between its opening and its end. -/
def markerBody (raw : Text) : Option Obstacle → Text
  | some reason => breakCommentEnds raw ++ " [" ++ reason.message ++ "]"
  | none => breakCommentEnds raw

/-- An error marker around its body. -/
lemma errorMarker_eq (raw : Text) (reason : Option Obstacle) :
    errorMarker raw reason = "/*ERROR: " ++ (markerBody raw reason ++ "*/") := by
  cases reason with
  | none => exact List.append_assoc _ _ _
  | some r =>
    calc errorMarker raw (some r)
      _ = "/*ERROR: " ++ breakCommentEnds raw ++ " [" ++ r.message ++ ("]" ++ "*/" : Text) := rfl
      _ = _ := by simp only [markerBody, List.append_assoc]

/-- The body of an error marker of texts on one line. -/
lemma newline_not_mem_markerBody {raw : Text} (hraw : '\n' ∉ raw) (reason : Option Obstacle)
    (hreason : ∀ r ∈ reason, '\n' ∉ r.message) : '\n' ∉ markerBody raw reason := by
  have hbroken := newline_not_mem_breakCommentEnds hraw
  cases reason with
  | none => exact hbroken
  | some r =>
    have hopen : '\n' ∉ (" [" : Text) := by decide
    have hclose : '\n' ∉ ("]" : Text) := by decide
    exact List.not_mem_append (List.not_mem_append (List.not_mem_append hbroken hopen)
      (hreason r rfl)) hclose

namespace Comparison

/-- The two operands of a comparison are looked up one after the other. -/
lemma code_of_readable {c : Comparison} (hread : c.unreadable = false) (tree : FileTree)
    (l : Lexicon) : (c.code tree l).1 =
      c.written (l.resolve tree c.left).1 ((l.resolve tree c.left).2.resolve tree c.right).1 := by
  rw [code, if_neg (by simp [hread])]

/-- The reason that is given for a comparison that could not be translated: that of the left operand
if it has no meaning, else that of the right one.  For a text that could not be read there is
none. -/
def obstacle? (tree : FileTree) (c : Comparison) (l : Lexicon) : Option Obstacle :=
  if c.unreadable then none
  else match (l.resolve tree c.left).1, ((l.resolve tree c.left).2.resolve tree c.right).1 with
    | .error reason, _ => some reason
    | .ok _, .error reason => some reason
    | .ok _, .ok _ => none

/-- The reason quotes the operands. -/
lemma infix_of_mem_quoted {tree : FileTree} {c : Comparison} {l : Lexicon} {reason : Obstacle}
    (h : reason ∈ c.obstacle? tree l) : ∀ t ∈ reason.quoted, t <:+: c.left ∨ t <:+: c.right := by
  unfold obstacle? at h
  split at h
  next => cases h
  next =>
    split at h
    next hleft =>
      obtain rfl := Option.some.inj h
      exact fun t ht => .inl (Lexicon.infix_of_mem_quoted hleft t ht)
    next hright =>
      obtain rfl := Option.some.inj h
      exact fun t ht => .inr (Lexicon.infix_of_mem_quoted hright t ht)
    next => cases h

/-- **What could not be translated is an error marker.** -/
lemma code_eq_errorMarker {tree : FileTree} {c : Comparison} {l : Lexicon}
    (h : c.Untranslated tree l) : (c.code tree l).1 = errorMarker c.raw (c.obstacle? tree l) := by
  cases hread : c.unreadable with
  | true => rw [code, obstacle?, if_pos hread, if_pos hread]
  | false =>
    rw [code_of_readable hread, obstacle?, if_neg (by simp [hread])]
    cases hleft : (l.resolve tree c.left).1 with
    | error reason => rfl
    | ok meaning =>
      cases hright : ((l.resolve tree c.left).2.resolve tree c.right).1 with
      | error reason => rfl
      | ok other =>
        -- then the comparison is translated
        rw [Untranslated, hread, hleft, hright] at h
        simp [Except.isOk, Except.toBool] at h

/-- The marker stays on one line if the comparison does. -/
lemma code_of_untranslated {tree : FileTree} {c : Comparison} {l : Lexicon} (hc : c.OneLine)
    (h : c.Untranslated tree l) :
    ∃ body : Text, (c.code tree l).1 = "/*ERROR: " ++ (body ++ "*/") ∧ '\n' ∉ body := by
  rw [code_eq_errorMarker h, errorMarker_eq]
  refine ⟨_, rfl, newline_not_mem_markerBody hc.raw _ fun reason hreason =>
    Obstacle.newline_not_mem_message fun t ht hmem => ?_⟩
  rcases infix_of_mem_quoted hreason t ht with hleft | hright
  · exact hc.left (hleft.subset hmem)
  · exact hc.right (hright.subset hmem)

end Comparison

/-- The code of comparisons in two parts. -/
lemma comparisonsCode_append (tree : FileTree) (pre post : List Comparison) : ∀ l : Lexicon,
    (comparisonsCode tree (pre ++ post) l).1 = (comparisonsCode tree pre l).1 ++
      (comparisonsCode tree post (comparisonsCode tree pre l).2).1 := by
  induction pre with
  | nil => exact fun l => rfl
  | cons c pre ih =>
    intro l
    show c.joint ++ (c.code tree l).1 ++
      (comparisonsCode tree (pre ++ post) (c.code tree l).2).1 = _
    rw [ih, ← List.append_assoc]
    rfl

/-- The code of one comparison. -/
lemma comparisonsCode_singleton (tree : FileTree) (c : Comparison) (l : Lexicon) :
    (comparisonsCode tree [c] l).1 = c.joint ++ (c.code tree l).1 := List.append_nil _

/-- The code of a block, from the start of its condition up to one of its comparisons. -/
lemma exists_code_eq (tree : FileTree) (fieldComments : Bool) {b : Block} (l : Lexicon)
    {pre post : List Comparison} (hparts : b.condition.parts = pre ++ post) :
    ∃ rest : Text, (b.code tree fieldComments l).1 =
      "if(" ++ ((comparisonsCode tree pre l).1 ++ rest) := by
  have hcode : ∃ rest : Text, (b.code tree fieldComments l).1 =
      "if(" ++ ((comparisonsCode tree b.condition.parts l).1 ++ rest) := by
    refine ⟨")" ++ (" \x7b\n" ++ ((b.statements.flatMap fun s =>
      (lines (s.code fieldComments)).flatMap indentedLine) ++ "\x7d")), ?_⟩
    simp only [Block.code, Condition.code, List.append_assoc]
  obtain ⟨rest, hrest⟩ := hcode
  rw [hparts, comparisonsCode_append, List.append_assoc] at hrest
  exact ⟨_, hrest⟩

/-! ### Comparisons of a sheet -/

/-- What stands around a relation sign stands in the text. -/
lemma Comparison.subset_of_splitFrom {t left right : Text} {relation : Relation} {depth : Nat}
    (h : splitFrom depth t = some (left, relation, right)) : left ⊆ t ∧ right ⊆ t := by
  obtain ⟨sign, -, rfl, -⟩ := splitFrom_eq_some_iff.mp h
  exact ⟨List.subset_append_left _ _,
    List.Subset.trans (List.subset_cons_self sign right) (List.subset_append_right _ _)⟩

/-- The comparison in a text on one line. -/
lemma Comparison.oneLine_ofText {t : Text} (ht : '\n' ∉ t) : (ofText t).OneLine := by
  have htrim : ∀ {s : Text}, '\n' ∉ s → '\n' ∉ trim s := fun hs hmem => hs (trim_subset _ hmem)
  have hunread : (unread (trim t)).OneLine := ⟨htrim ht, List.not_mem_nil, List.not_mem_nil⟩
  unfold ofText
  dsimp only
  split
  next => exact hunread
  next left relation right hsplit =>
    obtain ⟨hleft, hright⟩ := subset_of_splitFrom hsplit
    split
    next => exact hunread
    next =>
      exact ⟨htrim ht, htrim fun hmem => htrim ht (hleft hmem),
        htrim fun hmem => htrim ht (hright hmem)⟩

/-- The comparison of a condition in a text on one line. -/
lemma Sentence.oneLine_comparison {t : Text} (ht : '\n' ∉ t) : (comparison t).OneLine := by
  unfold comparison
  split
  next body after hcut =>
    refine Comparison.oneLine_ofText fun hmem => ht ?_
    rw [eq_of_cutLast? hcut]
    exact List.mem_append_left _ (List.mem_append_left _ hmem)
  next => exact ⟨fun hmem => ht (trim_subset t hmem), List.not_mem_nil, List.not_mem_nil⟩

/-- How a comparison is joined to others does not matter for its texts. -/
lemma Comparison.OneLine.join {c : Comparison} (h : c.OneLine) (joined : Option Connective) :
    ({ c with joined } : Comparison).OneLine := ⟨h.raw, h.left, h.right⟩

namespace Converter

variable {tree : FileTree}

/-- The comparison of a line that was read is on one line: normal forms have no line feeds. -/
lemma oneLine_of_read {helpers : Helpers} {lines : List Text} {l : Lexicon} {i : Nat}
    {line : SheetLine} (h : (readLines tree helpers 1 lines l).1[i]? = some (some line))
    {part : Comparison} (hpart : line.clause = .opening part ∨
      ∃ connective, line.clause = .continuation connective part) : part.OneLine := by
  obtain ⟨-, htext, l', hclause⟩ := atNumber?_of_read h
  obtain ⟨raw, -, hraw⟩ := Option.bind_eq_some_iff.mp htext
  have hnewline : '\n' ∉ line.text := by
    intro hmem
    exact absurd (Line.eq_space_of_mem_normalize hraw hmem (by decide)) (by decide)
  have hcomparison : ∃ mark rest, line.text = mark ++ rest ∧ part = Sentence.comparison rest := by
    rw [hclause] at hpart
    rcases hpart with hopening | ⟨connective, hcontinuation⟩
    · exact ⟨openingMark, comparison_of_classify.1 hopening⟩
    · exact comparison_of_classify.2 connective hcontinuation
  obtain ⟨mark, rest, hrest, rfl⟩ := hcomparison
  rw [hrest] at hnewline
  exact Sentence.oneLine_comparison fun hmem => hnewline (List.mem_append_right mark hmem)

/-- **The comparisons of a sheet are on one line each**, and the first of a block has no
connective. -/
lemma oneLine_of_mem_assembled {c : Converter} {lines : List Text} {b : Block}
    (hb : .block b ∈ c.assembled tree lines) :
    (∀ part ∈ b.condition.parts, part.OneLine) ∧
      ∀ part ∈ b.condition.parts.head?, part.joined = none := by
  obtain ⟨i, line, hline, enclosed, hpiece⟩ := mem_assembled hb
  rcases Segmentation.piece?_eq_some hpiece with ⟨first, hclause, hblock⟩ | ⟨-, s, halone, -⟩
  · obtain rfl := Piece.block.inj hblock
    refine ⟨List.forall_mem_cons.mpr ⟨?_, fun part hpart => ?_⟩, ?_⟩
    · exact (oneLine_of_read hline (Or.inl hclause)).join none
    · obtain ⟨member, hmember, hcomparison⟩ := List.mem_filterMap.mp hpart
      have hread := List.mem_of_mem_drop ((List.takeWhile_sublist _).subset hmember)
      obtain ⟨k, hk⟩ := List.mem_iff_getElem?.mp hread
      rcases member with _ | ⟨number, indented, text, clause⟩
      · cases hcomparison
      · cases clause with
        | continuation connective other =>
          rw [← Option.some.inj hcomparison]
          exact (oneLine_of_read hk (Or.inr ⟨connective, rfl⟩)).join (some connective)
        | opening other => cases hcomparison
        | statement s => cases hcomparison
        | unrecognized text => cases hcomparison
    · intro part hpart
      rw [← Option.some.inj hpart]
  · cases halone

/-! ### Blocks -/

/-- Pieces in a row, each with the lexicon that it is written with. -/
def stages (tree : FileTree) (options : Options) (defined : Variables) :
    List Piece → Lexicon → List (Piece × Lexicon)
  | [], _ => []
  | p :: rest, l =>
    (p, l) :: stages tree options defined rest (writePiece tree options defined p l).2

/-- Every piece has its stage. -/
lemma map_fst_stages (tree : FileTree) (options : Options) (defined : Variables)
    (pieces : List Piece) : ∀ l : Lexicon,
    (stages tree options defined pieces l).map Prod.fst = pieces := by
  induction pieces with
  | nil => exact fun l => rfl
  | cons p rest ih =>
    intro l
    rw [stages, List.map_cons, ih]

/-- Pieces in a row are written stage by stage. -/
lemma writePieces_eq_map (tree : FileTree) (options : Options) (defined : Variables)
    (pieces : List Piece) : ∀ l : Lexicon,
    (writePieces tree options defined pieces l).1 =
      (stages tree options defined pieces l).map fun stage =>
        (writePiece tree options defined stage.1 stage.2).1 := by
  induction pieces with
  | nil => exact fun l => rfl
  | cons p rest ih =>
    intro l
    rw [writePieces_cons, stages, List.map_cons, ih]

/-- The pieces of a sheet, each with the lexicon that it is written with. -/
def staged (tree : FileTree) (c : Converter) (lines : List Text) : List (Piece × Lexicon) :=
  stages tree c.options c.defined (c.assembled tree lines)
    (readLines tree c.options.helpers 1 lines c.lexicon).2

/-- The pieces of a sheet are those of its stages. -/
lemma mem_assembled_of_staged {c : Converter} {lines : List Text} {p : Piece} {l : Lexicon}
    (h : (p, l) ∈ c.staged tree lines) : p ∈ c.assembled tree lines := by
  rw [← map_fst_stages tree c.options c.defined (c.assembled tree lines)
    (readLines tree c.options.helpers 1 lines c.lexicon).2]
  exact List.mem_map_of_mem h

/-- A unit of block mode comes from a stage. -/
lemma exists_staged {c : Converter} {lines : List Text} {u : CodeUnit}
    (hu : u ∈ (c.convertBlocks tree lines).1.units) :
    ∃ p l, (p, l) ∈ c.staged tree lines ∧
      u = (writePiece tree c.options c.defined p l).1.unit := by
  rw [units_convertBlocks, written_draft, writePieces_eq_map] at hu
  obtain ⟨w, hw, rfl⟩ := List.mem_map.mp hu
  obtain ⟨⟨p, l⟩, hstage, rfl⟩ := List.mem_map.mp hw
  exact ⟨p, l, hstage, rfl⟩

/-- The code of a condition up to a comparison that could not be translated holds a marker. -/
lemma holdsMarker_comparisonsCode {pre : List Comparison} {part : Comparison} {l : Lexicon}
    (hpart : part.OneLine) (h : part.Untranslated tree (comparisonsCode tree pre l).2) :
    Guard.HoldsMarker (comparisonsCode tree (pre ++ [part]) l).1 := by
  obtain ⟨body, hcode, hbody⟩ := part.code_of_untranslated hpart h
  refine ⟨(comparisonsCode tree pre l).1 ++ part.joint, body, [], ?_, hbody⟩
  rw [comparisonsCode_append, comparisonsCode_singleton, hcode, List.append_assoc, List.append_nil]

/-- A comparison that could not be translated does not close the bracket if it is the first one. -/
lemma closedEarly_first {part : Comparison} {l : Lexicon} (hpart : part.OneLine)
    (hjoined : part.joined = none) (h : part.Untranslated tree l) :
    Guard.closedEarly (comparisonsCode tree [part] l).1 = false := by
  obtain ⟨body, hcode, hbody⟩ := part.code_of_untranslated hpart h
  have hjoint : part.joint = [] := by rw [Comparison.joint, hjoined]
  rw [comparisonsCode_singleton, hjoint, List.nil_append, hcode]
  exact Guard.closedEarly_marker hbody

/-- A block that is processed is flagged unless the bracket of its condition is closed early. -/
lemma flagged_writeBlock_iff {options : Options} (replaced : options.postprocess = true)
    (defined : Variables) {b : Block} {l : Lexicon} {pre post : List Comparison}
    (hparts : b.condition.parts = pre ++ post)
    (hmarker : Guard.HoldsMarker (comparisonsCode tree pre l).1) :
    Guard.Flagged (writeBlock tree options defined b l).1.unit.code ↔
      Guard.closedEarly (comparisonsCode tree pre l).1 = false := by
  obtain ⟨rest, hcode⟩ := exists_code_eq tree options.fieldComments l hparts
  simp only [writeBlock, finishBlock, replaced, if_true, hcode]
  rw [Guard.flagged_process_iff, Guard.closedEarly_append hmarker]

/-- **Blocks that could not be translated.**  If comparisons are replaced, then a block with a
comparison that could not be translated is flagged if and only if the code of its condition, up to
and with the marker of that comparison, does not close the bracket before a marker is complete.  In
particular it is flagged if the comparison is the first one.

**Proof sketch.** The marker of the comparison is a complete one, since no text of a sheet has a
line feed.  So whether the bracket is closed early is settled there (`Guard.closedEarly_append`),
and it decides what processing does (`Guard.flagged_process_iff`). -/
theorem flagged_units_iff (tree : FileTree) (c : Converter)
    (replaced : c.options.postprocess = true) (lines : List Text) :
    ∀ u ∈ (c.convertBlocks tree lines).1.units, u.kind = .block →
      ∃ b l, (.block b, l) ∈ c.staged tree lines ∧ b.line = u.line ∧
        ∀ pre part post, b.condition.parts = pre ++ part :: post →
          part.Untranslated tree (comparisonsCode tree pre l).2 →
          (Guard.Flagged u.code ↔
              Guard.closedEarly (comparisonsCode tree (pre ++ [part]) l).1 = false) ∧
            (pre = [] → Guard.Flagged u.code) := by
  intro u hu hkind
  obtain ⟨p, l, hstage, rfl⟩ := exists_staged hu
  cases p with
  | alone line s =>
    -- a statement that stands alone is no block
    have hother : (if s.isTodo then UnitKind.todo else .standalone) = .block := hkind
    split at hother <;> cases hother
  | block b =>
    refine ⟨b, l, hstage, rfl, fun pre part post hparts huntranslated => ?_⟩
    obtain ⟨honeLine, hfirst⟩ := oneLine_of_mem_assembled (mem_assembled_of_staged hstage)
    have hpart : part.OneLine := honeLine part (by simp [hparts])
    have hsplit : b.condition.parts = (pre ++ [part]) ++ post := by simp [hparts]
    have hiff := flagged_writeBlock_iff replaced c.defined hsplit
      (holdsMarker_comparisonsCode hpart huntranslated)
    refine ⟨hiff, ?_⟩
    rintro rfl
    exact hiff.mpr (closedEarly_first hpart (hfirst part (by simp [hparts])) huntranslated)

/-- A sheet of one block has one stage. -/
lemma staged_of_assembled {c : Converter} {lines : List Text} {b : Block}
    (h : c.assembled tree lines = [.block b]) : c.staged tree lines =
      [(.block b, (readLines tree c.options.helpers 1 lines c.lexicon).2)] := by
  rw [staged, h]
  rfl

/-- A converter without entities that replaces comparisons. -/
def replacingConverter : Converter :=
  ⟨{ postprocess := true }, .ofCatalog (.ofSources .empty) .empty, .empty⟩

/-- A comparison with a number. -/
def numberPart (left : Text) : Comparison := ⟨none, left, .equal, "1", false, left ++ "＝1"⟩

/-- A comparison with the field of an entity that has no source. -/
def misnamedPart : Comparison :=
  ⟨some .and, "y", .equal, "項目「帽子.(色)」", false, "y＝項目「帽子.(色)」"⟩

/-- A condition of the two comparisons. -/
def misnamedSheet : List Text := ["》【条件】x＝1のとき", "かつ、y＝項目「帽子.(色)」のとき"]

/-- The block of the sheet is flagged, because nothing closes its bracket before the marker. -/
theorem flagged_units_misnamedSheet :
    replacingConverter.options.postprocess = true ∧
      (replacingConverter.convertBlocks hueFiles misnamedSheet).1.units.map (·.kind) = [.block] ∧
      ∀ u ∈ (replacingConverter.convertBlocks hueFiles misnamedSheet).1.units,
        Guard.Flagged u.code := by
  have hkinds : (replacingConverter.convertBlocks hueFiles misnamedSheet).1.units.map (·.kind) =
      [.block] := by decide +kernel
  have hassembled : replacingConverter.assembled hueFiles misnamedSheet =
      [.block ⟨1, ⟨[numberPart "x", misnamedPart]⟩, []⟩] := by decide +kernel
  refine ⟨rfl, hkinds, fun u hu => ?_⟩
  have hkind : u.kind = .block := by
    have hmem : u.kind ∈ [UnitKind.block] := hkinds ▸ List.mem_map_of_mem hu
    exact List.mem_singleton.mp hmem
  obtain ⟨b, l, hstage, -, hflagged⟩ :=
    flagged_units_iff hueFiles replacingConverter rfl misnamedSheet u hu hkind
  rw [staged_of_assembled hassembled, List.mem_singleton, Prod.mk.injEq] at hstage
  obtain ⟨hb, rfl⟩ := hstage
  obtain rfl := Piece.block.inj hb
  have hiff := (hflagged [numberPart "x"] misnamedPart [] rfl
    (Or.inr (Or.inr (by decide +kernel)))).1
  exact hiff.mpr (by decide +kernel)

/-- A condition that seems to end in its first operand. -/
def closedSheet : List Text := ["》【条件】x)＝1のとき", "かつ、y＝項目「帽子.(色)」のとき"]

/-- The block of the sheet is not flagged, although its second comparison could not be translated:
what processing takes for the condition is the text before the bracket in the first one. -/
theorem flagged_units_closedSheet :
    ∃ u ∈ (replacingConverter.convertBlocks hueFiles closedSheet).1.units, u.kind = .block ∧
      ¬ Guard.Flagged u.code ∧
      ∃ b l, (.block b, l) ∈ replacingConverter.staged hueFiles closedSheet ∧ b.line = u.line ∧
        b.condition.parts = [numberPart "x)", misnamedPart] ∧
        misnamedPart.Untranslated hueFiles (comparisonsCode hueFiles [numberPart "x)"] l).2 := by
  have hassembled : replacingConverter.assembled hueFiles closedSheet =
      [.block ⟨1, ⟨[numberPart "x)", misnamedPart]⟩, []⟩] := by decide +kernel
  have hunits : (replacingConverter.convertBlocks hueFiles closedSheet).1.units = [⟨1, .block,
      "if(x) == 1 && /*ERROR: y＝項目「帽子.(色)」 [entity not found: 帽子]*/) \x7b\n\x7d"⟩] := by
    decide +kernel
  rw [hunits, staged_of_assembled hassembled]
  refine ⟨_, List.mem_singleton_self _, rfl, ?_, _, _, List.mem_singleton_self _, rfl, rfl, ?_⟩
  · decide +kernel
  · exact Or.inr (Or.inr (by decide +kernel))

end Converter

end RuleSheet
