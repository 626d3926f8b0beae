import RuleSheet.Proofs.Conversion.TodoItems
import RuleSheet.Proofs.Conversion.Untranslated

/-!
# Lines kept in comments

A line that is left to do by hand is written as a comment up to the end of the line.  The comment
holds the line in normal form, and mostly a reason that quotes parts of it.  A character that ends a
line would let the rest of the comment become code.  There is none: a normal form has no blanks but
spaces, and whatever a reason quotes stands in the line.

## Main definitions

* `RuleSheet.Text.isLineEnd`, `Text.Unbroken` — the characters that end a line, and texts without
  them.
* `RuleSheet.Obstacle.CitedFrom`, `Sentence.CitedFrom` — a reason, and a sentence, whose texts stand
  in a line.
* `RuleSheet.Statement.Noted`, `CodeUnit.Notes` — a statement, and a unit, that leaves a raw line to
  do by hand, with its code.

## Main results

* `RuleSheet.Sentence.citedFrom_of_recognize` — all rules take the texts of a sentence from the
  line.
* `RuleSheet.cites_classify` — the reason why a line is left to do quotes nothing but the line.
* `RuleSheet.Assembly.exists_statements_step` — which statements one more line adds to an assembly.
* `RuleSheet.Converter.exists_statements_foldl` — the statements of a sheet, line by line.
* `RuleSheet.Converter.todos_noted` — every line left to do is kept whole, in a comment that it
  cannot leave.
-/

set_option autoImplicit false

namespace RuleSheet

open Text

/-! ### Ends of lines -/

namespace Text

/-- The characters that end a line: line feed, carriage return, next line, and the separators of
lines and of paragraphs. -/
def isLineEnd (c : Char) : Bool :=
  let n := c.toNat
  n = 0xA || n = 0xD || n = 0x85 || n = 0x2028 || n = 0x2029

/-- A text in which no line ends. -/
def Unbroken (t : Text) : Prop := ∀ c ∈ t, isLineEnd c = false

instance (t : Text) : Decidable (Unbroken t) :=
  decidable_of_iff (t.all fun c => !isLineEnd c) (by simp [Unbroken])

/-- What ends a line is white space. -/
lemma isBlank_of_isLineEnd {c : Char} (h : isLineEnd c = true) : isBlank c = true := by
  simp only [isLineEnd, isBlank, Bool.or_eq_true, decide_eq_true_eq, Bool.and_eq_true] at h ⊢
  omega

lemma Unbroken.append {s t : Text} (hs : Unbroken s) (ht : Unbroken t) : Unbroken (s ++ t) := by
  intro c hc
  rcases List.mem_append.mp hc with hc | hc
  · exact hs c hc
  · exact ht c hc

lemma Unbroken.subset {s t : Text} (ht : Unbroken t) (hsub : s ⊆ t) : Unbroken s :=
  fun c hc => ht c (hsub hc)

lemma Unbroken.newline_not_mem {t : Text} (ht : Unbroken t) : '\n' ∉ t := by
  intro hmem
  have hend := ht '\n' hmem
  revert hend
  decide

end Text

/-- **No line ends inside a normal form.** -/
lemma Line.unbroken_normalize {raw out : Text} (h : normalize raw = some out) : Unbroken out := by
  intro c hc
  cases hend : isLineEnd c with
  | false => rfl
  | true =>
    have hspace := eq_space_of_mem_normalize h hc (isBlank_of_isLineEnd hend)
    rw [hspace] at hend
    cases hend

/-! ### What a reason quotes -/

/-- The texts of a reason stand in the line.  Of a line that has no known form nothing is quoted. -/
def Obstacle.CitedFrom (line : Text) : Obstacle → Prop
  | .entityNotFound entity => entity ⊆ line
  | .fieldNotFound entity label => entity ⊆ line ∧ label ⊆ line
  | .unsupportedValue value => value ⊆ line
  | .unrecognized _ => True

/-- A reason that quotes from an unbroken line is unbroken. -/
lemma Obstacle.unbroken_message {line : Text} (hline : Unbroken line) {reason : Obstacle}
    (h : reason.CitedFrom line) (hknown : reason.isUnrecognized = false) :
    Unbroken reason.message := by
  cases reason with
  | entityNotFound entity =>
    have hwords : Unbroken ("entity not found: " : Text) := by decide
    exact hwords.append (hline.subset h)
  | fieldNotFound entity label =>
    have hwords : Unbroken ("field not found: " : Text) := by decide
    have hopen : Unbroken (".(" : Text) := by decide
    have hclose : Unbroken (")" : Text) := by decide
    exact (((hwords.append (hline.subset h.1)).append hopen).append (hline.subset h.2)).append
      hclose
  | unsupportedValue value =>
    have hwords : Unbroken ("unsupported value: " : Text) := by decide
    exact hwords.append (hline.subset h)
  | unrecognized text => cases hknown

/-! ### What a sentence takes from its line -/

/-- The texts of a field reference stand in the line. -/
def Reference.CitedFrom (line : Text) : Reference → Prop
  | .field entity label => entity ⊆ line ∧ label ⊆ line
  | .variable _ _ => True
  | .flag _ => True

/-- A value of no supported form stands in the line. -/
def FieldValue.CitedFrom (line : Text) : FieldValue → Prop
  | .unsupported value => value ⊆ line
  | _ => True

/-- What can be named in a reason stands in the line. -/
def Sentence.CitedFrom (line : Text) : Sentence → Prop
  | .field entity label value => (entity ⊆ line ∧ label ⊆ line) ∧ value.CitedFrom line
  | .unsupported value => value ⊆ line
  | .copy c => c.target.CitedFrom line ∧ c.source.CitedFrom line
  | _ => True

lemma FieldValue.CitedFrom.mono {t line : Text} {value : FieldValue} (h : value.CitedFrom t)
    (hsub : t ⊆ line) : value.CitedFrom line := by
  cases value with
  | unsupported value => exact List.Subset.trans h hsub
  | blank => trivial
  | number digits => trivial
  | text t => trivial

namespace Reference

lemma CitedFrom.mono {t line : Text} {r : Reference} (h : r.CitedFrom t) (hsub : t ⊆ line) :
    r.CitedFrom line := by
  cases r with
  | field entity label => exact ⟨List.Subset.trans h.1 hsub, List.Subset.trans h.2 hsub⟩
  | «variable» category name => trivial
  | flag name => trivial

lemma citedFrom_of_ofContent? {t : Text} {r : Reference} (h : ofContent? t = some r) :
    r.CitedFrom t := by
  cases r with
  | field entity label => exact (infix_of_ofContent? h).imp (·.subset) (·.subset)
  | «variable» category name => trivial
  | flag name => trivial

/-- The reference at the start of a line, and what follows it, stand in the line. -/
lemma citedFrom_of_leading? {line rest : Text} {r : Reference}
    (h : leading? line = some (r, rest)) : r.CitedFrom line ∧ rest ⊆ line := by
  obtain ⟨⟨inside, after⟩, hbracketed, h⟩ := Option.bind_eq_some_iff.mp h
  obtain ⟨found, hfound, heq⟩ := Option.bind_eq_some_iff.mp h
  obtain ⟨rfl, rfl⟩ := Prod.mk.inj (Option.some.inj heq)
  obtain ⟨hinside, hafter⟩ := infix_of_bracketed? hbracketed
  exact ⟨(citedFrom_of_ofContent? hfound).mono hinside.subset, hafter.subset⟩

end Reference

namespace Sentence

variable {line : Text}

lemma dropStop_subset (t : Text) : dropStop t ⊆ t := by
  unfold dropStop
  split
  · exact List.Subset.refl t
  · split
    · exact List.Subset.trans (trimEnd_subset _) (List.dropLast_sublist t).subset
    · exact List.Subset.refl t

/-- The value behind an equals sign stands in the text. -/
lemma subset_of_equalsValue? {rest value : Text} (h : equalsValue? rest = some value) :
    value ⊆ rest := by
  unfold equalsValue? at h
  split at h
  next => cases h
  next c body htrim =>
    dsimp only at h
    split at h
    next =>
      obtain rfl := Option.some.inj h
      have hbody : body ⊆ rest := by
        refine List.Subset.trans (List.subset_cons_self c body) ?_
        rw [← htrim]
        exact trim_subset rest
      exact List.Subset.trans (dropStop_subset _) (List.Subset.trans (trimStart_subset _) hbody)
    next => cases h

/-- What a line assigns to a field is a number, or a value that stands in the text. -/
lemma citedFrom_of_numberValue? {rest : Text} {value : FieldValue}
    (h : numberValue? rest = some value) : value.CitedFrom rest := by
  unfold numberValue? at h
  split at h
  next found hfound =>
    unfold equalsNumber? at h
    split at h
    next =>
      obtain rfl := Option.some.inj h
      trivial
    next =>
      split at h
      next => cases h
      next =>
        obtain rfl := Option.some.inj h
        exact List.Subset.trans (trim_subset found) (subset_of_equalsValue? hfound)
  next =>
    split at h
    next =>
      split at h
      next =>
        obtain rfl := Option.some.inj h
        trivial
      next => cases h
    next => cases h

/-! One lemma for each rule that can lead to a reason. -/

lemma citedFrom_of_blankField? {s : Sentence} (h : blankField? line = some s) :
    s.CitedFrom line := by
  unfold blankField? at h
  split at h
  next entity label rest hleading =>
    split at h
    next =>
      obtain rfl := Option.some.inj h
      exact ⟨(Reference.citedFrom_of_leading? hleading).1, trivial⟩
    next => cases h
  next => cases h

lemma citedFrom_of_numberField? {s : Sentence} (h : numberField? line = some s) :
    s.CitedFrom line := by
  unfold numberField? at h
  split at h
  next entity label rest hleading =>
    obtain ⟨value, hvalue, rfl⟩ := Option.map_eq_some_iff.mp h
    obtain ⟨hreference, hrest⟩ := Reference.citedFrom_of_leading? hleading
    exact ⟨hreference, (citedFrom_of_numberValue? hvalue).mono hrest⟩
  next => cases h

lemma citedFrom_of_textField? {s : Sentence} (h : textField? line = some s) :
    s.CitedFrom line := by
  unfold textField? at h
  split at h
  next entity label rest hleading =>
    obtain ⟨value, -, h⟩ := Option.bind_eq_some_iff.mp h
    obtain ⟨t, -, heq⟩ := Option.bind_eq_some_iff.mp h
    obtain rfl := Option.some.inj heq
    exact ⟨(Reference.citedFrom_of_leading? hleading).1, trivial⟩
  next => cases h

lemma citedFrom_of_flagBit? {s : Sentence} (h : flagBit? line = some s) : s.CitedFrom line := by
  unfold flagBit? at h
  split at h
  next name rest hleading =>
    split at h
    next => cases h
    next =>
      split at h
      next =>
        obtain rfl := Option.some.inj h
        trivial
      next =>
        obtain rfl := Option.some.inj h
        exact List.Subset.trans (trim_subset rest) (Reference.citedFrom_of_leading? hleading).2
  next => cases h

lemma citedFrom_of_variableValue? {s : Sentence} (h : variableValue? line = some s) :
    s.CitedFrom line := by
  unfold variableValue? at h
  split at h
  next category name rest hleading =>
    split at h
    next => cases h
    next =>
      split at h
      next =>
        obtain rfl := Option.some.inj h
        trivial
      next =>
        obtain rfl := Option.some.inj h
        exact List.Subset.trans (trim_subset rest) (Reference.citedFrom_of_leading? hleading).2
  next => cases h

/-- The two references of a copy stand in the line: the source is looked for behind the target. -/
lemma citedFrom_of_copy? {c : Copy} (h : copy? line = some c) :
    c.target.CitedFrom line ∧ c.source.CitedFrom line := by
  obtain ⟨⟨target, t⟩, htarget, h⟩ := Option.bind_eq_some_iff.mp h
  obtain ⟨behind, hbehind, h⟩ := Option.bind_eq_some_iff.mp h
  obtain ⟨⟨source, t'⟩, hsource, h⟩ := Option.bind_eq_some_iff.mp h
  obtain ⟨verb, -, h⟩ := Option.bind_eq_some_iff.mp h
  obtain ⟨htargetLine, ht⟩ := Reference.infix_of_bracketed? htarget
  have hsourceLine : source ⊆ line := by
    have hmark : behind ⊆ trimStart t := by
      rw [(after?_eq_some_iff _ _ _).mp hbehind]
      exact List.subset_append_right _ _
    calc source ⊆ trimStart behind := (Reference.infix_of_bracketed? hsource).1.subset
      _ ⊆ behind := trimStart_subset behind
      _ ⊆ trimStart t := hmark
      _ ⊆ t := trimStart_subset t
      _ ⊆ line := ht.subset
  dsimp only at h
  split at h
  next =>
    obtain ⟨r, hr, h⟩ := Option.bind_eq_some_iff.mp h
    obtain ⟨r', hr', heq⟩ := Option.bind_eq_some_iff.mp h
    obtain rfl := Option.some.inj heq
    exact ⟨(Reference.citedFrom_of_ofContent? hr).mono htargetLine.subset,
      (Reference.citedFrom_of_ofContent? hr').mono hsourceLine⟩
  next => cases h

/-- **All rules take the texts of a sentence from the line.** -/
lemma citedFrom_of_recognize {name : Text} {s : Sentence} (h : recognize line = some (name, s)) :
    s.CitedFrom line := by
  obtain ⟨rule, hmem, hrule⟩ := List.exists_of_findSome?_eq_some h
  obtain ⟨found, hfound, heq⟩ := Option.map_eq_some_iff.mp hrule
  obtain rfl : found = s := (Prod.mk.inj heq).2
  simp only [rules, List.mem_cons, List.not_mem_nil, or_false] at hmem
  rcases hmem with rfl | rfl | rfl | rfl | rfl | rfl | rfl | rfl
  · obtain ⟨rest, -, rfl⟩ := Option.map_eq_some_iff.mp hfound
    trivial
  · simp only [continuation?] at hfound
    split at hfound
    next =>
      obtain rfl := Option.some.inj hfound
      trivial
    next =>
      obtain ⟨rest, -, rfl⟩ := Option.map_eq_some_iff.mp hfound
      trivial
  · exact citedFrom_of_blankField? hfound
  · exact citedFrom_of_numberField? hfound
  · exact citedFrom_of_flagBit? hfound
  · exact citedFrom_of_variableValue? hfound
  · obtain ⟨c, hc, rfl⟩ := Option.map_eq_some_iff.mp hfound
    exact citedFrom_of_copy? hc
  · exact citedFrom_of_textField? hfound

end Sentence

/-! ### What the clause of a line quotes -/

/-- The reason of a clause quotes the line, if the clause has one. -/
def Clause.Cites (line : Text) : Clause → Prop
  | .statement (.todo _ reason) => reason.CitedFrom line
  | _ => True

/-- The references of a sentence, and its value of no supported form, are taken from the line. -/
lemma Sentence.CitedFrom.parts {line : Text} {s : Sentence} (h : s.CitedFrom line) :
    (∀ r ∈ s.references, r.CitedFrom line) ∧
      ∀ value, s.unsupported? = some value → value ⊆ line := by
  rcases s with part | ⟨connective, part⟩ | ⟨entity, label, value⟩ | ⟨name, value⟩ |
    ⟨name, value⟩ | value | c
  · exact ⟨by simp [references], by simp [unsupported?]⟩
  · exact ⟨by simp [references], by simp [unsupported?]⟩
  · refine ⟨fun r hr => ?_, fun other hother => ?_⟩
    · obtain rfl := List.mem_singleton.mp hr
      exact h.1
    · cases value with
      | unsupported value =>
        obtain rfl := Option.some.inj hother
        exact h.2
      | blank => cases hother
      | number digits => cases hother
      | text t => cases hother
  · exact ⟨by simp [references], by simp [unsupported?]⟩
  · exact ⟨by simp [references], by simp [unsupported?]⟩
  · refine ⟨by simp [references], fun other hother => ?_⟩
    obtain rfl := Option.some.inj hother
    exact h
  · refine ⟨fun r hr => ?_, by simp [unsupported?]⟩
    rcases List.mem_pair.mp hr with rfl | rfl
    · exact h.1
    · exact h.2

/-- **The reason why a line is left to do quotes nothing but the line.** -/
lemma cites_classify (tree : FileTree) (helpers : Helpers) (line : Text) (l : Lexicon) :
    (classify tree helpers line l).1.Cites line := by
  unfold classify
  rcases hfound : recognize line with _ | ⟨name, s⟩
  · trivial
  · obtain ⟨hreferences, hvalue⟩ := (Sentence.citedFrom_of_recognize hfound).parts
    have houtcome := s.outcome_clause tree helpers line l
    dsimp only
    generalize (s.clause tree helpers line l).1 = made at houtcome
    cases houtcome with
    | opening _ => trivial
    | continuation _ => trivial
    | @made st h =>
      cases st with
      | todo kept reason => cases h
      | setField setter value label => trivial
      | setVariable name value => trivial
      | setFlag name value => trivial
    | unsupported h => exact hvalue _ h
    | missed href _ herror =>
      obtain ⟨hid, hlabel⟩ := hreferences _ href
      rcases Lexicon.error_of_field herror with ⟨rfl, -⟩ | rfl
      · exact hid
      · exact ⟨hid, hlabel⟩

/-! ### Notes -/

/-- The code of a line left to do: the normal form of the line behind a mark, and the reason in
square brackets unless it is that the line has no known form. -/
def noteCode (normal : Text) (reason : Obstacle) : Text :=
  let cited : Text := if reason.isUnrecognized then [] else " [" ++ reason.message ++ "]"
  "//TODO: " ++ normal ++ cited

/-- A statement that leaves a raw line to do by hand: it keeps the whole line in normal form, and
its code is one comment, in which no line ends. -/
def Statement.Noted (raw : Text) (s : Statement) : Prop :=
  ∃ normal reason, Line.normalize raw = some normal ∧ s = .todo normal reason ∧
    ∀ fieldComments, s.code fieldComments = noteCode normal reason ∧
      Unbroken (s.code fieldComments)

/-- Of some statements, all that leave something to do leave the raw line to do. -/
def NotesOf (raw : Text) (made : List Statement) : Prop :=
  ∀ s ∈ made, s.isTodo = true → s.Noted raw

/-- A unit whose code is the note of the line with its number. -/
def CodeUnit.Notes (lines : List Text) (fieldComments : Bool) (u : CodeUnit) : Prop :=
  ∃ raw, ∃ s : Statement, lines[u.line - 1]? = some raw ∧ s.Noted raw ∧
    u.code = s.code fieldComments

lemma todoCode_eq_noteCode (kept : Text) (reason : Obstacle) :
    todoCode kept reason = noteCode kept reason := by
  unfold todoCode noteCode
  cases reason.isUnrecognized <;> simp

/-- A statement that keeps a normal form, with a reason that quotes from it, is a note. -/
lemma Statement.noted_todo {raw normal : Text} (hnormal : Line.normalize raw = some normal)
    {reason : Obstacle} (hreason : reason.CitedFrom normal) :
    (Statement.todo normal reason).Noted raw := by
  refine ⟨normal, reason, hnormal, rfl, fun fieldComments => ⟨todoCode_eq_noteCode _ _, ?_⟩⟩
  have hline := Line.unbroken_normalize hnormal
  have hmark : Unbroken ("//TODO: " : Text) := by decide
  show Unbroken (todoCode normal reason)
  unfold todoCode
  split
  next => exact hmark.append hline
  next hknown =>
    have hopen : Unbroken (" [" : Text) := by decide
    have hclose : Unbroken ("]" : Text) := by decide
    have hmessage := Obstacle.unbroken_message hline hreason (Bool.eq_false_iff.mpr hknown)
    exact (((hmark.append hline).append hopen).append hmessage).append hclose

/-! ### The statements of an assembly -/

/-- The statements of a piece. -/
def Piece.statements : Piece → List Statement
  | .block b => b.statements
  | .alone _ s => [s]

/-- The statements that can be made of a line: its own, or one that keeps the line because it has no
known form. -/
def SheetLine.Makes (line : SheetLine) (s : Statement) : Prop :=
  line.clause = .statement s ∨ ∃ reason, s = .todo line.text (.unrecognized reason)

/-- The statement of a line that stands alone is made of the line. -/
lemma makes_of_alone? {policy : Policy} {line : SheetLine} (hkeeps : line.clause.Keeps line.text)
    {number : Nat} {s : Statement}
    (h : Segmentation.alone? policy line = some (.alone number s)) : line.Makes s := by
  obtain ⟨number', indented, text, clause⟩ := line
  cases clause with
  | opening part => cases h
  | continuation connective part =>
    obtain ⟨-, rfl⟩ := Piece.alone.inj (Option.some.inj h)
    exact Or.inr ⟨_, rfl⟩
  | statement st =>
    obtain ⟨-, rfl⟩ := Piece.alone.inj (Option.some.inj h)
    exact Or.inl rfl
  | unrecognized other =>
    obtain rfl : other = text := hkeeps
    cases policy with
    | skip => cases h
    | todo =>
      obtain ⟨-, rfl⟩ := Piece.alone.inj (Option.some.inj h)
      exact Or.inr ⟨_, rfl⟩

/-- The statement of a line in line mode is made of the line. -/
lemma makes_of_lineStatement? {policy : Policy} {line : SheetLine} {s : Statement}
    (h : Converter.lineStatement? policy line = some s) : line.Makes s := by
  unfold Converter.lineStatement? at h
  split at h
  next st hclause =>
    obtain rfl := Option.some.inj h
    exact Or.inl hclause
  next =>
    split at h
    next =>
      obtain rfl := Option.some.inj h
      exact Or.inr ⟨_, rfl⟩
    next => cases h

namespace Assembly

/-- The statements of an assembly, those of the open block last. -/
def statements (a : Assembly) : List Statement :=
  a.pieces.flatMap Piece.statements ++ a.current.toList.flatMap Block.statements

/-- Closing the open block moves its statements to the pieces. -/
lemma flatMap_close (a : Assembly) : a.close.pieces.flatMap Piece.statements = a.statements := by
  obtain ⟨_ | b, pieces, skipped⟩ := a
  · simp [close, statements]
  · simp [close, statements, Piece.statements]

lemma statements_close (a : Assembly) : a.close.statements = a.statements := by
  obtain ⟨_ | b, pieces, skipped⟩ := a
  · rfl
  · simp [close, statements, Piece.statements]

lemma current_close (a : Assembly) : a.close.current = none := by
  obtain ⟨_ | b, pieces, skipped⟩ := a <;> rfl

/-- A statement that stands alone is added to the statements, if no block is open. -/
lemma statements_emit {a : Assembly} (h : a.current = none) (line : Nat) (s : Statement) :
    (a.emit line s).statements = a.statements ++ [s] := by
  simp [emit, statements, Piece.statements, h]

/-- A statement that joins the open block is added to the statements, unless it repeats one. -/
lemma exists_statements_add {a : Assembly} {b : Block} (h : a.current = some b) (s : Statement) :
    ∃ made, ({ a with current := some (b.add s) } : Assembly).statements = a.statements ++ made ∧
      ∀ t ∈ made, t = s := by
  unfold Block.add
  split
  · refine ⟨[], ?_, by simp⟩
    simp [statements, h]
  · refine ⟨[s], ?_, by simp⟩
    simp [statements, h]

/-- The open block that a line joins is the current one. -/
lemma current_of_accepting {scope : BlockScope} {a : Assembly} {indented : Bool} {b : Block}
    (h : a.accepting scope indented = some b) : a.current = some b := by
  unfold accepting at h
  split at h
  · exact h
  · cases h

/-- **One more line adds to an assembly at most what can be made of the line.** -/
lemma exists_statements_step (scope : BlockScope) (policy : Policy) (a : Assembly)
    (read : Option SheetLine) (hkeeps : ∀ line ∈ read, line.clause.Keeps line.text) :
    ∃ made, (a.step scope policy read).statements = a.statements ++ made ∧
      ∀ s ∈ made, ∃ line ∈ read, line.Makes s := by
  cases read with
  | none =>
    refine ⟨[], ?_, by simp⟩
    rw [List.append_nil]
    cases scope with
    | indented => exact statements_close a
    | untilNextCondition => rfl
  | some line =>
    have hline := hkeeps line rfl
    show ∃ made, (a.push scope policy line).statements = _ ∧ _
    unfold push
    split
    next part hclause =>
      refine ⟨[], ?_, by simp⟩
      simp [statements, flatMap_close, Block.start]
    next connective part hclause =>
      split
      next b hb =>
        refine ⟨[], ?_, by simp⟩
        simp [statements, hb, Block.extend]
      next hnone =>
        exact ⟨[orphan line.text], statements_emit hnone _ _, fun s hs =>
          ⟨line, rfl, Or.inr ⟨_, List.mem_singleton.mp hs⟩⟩⟩
    next st hclause =>
      split
      next b hb =>
        obtain ⟨made, hmade, hall⟩ := exists_statements_add (current_of_accepting hb) st
        exact ⟨made, hmade, fun s hs => ⟨line, rfl, Or.inl (hall s hs ▸ hclause)⟩⟩
      next =>
        refine ⟨[st], ?_, fun s hs => ⟨line, rfl, Or.inl (List.mem_singleton.mp hs ▸ hclause)⟩⟩
        rw [statements_emit a.current_close, statements_close]
    next text hclause =>
      -- a line that is not recognised has itself as its text
      rw [hclause] at hline
      obtain rfl : text = line.text := hline
      split
      next b hb =>
        obtain ⟨made, hmade, hall⟩ :=
          exists_statements_add (current_of_accepting hb) (unrecognized line.text)
        exact ⟨made, hmade, fun s hs => ⟨line, rfl, Or.inr ⟨_, hall s hs⟩⟩⟩
      next =>
        cases policy with
        | todo =>
          refine ⟨[unrecognized line.text], ?_, fun s hs =>
            ⟨line, rfl, Or.inr ⟨_, List.mem_singleton.mp hs⟩⟩⟩
          rw [statements_emit a.current_close, statements_close]
        | skip =>
          refine ⟨[], ?_, by simp⟩
          rw [List.append_nil]
          exact statements_close a

end Assembly

/-- The pieces of lines with ascending numbers, in the order in which they are finished. -/
lemma Assembly.ofLines_eq_close (scope : BlockScope) (policy : Policy)
    {lines : List (Option SheetLine)}
    (ascending : (lines.filterMap id).Pairwise fun a b => a.number < b.number) :
    (ofLines scope policy lines).1 = (lines.foldl (step scope policy) start).close.pieces := by
  have hrun := Segmentation.outcome_foldl scope policy lines .start
  rw [Segmentation.outcome_nil, Segmentation.outcome_start, Prod.mk.injEq] at hrun
  have hsorted := Segmentation.pieces_sorted scope policy lines ascending
  rw [← hrun.1] at hsorted
  exact List.mergeSort_of_pairwise (hsorted.imp fun h => decide_eq_true (Nat.le_of_lt h))

/-! ### The statements of a sheet -/

namespace Converter

variable (tree : FileTree)

/-- **A line that was read makes notes of the raw line only.** -/
lemma noted_of_makes {helpers : Helpers} {number : Nat} {raw : Text} {l : Lexicon}
    {line : SheetLine} (hread : line ∈ (readLine tree helpers number raw l).1) {s : Statement}
    (hs : line.Makes s) (htodo : s.isTodo = true) : s.Noted raw := by
  unfold readLine at hread
  cases hnormal : Line.normalize raw with
  | none =>
    rw [hnormal] at hread
    cases hread
  | some normal =>
    rw [hnormal] at hread
    obtain rfl := Option.some.inj hread
    rcases hs with hclause | ⟨reason, rfl⟩
    · have hkeeps := keeps_classify tree helpers normal l
      have hcites := cites_classify tree helpers normal l
      rw [show (classify tree helpers normal l).1 = .statement s from hclause] at hkeeps hcites
      cases s with
      | todo kept reason =>
        obtain rfl : kept = normal := hkeeps kept rfl
        exact Statement.noted_todo hnormal hcites
      | setField setter value label => cases htodo
      | setVariable name value => cases htodo
      | setFlag name value => cases htodo
    · exact Statement.noted_todo hnormal trivial

/-- A line that was read keeps at most its text. -/
lemma keeps_readLine (helpers : Helpers) (number : Nat) (raw : Text) (l : Lexicon) :
    ∀ line ∈ (readLine tree helpers number raw l).1, line.clause.Keeps line.text := by
  unfold readLine
  cases Line.normalize raw with
  | none => simp
  | some text =>
    intro line hline
    obtain rfl := Option.some.inj hline
    exact keeps_classify tree helpers text l

/-- **The statements of a sheet, line by line**, on top of those of an assembly.

**Proof sketch.** Induction on the lines, with one step of the assembler for the first of them. -/
lemma exists_statements_foldl (helpers : Helpers) (scope : BlockScope) (policy : Policy)
    (lines : List Text) : ∀ (number : Nat) (l : Lexicon) (a : Assembly),
    ∃ made, List.Forall₂ NotesOf lines made ∧
      ((readLines tree helpers number lines l).1.foldl (Assembly.step scope policy) a).statements =
        a.statements ++ made.flatten := by
  induction lines with
  | nil =>
    intro number l a
    exact ⟨[], .nil, by simp [readLines]⟩
  | cons raw rest ih =>
    intro number l a
    obtain ⟨first, hfirst, hmakes⟩ := Assembly.exists_statements_step scope policy a
      (readLine tree helpers number raw l).1 (keeps_readLine tree helpers number raw l)
    obtain ⟨made, hnotes, hrest⟩ := ih (number + 1) (readLine tree helpers number raw l).2
      (a.step scope policy (readLine tree helpers number raw l).1)
    refine ⟨first :: made, .cons (fun s hs htodo => ?_) hnotes, ?_⟩
    · obtain ⟨line, hline, hmade⟩ := hmakes s hs
      exact noted_of_makes tree hline hmade htodo
    · rw [readLines_cons, List.foldl_cons, hrest, hfirst, List.flatten_cons, List.append_assoc]

/-- A note among the statements of a sheet is one of its lines. -/
lemma exists_noted {lines : List Text} {made : List (List Statement)}
    (h : List.Forall₂ NotesOf lines made) {s : Statement} (hs : s ∈ made.flatten)
    (htodo : s.isTodo = true) : ∃ raw ∈ lines, s.Noted raw := by
  induction h with
  | nil => cases hs
  | cons hfirst _ ih =>
    rw [List.flatten_cons] at hs
    rcases List.mem_append.mp hs with hs | hs
    · exact ⟨_, List.mem_cons_self, hfirst s hs htodo⟩
    · obtain ⟨raw, hraw, hnoted⟩ := ih hs
      exact ⟨raw, List.mem_cons_of_mem _ hraw, hnoted⟩

/-- What is made of a line that was read notes the raw line with its number. -/
lemma noted_of_read {helpers : Helpers} {lines : List Text} {l : Lexicon} {i : Nat}
    {line : SheetLine} (h : (readLines tree helpers 1 lines l).1[i]? = some (some line))
    {s : Statement} (hs : line.Makes s) (htodo : s.isTodo = true) :
    ∃ raw, lines[line.number - 1]? = some raw ∧ s.Noted raw := by
  obtain ⟨raw, l', hraw, hline⟩ := exists_of_getElem?_readLines h
  refine ⟨raw, ?_, noted_of_makes tree hline.symm hs htodo⟩
  rw [(atNumber?_of_read h).1, Nat.add_sub_cancel, hraw]

/-- **A unit left to do in block mode** is the note of the line with its number. -/
lemma noted_of_mem_convertBlocks {c : Converter} {lines : List Text} {u : CodeUnit}
    (hu : u ∈ (c.convertBlocks tree lines).1.units) (hkind : u.kind = .todo) :
    u.Notes lines c.options.fieldComments := by
  obtain ⟨p, l, hstaged, rfl⟩ := exists_staged hu
  obtain ⟨i, line, hread, enclosed, hpiece⟩ := mem_assembled (mem_assembled_of_staged hstaged)
  rcases Segmentation.piece?_eq_some hpiece with ⟨part, -, rfl⟩ | ⟨-, s, rfl, halone⟩
  · cases hkind
  · have htodo : s.isTodo = true := by
      by_contra hnot
      simp [writePiece, writeStatement, hnot] at hkind
    obtain ⟨raw, hraw, hnoted⟩ :=
      noted_of_read tree hread (makes_of_alone? (keeps_read hread) halone) htodo
    exact ⟨raw, s, hraw, hnoted, rfl⟩

/-- **A unit left to do in line mode** is the note of the line with its number. -/
lemma noted_of_mem_convertLines {c : Converter} {lines : List Text} {u : CodeUnit}
    (hu : u ∈ (c.convertLines tree lines).1.units) (hkind : u.kind = .todo) :
    u.Notes lines c.options.fieldComments := by
  rw [units_convertLines_eq] at hu
  obtain ⟨w, hw, rfl⟩ := List.mem_map.mp hu
  obtain ⟨⟨number, s⟩, hentry, rfl⟩ := List.mem_map.mp hw
  obtain ⟨read, hread, hown⟩ := List.mem_filterMap.mp hentry
  obtain ⟨i, hi⟩ := List.mem_iff_getElem?.mp hread
  obtain ⟨line, rfl, hstatement⟩ := Option.bind_eq_some_iff.mp hown
  obtain ⟨s', hs', heq⟩ := Option.map_eq_some_iff.mp hstatement
  obtain ⟨rfl, rfl⟩ := Prod.mk.inj heq
  have htodo : s'.isTodo = true := by
    by_contra hnot
    simp [writeStatement, hnot] at hkind
  obtain ⟨raw, hraw, hnoted⟩ := noted_of_read tree hi (makes_of_lineStatement? hs') htodo
  exact ⟨raw, s', hraw, hnoted, rfl⟩

/-- A statement on one line has a line of its own in the code of its block. -/
lemma infix_block_code (fieldComments : Bool) {b : Block} {s : Statement} (hs : s ∈ b.statements)
    (hline : Unbroken (s.code fieldComments)) (l : Lexicon) :
    indentedLine (s.code fieldComments) <:+: (b.code tree fieldComments l).1 := by
  have hone : (lines (s.code fieldComments)).flatMap indentedLine =
      indentedLine (s.code fieldComments) := by
    rw [lines_of_not_mem hline.newline_not_mem (code_ne_nil fieldComments s),
      List.flatMap_singleton]
  obtain ⟨before, after, hsplit⟩ := List.append_of_mem hs
  have hbody : indentedLine (s.code fieldComments) <:+:
      b.statements.flatMap fun s => (lines (s.code fieldComments)).flatMap indentedLine := by
    rw [hsplit, List.flatMap_append, List.flatMap_cons, hone, ← List.append_assoc]
    exact List.infix_append _ _ _
  obtain ⟨pre, post, hpre⟩ := hbody
  refine ⟨(b.condition.code tree l).1 ++ (" \x7b\n" : Text) ++ pre, post ++ ("\x7d" : Text), ?_⟩
  show _ = (b.condition.code tree l).1 ++ (" \x7b\n" : Text) ++ _ ++ ("\x7d" : Text)
  rw [← hpre]
  simp only [List.append_assoc]

/-- **Every line left to do is kept whole, in a comment that it cannot leave.**

A unit that is left to do is the note of the line with its number, in both modes: the mark, the
normal form of the line, and the reason in brackets unless the line has no known form; no line ends
in it.  In block mode the statements of all pieces are made by the lines of the sheet, one line
after the other, and those that leave something to do are notes of the very line that made them;
those in a block stand on a line of their own in its code.  A line that is converted by itself has
the code of such statements. -/
theorem todos_noted (c : Converter) (lines : List Text) :
    (∀ u ∈ (c.convertBlocks tree lines).1.units ++ (c.convertLines tree lines).1.units,
      u.kind = .todo → u.Notes lines c.options.fieldComments) ∧
    (∃ made, List.Forall₂ NotesOf lines made ∧
      (Assembly.ofLines c.options.scope c.options.policy
        (readLines tree c.options.helpers 1 lines c.lexicon).1).1.flatMap Piece.statements =
          made.flatten) ∧
    (∀ b, .block b ∈ (Assembly.ofLines c.options.scope c.options.policy
        (readLines tree c.options.helpers 1 lines c.lexicon).1).1 →
      ∀ s ∈ b.statements, s.isTodo = true → ∀ l : Lexicon,
        indentedLine (s.code c.options.fieldComments) <:+:
          (b.code tree c.options.fieldComments l).1) ∧
    ∀ raw, ∃ made, NotesOf raw made ∧
      (c.convertLine tree raw).1.toList = made.map fun s => s.code c.options.fieldComments := by
  obtain ⟨made, hnotes, hmade⟩ := exists_statements_foldl tree c.options.helpers c.options.scope
    c.options.policy lines 1 c.lexicon .start
  have hpieces : (Assembly.ofLines c.options.scope c.options.policy
      (readLines tree c.options.helpers 1 lines c.lexicon).1).1.flatMap Piece.statements =
        made.flatten := by
    have hascending := readLines_ascending tree c.options.helpers lines 1 c.lexicon
    rw [Assembly.ofLines_eq_close _ _ hascending, Assembly.flatMap_close, hmade]
    rfl
  refine ⟨fun u hu hkind => ?_, ⟨made, hnotes, hpieces⟩, fun b hb s hs htodo l => ?_,
    fun raw => ?_⟩
  · rcases List.mem_append.mp hu with hu | hu
    · exact noted_of_mem_convertBlocks tree hu hkind
    · exact noted_of_mem_convertLines tree hu hkind
  · have hmem : s ∈ made.flatten := by
      rw [← hpieces]
      exact List.mem_flatMap.mpr ⟨_, hb, hs⟩
    obtain ⟨raw, -, normal, reason, -, -, hcode⟩ := exists_noted hnotes hmem htodo
    exact infix_block_code tree c.options.fieldComments hs (hcode _).2 l
  · refine ⟨((readLine tree c.options.helpers 1 raw c.lexicon).1.bind
      (lineStatement? c.options.policy)).toList, fun s hs htodo => ?_, ?_⟩
    · obtain ⟨line, hline, hs⟩ := Option.bind_eq_some_iff.mp (Option.mem_toList.mp hs)
      exact noted_of_makes tree hline (makes_of_lineStatement? hs) htodo
    · show ((readLine tree c.options.helpers 1 raw c.lexicon).1.bind fun line =>
        (lineStatement? c.options.policy line).map _).toList = _
      cases (readLine tree c.options.helpers 1 raw c.lexicon).1 with
      | none => rfl
      | some line => cases h : lineStatement? c.options.policy line <;> simp [h]

end Converter

end RuleSheet
