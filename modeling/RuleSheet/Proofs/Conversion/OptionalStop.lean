import RuleSheet.Proofs.Conversion.LineMode
import RuleSheet.Proofs.Line.Places
import RuleSheet.Proofs.Sentence.FullStop

/-!
# Lines with and without a full stop

A line can be written with a full stop at its end or without it.  Two stages look at the end of a
line: its normal form is without the quotes there, and the rules take a stop or leave it.  So the
stop keeps the quotes before it from being dropped.  A line comes to the same statement without its
stop, unless these quotes close a quoted text that it assigns.

## Main definitions

* `RuleSheet.Converter.statement?` — the statement that a line comes to on its own.
* `RuleSheet.Converter.EndsInLiteral` — a line without its stop ends with the text that it assigns.

## Main results

* `RuleSheet.Line.normalize_append_stop` — the normal form of a line with a stop.
* `RuleSheet.Sentence.clause_of_made` — a statement does not depend on the text of its line.
* `RuleSheet.Converter.convertLine_append_stop_iff` — which lines come to the same without their
  stop.
-/

set_option autoImplicit false

namespace RuleSheet

open Text

namespace Line

/-! ### Normal forms -/

/-- The letters of a text behind one that does not end with a blank. -/
lemma letters_append {front : Text} {c : Char} (hc : isBlank c = false) (w : Text) (apart : Bool) :
    letters apart (front ++ [c] ++ w) = letters apart (front ++ [c]) ++ letters false w := by
  induction front generalizing apart with
  | nil => simp [letters, hc]
  | cons d front ih =>
    simp only [List.cons_append, letters]
    split
    · exact ih true
    · rw [ih false, List.cons_append]

/-- The last letter of a text that does not end with a blank. -/
lemma exists_letters_concat {c : Char} (hc : isBlank c = false) (t : Text) (apart : Bool) :
    ∃ b, letters apart (t ++ [c]) = letters apart t ++ [⟨b, c⟩] := by
  induction t generalizing apart with
  | nil => exact ⟨apart, letters_solid hc apart []⟩
  | cons d t ih =>
    simp only [List.cons_append, letters]
    split
    · exact ih true
    · obtain ⟨b, hb⟩ := ih false
      exact ⟨b, by rw [hb, List.cons_append]⟩

/-- Trailing characters are no brackets, so they do not change which places lie inside matched
ones. -/
lemma enclosed_append {u : Text} (hu : ∀ c ∈ u, Sentence.isTrailing c = true) (corners parens : Nat)
    (t : Text) : enclosed corners parens (t ++ u) = enclosed corners parens t := by
  have hne : ∀ {d : Char}, Sentence.isTrailing d = false → ∀ c ∈ u, c ≠ d := by
    rintro d hd c hc rfl
    rw [hu c hc] at hd
    cases hd
  have hcorner : Bracket.corner.closes (t ++ u) = Bracket.corner.closes t :=
    closes_append (fun c hc => ⟨hne (by decide) c hc, hne (by decide) c hc⟩) t
  have hparen : Bracket.paren.closes (t ++ u) = Bracket.paren.closes t :=
    closes_append (fun c hc => ⟨hne (by decide) c hc, hne (by decide) c hc⟩) t
  simp only [enclosed, Bracket.encloses, hcorner, hparen]

section Tighten

variable {ws : List Letter} (hws : ∀ l ∈ ws, Sentence.isTrailing l.char = true)

include hws

/-- Trailing letters keep the blanks before them. -/
lemma tighten_trailing (corners parens : Nat) : tighten corners parens ws = ws := by
  induction ws generalizing corners parens with
  | nil => rfl
  | cons l ws ih =>
    have hchars : ∀ c ∈ (l :: ws).map Letter.char, Sentence.isTrailing c = true := by
      intro c hc
      obtain ⟨k, hk, rfl⟩ := List.mem_map.mp hc
      exact hws k hk
    have hopen : enclosed corners parens ((l :: ws).map Letter.char) = false := by
      rw [← List.nil_append ((l :: ws).map Letter.char), enclosed_append hchars]
      simp [enclosed, Bracket.encloses, Bracket.closes]
    rw [tighten, hopen, ih fun k hk => hws k (List.mem_cons_of_mem l hk)]
    simp

/-- Trailing letters change nothing before them. -/
lemma tighten_append (ls : List Letter) :
    ∀ corners parens, tighten corners parens (ls ++ ws) = tighten corners parens ls ++ ws := by
  have hchars : ∀ c ∈ ws.map Letter.char, Sentence.isTrailing c = true := by
    intro c hc
    obtain ⟨k, hk, rfl⟩ := List.mem_map.mp hc
    exact hws k hk
  induction ls with
  | nil => exact tighten_trailing hws
  | cons l ls ih =>
    intro corners parens
    have hsame := enclosed_append hchars corners parens ((l :: ls).map Letter.char)
    rw [← List.map_append, List.cons_append] at hsame
    rw [List.cons_append, tighten, tighten, ih, List.cons_append, hsame]

end Tighten

/-- Letters are spelled one after the other. -/
lemma spell_append {ls : List Letter} (hne : ls ≠ []) (ws : List Letter) :
    spell (ls ++ ws) = spell ls ++ ws.flatMap Letter.spaced := by
  obtain ⟨l, ls, rfl⟩ := List.exists_cons_of_ne_nil hne
  simp [spell]

/-- A character other than the space is spelled if it is that of a letter. -/
lemma mem_flatMap_spaced_iff {c : Char} (hc : c ≠ ' ') (ls : List Letter) :
    c ∈ ls.flatMap Letter.spaced ↔ c ∈ ls.map Letter.char := by
  have hone : ∀ l : Letter, c ∈ l.spaced ↔ l.char = c := by
    intro l
    unfold Letter.spaced
    split <;> simp [hc, eq_comm]
  simp only [List.mem_flatMap, List.mem_map, hone]

/-- What is spelled ends with the character of the last letter. -/
lemma getLast?_spell (ls : List Letter) : (spell ls).getLast? = (ls.map Letter.char).getLast? := by
  rcases List.eq_nil_or_concat' ls with rfl | ⟨front, l, rfl⟩
  · rfl
  · rw [List.map_append, List.map_singleton, List.getLast?_concat]
    cases front with
    | nil => rfl
    | cons k front =>
      obtain ⟨before, hspaced⟩ := l.exists_spaced
      rw [spell_append (by simp), List.flatMap_singleton, hspaced, ← List.append_assoc,
        List.getLast?_concat]

/-- The last character of a raw line that is no blank: a quote around it, or the last one of the
line. -/
lemma getLast?_trim_surround {body u : Text} (s : Text) (hbody : Bare isWrapping body)
    (hu : ∀ c ∈ u, isWrapping c = true) :
    ('"' ∈ u ↔ (trim (s ++ body ++ u)).getLast? = some '"') ∧
      ('"' ∉ u → (trim (s ++ body ++ u)).getLast? = body.getLast?) := by
  by_cases hquote : '"' ∈ u
  · obtain ⟨front, back, rfl, hback⟩ := exists_last hquote
    have hsplit :
        s ++ body ++ (front ++ '"' :: back) = s ++ body ++ front ++ ['"'] ++ back := by simp
    have hlast : (trim (s ++ body ++ (front ++ '"' :: back))).getLast? = some '"' := by
      have hblank := Sentence.forall_isBlank (fun c hc => hu c (by simp [hc])) hback
      rw [hsplit, trim, trimBy_append hblank]
      exact getLast?_trimBy_concat (by decide) _
    exact ⟨iff_of_true hquote hlast, fun hnot => absurd hquote hnot⟩
  · obtain ⟨front, c, rfl, hc⟩ := hbody.last
    have hlast : (trim (s ++ (front ++ [c]) ++ u)).getLast? = some c := by
      rw [trim, trimBy_append (Sentence.forall_isBlank hu hquote), ← List.append_assoc]
      exact getLast?_trimBy_concat (not_isBlank_of_not_isWrapping hc) _
    have hne : c ≠ '"' := by
      rintro rfl
      cases hc
    rw [hlast, List.getLast?_concat]
    exact ⟨iff_of_false hquote (by simpa using hne), fun _ => rfl⟩

/-- **The normal form of a line with a stop** is the one without it, the quotes behind that, and the
stop. -/
lemma normalize_append_stop {raw line : Text} (h : normalize raw = some line) :
    ∃ u, normalize (raw ++ ['。']) = some u ∧
      Sentence.Trailed ((trim raw).getLast? = some '"') line line u ∧
      (∀ c, line.getLast? = some c → isWrapping c = false) ∧
      ((trim raw).getLast? ≠ some '"' → line.getLast? = (trim raw).getLast?) := by
  have hstop : isBlank '。' = false := by decide
  rcases forall_or_surround isWrapping raw with hall | ⟨s, body, u, rfl, hs, hbody, hu⟩
  · rw [(normalize_eq_none_iff raw).mpr (by simpa [isWrapping] using hall)] at h
    cases h
  obtain ⟨hquote, hlast⟩ := getLast?_trim_surround s hbody hu
  obtain ⟨front, c, hend, hc⟩ := hbody.last
  -- both normal forms, in letters
  have hunquote : unquote (s ++ body ++ u) = body := trimBy_surround hs hbody hu
  have hunquote' : unquote (s ++ body ++ u ++ ['。']) = body ++ (u ++ ['。']) := by
    have hwhole : Bare isWrapping (body ++ u ++ ['。']) :=
      hbody.append (bare_singleton (by decide)) u
    have hsurround := trimBy_surround (u := []) hs hwhole (by simp)
    simpa [unquote] using hsurround
  obtain ⟨b, hb⟩ := exists_letters_concat hstop u false
  have hletters : letters false (body ++ (u ++ ['。'])) =
      letters false body ++ (letters false u ++ [⟨b, '。'⟩]) := by
    rw [← hb, hend]
    exact letters_append (not_isBlank_of_not_isWrapping hc) _ false
  have hmem : ∀ l ∈ letters false u, l.char ∈ u := by
    intro l hl
    have hchar := List.mem_map_of_mem (f := Letter.char) hl
    rw [map_char_letters] at hchar
    exact List.mem_of_mem_filter hchar
  have htrailing : ∀ l ∈ letters false u ++ [⟨b, '。'⟩], Sentence.isTrailing l.char = true := by
    intro l hl
    rcases List.mem_append.mp hl with hl | hl
    · simp [Sentence.isTrailing, hu _ (hmem l hl)]
    · rw [List.mem_singleton.mp hl]
      exact (by decide : Sentence.isTrailing '。' = true)
  have hnormal : normalLetters (s ++ body ++ u ++ ['。']) =
      normalLetters (s ++ body ++ u) ++ (letters false u ++ [⟨b, '。'⟩]) := by
    rw [normalLetters, normalLetters, hunquote, hunquote', hletters, tighten_append htrailing]
  obtain ⟨hne, rfl⟩ := (normalize_eq_some_iff _ line).mp h
  have hlineLast : (spell (normalLetters (s ++ body ++ u))).getLast? = some c := by
    rw [getLast?_spell, normalLetters, hunquote, map_char_tighten, map_char_letters, hend,
      List.filter_append, List.filter_singleton, not_isBlank_of_not_isWrapping hc]
    simp
  refine ⟨_, (normalize_eq_some_iff _ _).mpr ⟨?_, rfl⟩, ⟨List.suffix_rfl, ?_⟩, ?_, ?_⟩
  · rw [hnormal]
    exact List.append_ne_nil_of_left_ne_nil hne _
  · refine ⟨(letters false u).flatMap Letter.spaced ++ (if b then [' '] else []), ?_, ?_, ?_⟩
    · intro d hd
      by_cases hspace : d = ' '
      · rw [hspace]
        decide
      · rcases List.mem_append.mp hd with hd | hd
        · rw [mem_flatMap_spaced_iff hspace, map_char_letters] at hd
          exact hu d (List.mem_of_mem_filter hd)
        · cases b <;> simp [hspace] at hd
    · rw [← hquote, List.mem_append, mem_flatMap_spaced_iff (by decide), map_char_letters,
        List.mem_filter]
      have hsolid : isBlank '"' = false := by decide
      cases b <;> simp [hsolid]
    · rw [hnormal, spell_append hne]
      cases b <;> simp [Letter.spaced]
  · intro d hd
    rw [hlineLast] at hd
    rwa [← Option.some.inj hd]
  · intro hnot
    rw [hlast fun hmem => hnot (hquote.mp hmem), hlineLast, hend, List.getLast?_concat]

/-- Where there is no line, the stop is one. -/
lemma normalize_append_stop_of_none {raw : Text} (h : normalize raw = none) :
    normalize (raw ++ ['。']) = some ['。'] := by
  have hall : ∀ c ∈ raw, isWrapping c = true := by
    simpa [isWrapping] using (normalize_eq_none_iff raw).mp h
  have hunquote : unquote (raw ++ ['。']) = ['。'] := by
    simpa [unquote] using trimBy_surround (u := []) hall (bare_singleton (by decide)) (by simp)
  rw [normalize_eq_some_iff, normalLetters, hunquote]
  decide

end Line

/-! ### Statements -/

/-- The value that a statement assigns to a field or to a variable. -/
def Statement.value? : Statement → Option Text
  | .setField _ value _ => some value
  | .setVariable _ value => some value
  | _ => none

namespace Sentence

variable {tree : FileTree} {helpers : Helpers} {line : Text} {l : Lexicon} {s : Sentence}
  {st : Statement}

/-- A line that is left to do makes no other statement. -/
lemma not_todo {kept : Text} {reason : Obstacle} (h : Clause.todo kept reason = .statement st)
    (hst : st.isTodo = false) : False := by
  obtain rfl := Clause.statement.inj h
  cases hst

/-- A sentence that comes to a statement is no condition, and its value is of a supported form. -/
lemma supported_of_made (h : (s.clause tree helpers line l).1 = .statement st)
    (hst : st.isTodo = false) : s.isCondition = false ∧ s.unsupported? = none := by
  rcases s with _ | _ | ⟨entity, label, value⟩ | _ | _ | value | _
  · cases h
  · cases h
  · refine ⟨rfl, ?_⟩
    rcases value with _ | _ | _ | value <;> try rfl
    rw [clause] at h
    rcases hfield : l.field tree entity label with ⟨reason | target, after⟩ <;> rw [hfield] at h
    · exact (not_todo h hst).elim
    · exact (not_todo h hst).elim
  · exact ⟨rfl, rfl⟩
  · exact ⟨rfl, rfl⟩
  · exact (not_todo h hst).elim
  · exact ⟨rfl, rfl⟩

/-- A copy that was made does not depend on the text of its line. -/
lemma Copy.assigned_of_made {copy : Copy} {assign : Text → Clause}
    (h : (copy.assigned tree helpers line assign l).1 = .statement st) (hst : st.isTodo = false)
    (line' : Text) :
    copy.assigned tree helpers line' assign l = copy.assigned tree helpers line assign l := by
  unfold assigned at h ⊢
  rcases hsource : l.reference tree copy.source with ⟨reason | meaning, after⟩
  · rw [hsource] at h
    exact (not_todo h hst).elim
  · rfl

/-- A statement does not depend on the text of its line, nor does what was looked up for it. -/
lemma clause_of_made (h : (s.clause tree helpers line l).1 = .statement st)
    (hst : st.isTodo = false) (line' : Text) :
    s.clause tree helpers line' l = s.clause tree helpers line l := by
  rcases s with _ | _ | ⟨entity, label, value⟩ | _ | _ | value | copy
  · rfl
  · rfl
  · rw [clause] at h
    rw [clause, clause]
    rcases hfield : l.field tree entity label with ⟨reason | target, after⟩ <;> rw [hfield] at h
    · exact (not_todo h hst).elim
    · rcases value with _ | _ | _ | value
      · rfl
      · rfl
      · rfl
      · exact (not_todo h hst).elim
  · rfl
  · rfl
  · exact (not_todo h hst).elim
  · simp only [clause, Copy.clause] at h ⊢
    rcases hname : copy.target with ⟨entity, label⟩ | ⟨category, name⟩ | name <;>
      simp only [hname] at h ⊢
    · rcases hfield : l.field tree entity label with ⟨reason | target, after⟩ <;>
        simp only [hfield] at h ⊢
      · exact (not_todo h hst).elim
      · exact Copy.assigned_of_made h hst line'
    · exact Copy.assigned_of_made h hst line'
    · exact Copy.assigned_of_made h hst line'

/-- The value of a statement is the one that its sentence assigns. -/
lemma value?_of_assigns {value : Text} (hs : s.Assigns value)
    (h : (s.clause tree helpers line l).1 = .statement st) (hst : st.isTodo = false) :
    st.value? = some value := by
  cases hs with
  | field entity label t =>
    rw [clause] at h
    rcases hfield : l.field tree entity label with ⟨reason | target, after⟩ <;> rw [hfield] at h
    · exact (not_todo h hst).elim
    · obtain rfl := Clause.statement.inj h
      rfl
  | «variable» name value =>
    obtain rfl := Clause.statement.inj h
    rfl

end Sentence

namespace Converter

variable {tree : FileTree} {c : Converter} {raw line : Text} {s : Sentence} {st : Statement}

/-- The statement that a line comes to on its own. -/
def statement? (tree : FileTree) (c : Converter) (raw : Text) : Option Statement :=
  (readLine tree c.options.helpers 1 raw c.lexicon).1.bind (lineStatement? c.options.policy)

/-- A statement that leaves nothing to do was made by a sentence. -/
lemma exists_sentence (h : c.statement? tree raw = some st) (hst : st.isTodo = false) :
    ∃ line s, Line.normalize raw = some line ∧ sentence? line = some s ∧
      (s.clause tree c.options.helpers line c.lexicon).1 = .statement st := by
  obtain ⟨read, hread, h⟩ := Option.bind_eq_some_iff.mp h
  unfold readLine at hread
  cases hline : Line.normalize raw with
  | none =>
    rw [hline] at hread
    cases hread
  | some line =>
    rw [hline] at hread
    obtain rfl := Option.some.inj hread
    have hclause : (classify tree c.options.helpers line c.lexicon).1 = .statement st := by
      unfold lineStatement? at h
      split at h
      next made hmade =>
        obtain rfl := Option.some.inj h
        exact hmade
      next =>
        split at h
        · obtain rfl := Option.some.inj h
          cases hst
        · cases h
    rw [classify_eq] at hclause
    cases hs : sentence? line with
    | none =>
      rw [hs] at hclause
      cases hclause
    | some s =>
      rw [hs] at hclause
      exact ⟨line, s, rfl, hs, hclause⟩

/-- What a line comes to whose sentence comes to a statement. -/
lemma convertLine_of_sentence (hline : Line.normalize raw = some line)
    (hs : sentence? line = some s)
    (hclause : (s.clause tree c.options.helpers line c.lexicon).1 = .statement st) :
    c.statement? tree raw = some st ∧
      c.convertLine tree raw = (some (st.code c.options.fieldComments),
        { c with lexicon := (s.clause tree c.options.helpers line c.lexicon).2 }) := by
  have hclassify : classify tree c.options.helpers line c.lexicon =
      s.clause tree c.options.helpers line c.lexicon := by
    rw [classify_eq, hs, Option.elim_some]
  constructor
  · simp only [statement?, readLine, hline, Option.bind_some, lineStatement?, hclassify, hclause]
  · simp only [convertLine, readLine, hline, Option.bind_some, lineStatement?, hclassify, hclause,
      Option.map_some]

/-! ### The stop -/

/-- A line ends with a quote that closes, before a stop, a quoted text that it assigns. -/
def EndsInLiteral (raw : Text) : Prop :=
  (trim raw).getLast? = some '"' ∧
    ((Line.normalize (raw ++ ['。'])).bind Sentence.literal?).isSome = true

instance (raw : Text) : Decidable (EndsInLiteral raw) := inferInstanceAs (Decidable (_ ∧ _))

/-- **A full stop may be left out**, unless the line ends with a quoted text that it assigns.  A
line that does not end with a stop, and comes to a statement with one, comes to the same statement
without it, and so to the same code and the same state, exactly if its last quote does not close
such a text. -/
theorem convertLine_append_stop_iff
    (hopen : ∀ d, (trim raw).getLast? = some d → Sentence.isStop d = false)
    (h : c.statement? tree (raw ++ ['。']) = some st) (hst : st.isTodo = false) :
    (c.convertLine tree (raw ++ ['。'])).1 = some (st.code c.options.fieldComments) ∧
      (c.statement? tree raw = some st ↔ ¬ EndsInLiteral raw) ∧
      (¬ EndsInLiteral raw → c.convertLine tree raw = c.convertLine tree (raw ++ ['。'])) := by
  obtain ⟨u, s, hu, hs, hclause⟩ := exists_sentence h hst
  obtain ⟨hcondition, hsupported⟩ := Sentence.supported_of_made hclause hst
  have hstop := (convertLine_of_sentence hu hs hclause).2
  refine ⟨by rw [hstop], ?_⟩
  -- without a line there is only the stop, which is no sentence
  obtain ⟨line, hline⟩ : ∃ line, Line.normalize raw = some line := by
    refine Option.ne_none_iff_exists'.mp fun hnone => ?_
    rw [Line.normalize_append_stop_of_none hnone] at hu
    obtain rfl := Option.some.inj hu
    rw [show sentence? ['。'] = none by decide] at hs
    cases hs
  obtain ⟨u', hu', htrailed, hwrapping, hlast⟩ := Line.normalize_append_stop hline
  obtain rfl := Option.some.inj (hu'.symm.trans hu)
  have hsame : sentence? line = some s →
      c.statement? tree raw = some st ∧
        c.convertLine tree raw = c.convertLine tree (raw ++ ['。']) := by
    intro hs'
    have heq := Sentence.clause_of_made hclause hst line
    have hclause' := hclause
    rw [← heq] at hclause'
    obtain ⟨hstatement, hconvert⟩ := convertLine_of_sentence hline hs' hclause'
    exact ⟨hstatement, by rw [hconvert, hstop, heq]⟩
  have hblank : ∀ d, line.getLast? = some d → isBlank d = false :=
    fun d hd => Line.not_isBlank_of_not_isWrapping (hwrapping d hd)
  by_cases hquote : (trim raw).getLast? = some '"'
  · simp only [hquote] at htrailed
    rcases htrailed.sentence?_of_quote hblank hs hcondition hsupported with
      ⟨hliteral, hs'⟩ | ⟨x, hx, hassigns, hless⟩
    · have hnot : ¬ EndsInLiteral raw := by
        rintro ⟨-, hsome⟩
        rw [hu, Option.bind_some, hliteral] at hsome
        cases hsome
      exact ⟨iff_of_true (hsame hs').1 hnot, fun _ => (hsame hs').2⟩
    · have hends : EndsInLiteral raw := by
        refine ⟨hquote, ?_⟩
        rw [hu, Option.bind_some, hx]
        rfl
      refine ⟨iff_of_false (fun hstatement => ?_) (not_not_intro hends),
        fun hnot => absurd hends hnot⟩
      -- without the stop the line makes another statement, or none
      obtain ⟨line', other, hline', hother, hmade⟩ := exists_sentence hstatement hst
      obtain rfl := Option.some.inj (hline'.symm.trans hline)
      rcases hless other hother with hunsupported | ⟨y, hne, hassigns'⟩
      · rw [(Sentence.supported_of_made hmade hst).2] at hunsupported
        cases hunsupported
      · have hvalue := Sentence.value?_of_assigns hassigns hclause hst
        rw [Sentence.value?_of_assigns hassigns' hmade hst] at hvalue
        exact hne (Java.literal_injective (Option.some.inj hvalue))
  · simp only [hquote] at htrailed
    have hnot : ¬ EndsInLiteral raw := fun hends => hquote hends.1
    have hs' := htrailed.sentence?_eq
      (fun d hd => ⟨hblank d hd, hopen d ((hlast hquote).symm.trans hd)⟩) hs hcondition hsupported
    exact ⟨iff_of_true (hsame hs').1 hnot, fun _ => (hsame hs').2⟩

/-- A converter that knows one hat. -/
def hatConverter : Converter := ⟨{}, hatLexicon, .empty⟩

/-- A wrapped line with a bit. -/
def wrappedBit : Text := "\"項目「D\\区分」に '1' を代入する \""

/-- The line ends with a quote, but with no quoted text. -/
theorem convertLine_append_stop_iff_wrappedBit :
    (trim wrappedBit).getLast? = some '"' ∧
      hatConverter.statement? ⟨.empty⟩ (wrappedBit ++ ['。']) = some (.setVariable "D区分" "'1'") ∧
      ¬ EndsInLiteral wrappedBit ∧
      hatConverter.statement? ⟨.empty⟩ wrappedBit = some (.setVariable "D区分" "'1'") := by
  have hquote : (trim wrappedBit).getLast? = some '"' := by decide +kernel
  have hopen : ∀ d, (trim wrappedBit).getLast? = some d → Sentence.isStop d = false := by
    intro d hd
    rw [hquote] at hd
    obtain rfl := Option.some.inj hd
    decide
  have hstop : hatConverter.statement? ⟨.empty⟩ (wrappedBit ++ ['。']) =
      some (.setVariable "D区分" "'1'") := by decide +kernel
  have hnot : ¬ EndsInLiteral wrappedBit := by decide +kernel
  exact ⟨hquote, hstop, hnot, (convertLine_append_stop_iff hopen hstop (by decide)).2.1.mpr hnot⟩

/-- A line that ends with the quoted text that it assigns: without the stop the closing quote is
lost, and the line is left to do. -/
theorem convertLine_append_stop_literal :
    EndsInLiteral "項目「D\\区分」＝\"赤\"" ∧
      (hatConverter.convertLine ⟨.empty⟩ "項目「D\\区分」＝\"赤\"。").1 =
        some ("this.D区分 = \"赤\";" : Text) ∧
      hatConverter.statement? ⟨.empty⟩ "項目「D\\区分」＝\"赤\"。" =
        some (.setVariable "D区分" "\"赤\"") ∧
      hatConverter.statement? ⟨.empty⟩ "項目「D\\区分」＝\"赤\"" =
        some (.todo "項目「D\\区分」＝\"赤" (.unsupportedValue "＝\"赤")) := by
  decide +kernel

end Converter

end RuleSheet
