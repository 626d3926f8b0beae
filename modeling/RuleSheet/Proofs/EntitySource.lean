import Mathlib.Data.List.Infix
import RuleSheet.Entity.Source
import RuleSheet.Proofs.Declarations

/-!
# Entity sources read back

An entity source is written line by line: the header of the class, for every field a comment with
its column and its label and perhaps a declaration, and a closing brace.  The scan, which is also
driven by lines, finds the class and exactly these fields again, with the types that were declared.

## Main definitions

* `RuleSheet.Entity.Entry` — a documented field with the layout of its comment, and
  `Entry.WellFormed` for what may stand in it.
* `RuleSheet.Entity.page` — the lines of an entity source.
* `RuleSheet.Entity.Spaced` — lines with blank lines between them.

## Main results

* `RuleSheet.Entity.Scan.foldl_entry`, `foldl_entries` — what the lines of one field, and of several
  fields, do to a scan.
* `RuleSheet.Entity.ofSource_page` — an entity source is read back.

## Design

Type arguments may be broken over lines as far as the declaration of a type is concerned.  A scan by
lines does not see such a declaration, so types with line feeds are left out of the main result.
-/

set_option autoImplicit false

namespace RuleSheet.Entity

open Text Java

/-! ### What is written -/

/-- The layouts of a comment. -/
inductive Layout where
  /-- On one line. -/
  | compact
  /-- On three lines: the opening mark, the text behind a star, and the closing mark. -/
  | spread
  deriving DecidableEq, Repr

/-- A documented field, as it is written in an entity source. -/
structure Entry where
  /-- The column name. -/
  column : Text
  /-- The label. -/
  label : Text
  /-- The declared type and the name behind it, if there is a declaration. -/
  declared : Option (Text × Text)
  /-- The layout of the comment. -/
  layout : Layout

/-- A text that can stand inside a comment as one of its parts: it is not empty, has no blanks at
its ends, does not end the comment and stays on one line. -/
structure Plain (t : Text) : Prop where
  ne_nil : t ≠ []
  trim_eq : trim t = t
  mark_not_infix : ¬ ("*/" : Text) <:+: t
  newline_not_mem : '\n' ∉ t

instance (t : Text) : Decidable (Plain t) :=
  decidable_of_iff (t ≠ [] ∧ trim t = t ∧ ¬ ("*/" : Text) <:+: t ∧ '\n' ∉ t)
    ⟨fun ⟨hne, htrim, hmark, hnewline⟩ => ⟨hne, htrim, hmark, hnewline⟩,
      fun h => ⟨h.ne_nil, h.trim_eq, h.mark_not_infix, h.newline_not_mem⟩⟩

namespace Entry

/-- What may stand in an entry. -/
structure WellFormed (e : Entry) : Prop where
  /-- The column name ends at the first closing bracket. -/
  bracket_not_mem : ']' ∉ e.column
  column : Plain e.column
  label : Plain e.label
  /-- What is declared can be declared. -/
  declared : ∀ type name, e.declared = some (type, name) → IsType type ∧ IsIdentifier name

/-- The text of the comment. -/
def note (e : Entry) : Text := "[" ++ e.column ++ "] " ++ e.label

/-- The lines of the comment. -/
def comment (e : Entry) : List Text :=
  match e.layout with
  | .compact => ["/** " ++ e.note ++ " */"]
  | .spread => ["/**", " * " ++ e.note, " */"]

/-- The line of the declaration, if there is one. -/
def declaration (e : Entry) : List Text :=
  match e.declared with
  | none => []
  | some (type, name) => ["private " ++ type ++ " " ++ name ++ ";"]

/-- The lines of an entry. -/
def lines (e : Entry) : List Text := e.comment ++ e.declaration

/-- The field that an entry documents. -/
def field (e : Entry) : Field :=
  match e.declared with
  | none => .ofColumn e.column e.label
  | some (type, _) => (Field.ofColumn e.column e.label).withType type

end Entry

/-- The lines of an entity source up to its closing brace. -/
def page (name : Text) (entries : List Entry) : List Text :=
  ("public class " ++ name ++ " \x7b") :: entries.flatMap Entry.lines

/-- The second list has the lines of the first one, with blank lines anywhere between them. -/
inductive Spaced : List Text → List Text → Prop
  | nil : Spaced [] []
  | blank {line : Text} {core full : List Text} (hblank : ∀ c ∈ line, isBlank c = true)
      (hnewline : '\n' ∉ line) (h : Spaced core full) : Spaced core (line :: full)
  | line {line : Text} {core full : List Text} (h : Spaced core full) :
      Spaced (line :: core) (line :: full)

/-! ### The end of a comment -/

section Mark

variable {a t : Text} {c : Char}

/-- The mark cannot run over a character that is not in it. -/
lemma not_infix_append_cons (ha : ¬ ("*/" : Text) <:+: a) (ht : ¬ ("*/" : Text) <:+: t)
    (hstar : c ≠ '*') (hslash : c ≠ '/') : ¬ ("*/" : Text) <:+: a ++ c :: t := by
  induction a with
  | nil =>
    rw [List.nil_append, List.infix_cons_iff]
    rintro (hstart | hinside)
    · exact hstar (List.cons_prefix_cons.mp hstart).1.symm
    · exact ht hinside
  | cons d a ih =>
    rw [List.cons_append, List.infix_cons_iff]
    rintro (hstart | hinside)
    · obtain ⟨rfl, hnext⟩ := List.cons_prefix_cons.mp hstart
      cases a with
      | nil => exact hslash (List.cons_prefix_cons.mp hnext).1.symm
      | cons e a =>
        obtain ⟨rfl, -⟩ := List.cons_prefix_cons.mp hnext
        exact ha (List.IsPrefix.isInfix ⟨a, rfl⟩)
    · exact ih (fun h => ha (List.infix_cons h)) hinside

/-- A text without the mark is not cut. -/
lemma cut?_of_not_infix (h : ¬ ("*/" : Text) <:+: t) : cut? "*/" t = none := by
  cases hcut : cut? "*/" t with
  | none => rfl
  | some sides =>
    obtain ⟨before, after⟩ := sides
    exact absurd ⟨before, after, (eq_of_cut? hcut).symm⟩ h

/-- A text is cut at the mark if no other stands in front of it. -/
lemma cut?_mark (h : ¬ ("*/" : Text) <:+: a) (rest : Text) :
    cut? "*/" (a ++ '*' :: '/' :: rest) = some (a, rest) := by
  induction a with
  | nil => rfl
  | cons d a ih =>
    have hnone : after? "*/" (d :: (a ++ '*' :: '/' :: rest)) = none := by
      cases hafter : after? "*/" (d :: (a ++ '*' :: '/' :: rest)) with
      | none => rfl
      | some behind =>
        rw [after?_eq_some_iff] at hafter
        obtain ⟨rfl, hnext⟩ := List.cons.inj hafter
        cases a with
        | nil => cases hnext
        | cons e a =>
          obtain ⟨rfl, -⟩ := List.cons.inj hnext
          exact absurd (List.IsPrefix.isInfix ⟨a, rfl⟩) h
    rw [List.cons_append, cut?, hnone, ih fun hinside => h (List.infix_cons hinside)]
    rfl

end Mark

/-! ### The text of a comment -/

namespace Entry.WellFormed

variable {e : Entry}

/-- The label has no blanks at its ends. -/
lemma bare_label (h : e.WellFormed) : Bare isBlank e.label :=
  bare_of_trimBy h.label.trim_eq h.label.ne_nil

/-- Nor has the text of the comment. -/
lemma bare_note (h : e.WellFormed) : Bare isBlank e.note := by
  have hopen : Bare isBlank ['['] := bare_singleton (by decide)
  have hbare := hopen.append h.bare_label (e.column ++ "] ")
  rwa [← List.append_assoc] at hbare

/-- The text of the comment does not end the comment. -/
lemma not_infix_note (h : e.WellFormed) : ¬ ("*/" : Text) <:+: e.note := by
  have hlabel : ¬ ("*/" : Text) <:+: ' ' :: e.label :=
    not_infix_append_cons (a := []) (by decide) h.label.mark_not_infix (by decide) (by decide)
  have hcolumn :=
    not_infix_append_cons h.column.mark_not_infix hlabel (c := ']') (by decide) (by decide)
  have hnote := not_infix_append_cons (a := []) (by decide) hcolumn (c := '[') (by decide)
    (by decide)
  simpa [Entry.note] using hnote

/-- **The column and the label are found in the text of the comment.** -/
lemma columnNote?_note (h : e.WellFormed) : columnNote? e.note = some (e.column, e.label) := by
  have hcolumn : ∀ c ∈ e.column, decide (c ≠ ']') = true := by
    intro c hc
    exact decide_eq_true fun heq => h.bracket_not_mem (heq ▸ hc)
  have hlabel : (' ' :: e.label).takeWhile (· ≠ '\n') = ' ' :: e.label := by
    refine List.takeWhile_eq_self_iff.mpr fun c hc => decide_eq_true ?_
    rintro rfl
    rcases List.mem_cons.mp hc with hc | hc
    · cases hc
    · exact h.label.newline_not_mem hc
  have hshape : e.note = '[' :: (e.column ++ ']' :: ' ' :: e.label) := by simp [Entry.note]
  have hhere : noteHere? e.note = some (e.column, ' ' :: e.label) := by
    rw [hshape, noteHere?, takeWhile_run hcolumn (by decide), dropWhile_run hcolumn (by decide)]
    simp only [h.column.ne_nil, hlabel]
    rfl
  have hfirst : firstNote? e.note = some (e.column, ' ' :: e.label) := by
    rw [hshape] at hhere ⊢
    rw [firstNote?, hhere]
    rfl
  have htrim : trim (' ' :: e.label) = e.label :=
    (trimBy_cons rfl e.label).trans h.label.trim_eq
  simp only [columnNote?, hfirst, Option.bind_eq_bind, Option.bind_some, htrim, h.column.trim_eq,
    h.column.ne_nil, h.label.ne_nil, or_self, if_false]

end Entry.WellFormed

/-! ### Single lines -/

namespace Scan

variable {s : Scan} {name : Text}

/-- Only the text between the blanks at its ends counts of a line. -/
lemma line_congr {raw raw' : Text} (h : trim raw = trim raw') (s : Scan) :
    s.line raw = s.line raw' := by
  rw [line, line, h]

/-- Once the class is known, headers are lines like others. -/
lemma line_of_named (hname : s.entity.className = some name) (raw : Text) :
    s.line raw = s.body (trim raw) := by
  rw [line, hname]

/-- A line that opens a comment. -/
lemma body_of_after? {t rest : Text} (h : after? "/**" t = some rest) (s : Scan) :
    s.body t = s.openComment rest := by
  rw [body, h]

/-- Another line inside a comment. -/
lemma body_of_comment {t : Text} {lines : List Text} (h : after? "/**" t = none)
    (hcomment : s.comment = some lines) : s.body t = s.continueComment lines t := by
  rw [body, h, hcomment]

/-- Another line outside of comments. -/
lemma body_of_no_comment {t : Text} (h : after? "/**" t = none) (hcomment : s.comment = none) :
    s.body t = s.code t := by
  rw [body, h, hcomment]

/-- A line without a declaration outside of comments changes nothing. -/
lemma code_of_no_declaration {t : Text} (h : declaration? t = none) (s : Scan) : s.code t = s := by
  rw [code, h]
  split
  · rfl
  · rfl

/-- A blank line changes nothing. -/
lemma line_of_blank {raw : Text} (h : ∀ c ∈ raw, isBlank c = true) (s : Scan) :
    s.line raw = s := by
  have htrim : trim raw = [] := trimBy_of_forall h
  have hbody : s.body [] = s := by
    cases hcomment : s.comment with
    | none => rw [body_of_no_comment rfl hcomment, code_of_no_declaration rfl]
    | some lines =>
      rw [body_of_comment rfl hcomment]
      rfl
  rw [line, htrim]
  cases s.entity.className with
  | none => exact hbody
  | some _ => exact hbody

/-- The end of a comment that documents a column adds a field, which waits for its declaration. -/
lemma close_note {e : Entry} (he : e.WellFormed) (s : Scan) :
    s.close [e.note] = ⟨⟨s.entity.className, s.entity.fields ++ [.ofColumn e.column e.label]⟩,
      none, true⟩ := by
  rw [close, join_singleton, he.columnNote?_note]

/-- A comment on one line. -/
lemma line_compact {e : Entry} (he : e.WellFormed) (hname : s.entity.className = some name) :
    s.line ("/** " ++ e.note ++ " */") =
      ⟨⟨some name, s.entity.fields ++ [.ofColumn e.column e.label]⟩, none, true⟩ := by
  have hspaced : ¬ ("*/" : Text) <:+: ' ' :: e.note ++ [' '] := by
    have hfront := not_infix_append_cons (a := []) (by decide) he.not_infix_note (c := ' ')
      (by decide) (by decide)
    exact not_infix_append_cons hfront (by decide) (by decide) (by decide)
  have hshape : ("/** " ++ e.note ++ " */" : Text) =
      "/**" ++ ((' ' :: e.note ++ [' ']) ++ '*' :: '/' :: []) := by
    simp
  have htrim : trim ("/** " ++ e.note ++ " */") = "/** " ++ e.note ++ " */" := by
    have hslash : Bare isBlank ['/'] := bare_singleton (by decide)
    have hbare := (hslash.append hslash ("** " ++ e.note ++ " *")).trimBy_eq
    simpa [trim] using hbare
  have hbody : trim (' ' :: e.note ++ [' ']) = e.note := by
    have hblank : ∀ c ∈ [' '], isBlank c = true := fun c hc => by
      rw [List.mem_singleton.mp hc]
      rfl
    exact trimBy_surround (s := [' ']) hblank he.bare_note hblank
  have hafter : after? "/**" ("/** " ++ e.note ++ " */") =
      some ((' ' :: e.note ++ [' ']) ++ '*' :: '/' :: []) :=
    (after?_eq_some_iff _ _ _).mpr hshape
  rw [line_of_named hname, htrim, body_of_after? hafter, openComment, cut?_mark hspaced]
  show s.close [trim _] = _
  rw [hbody, close_note he, hname]

/-- The first of three lines opens a comment. -/
lemma line_open (hname : s.entity.className = some name) :
    s.line "/**" = { s with comment := some [] } := by
  rw [line_of_named hname]
  rfl

/-- The second one is kept. -/
lemma line_note {e : Entry} (he : e.WellFormed) (hname : s.entity.className = some name)
    (hcomment : s.comment = some []) :
    s.line (" * " ++ e.note) = { s with comment := some [e.note] } := by
  have hshape : (" * " ++ e.note : Text) = ' ' :: '*' :: ' ' :: e.note := by simp
  have htrim : trim (' ' :: '*' :: ' ' :: e.note) = '*' :: ' ' :: e.note := by
    have hstar : Bare isBlank ['*'] := bare_singleton (by decide)
    exact (trimBy_cons rfl _).trans (hstar.append he.bare_note [' ']).trimBy_eq
  have hnote : trim (' ' :: e.note) = e.note := (trimBy_cons rfl _).trans he.bare_note.trimBy_eq
  have hmark : ¬ ("*/" : Text) <:+: '*' :: ' ' :: e.note :=
    not_infix_append_cons (a := ['*']) (by decide) he.not_infix_note (by decide) (by decide)
  rw [hshape, line_of_named hname, htrim, body_of_comment rfl hcomment, continueComment,
    cut?_of_not_infix hmark]
  show { s with comment := some ([] ++ [trim (' ' :: e.note)]) } = _
  rw [hnote]
  rfl

/-- The third one closes the comment. -/
lemma line_close (hname : s.entity.className = some name) {lines : List Text}
    (hcomment : s.comment = some lines) : s.line " */" = s.close lines := by
  have htrim : trim " */" = "*/" := by decide
  rw [line_of_named hname, htrim, body_of_comment rfl hcomment]
  show s.close (lines ++ []) = _
  rw [List.append_nil]

/-- **The comment of an entry adds its field**, whatever the layout, and the field waits for its
declaration. -/
lemma foldl_comment {e : Entry} (he : e.WellFormed) (hname : s.entity.className = some name) :
    e.comment.foldl Scan.line s =
      ⟨⟨some name, s.entity.fields ++ [.ofColumn e.column e.label]⟩, none, true⟩ := by
  unfold Entry.comment
  cases e.layout with
  | compact => exact line_compact he hname
  | spread =>
    show (((s.line "/**").line (" * " ++ e.note)).line " */") = _
    rw [line_open hname, line_note (s := { s with comment := some [] }) he hname rfl,
      line_close (s := { s with comment := some [e.note] }) hname rfl, close_note he]
    simp only [hname]

/-- A declared type is given to the last field. -/
lemma typeLast_append (type : Text) (fields : List Field) (f : Field) :
    typeLast type (fields ++ [f]) = fields ++ [f.withType type] := by
  induction fields with
  | nil => rfl
  | cons g fields ih =>
    cases fields with
    | nil => rfl
    | cons g' fields => exact congrArg (g :: ·) ih

/-- A declaration gives its type to the field that waits for it. -/
lemma line_declaration {type identifier : Text} (htype : IsType type)
    (hidentifier : IsIdentifier identifier) (fields : List Field) (f : Field) :
    Scan.line ⟨⟨some name, fields ++ [f]⟩, none, true⟩
        ("private " ++ type ++ " " ++ identifier ++ ";") =
      ⟨⟨some name, fields ++ [f.withType type]⟩, none, false⟩ := by
  have hafter : after? "/**" ("private " ++ type ++ " " ++ identifier ++ ";") = none := by
    simp [after?]
  rw [line_of_named rfl, trim_private, body_of_no_comment hafter rfl, code,
    declaration?_private htype hidentifier]
  simp [typeLast_append]

/-- What follows the comment of an entry completes its field. -/
lemma foldl_declaration {e : Entry} (he : e.WellFormed) (fields : List Field) :
    e.declaration.foldl Scan.line
        ⟨⟨some name, fields ++ [.ofColumn e.column e.label]⟩, none, true⟩ =
      ⟨⟨some name, fields ++ [e.field]⟩, none, e.declared.isNone⟩ := by
  unfold Entry.declaration Entry.field
  cases hdeclared : e.declared with
  | none => rfl
  | some pair =>
    obtain ⟨type, identifier⟩ := pair
    obtain ⟨htype, hidentifier⟩ := he.declared type identifier hdeclared
    exact line_declaration htype hidentifier fields _

/-- **The lines of an entry add its field.** -/
lemma foldl_entry {e : Entry} (he : e.WellFormed) (hname : s.entity.className = some name) :
    e.lines.foldl Scan.line s =
      ⟨⟨some name, s.entity.fields ++ [e.field]⟩, none, e.declared.isNone⟩ := by
  rw [Entry.lines, List.foldl_append, foldl_comment he hname, foldl_declaration he]

/-- **The lines of several entries add their fields**, in order. -/
lemma foldl_entries {entries : List Entry} (hentries : ∀ e ∈ entries, e.WellFormed) :
    ∀ {s : Scan}, s.entity.className = some name → s.comment = none →
      ∃ awaiting, (entries.flatMap Entry.lines).foldl Scan.line s =
        ⟨⟨some name, s.entity.fields ++ entries.map Entry.field⟩, none, awaiting⟩ := by
  induction entries with
  | nil =>
    intro s hname hcomment
    obtain ⟨⟨className, fields⟩, comment, awaiting⟩ := s
    obtain rfl : className = some name := hname
    obtain rfl : comment = none := hcomment
    exact ⟨awaiting, by simp⟩
  | cons e entries ih =>
    intro s hname _
    have he := foldl_entry (hentries e List.mem_cons_self) hname
    obtain ⟨awaiting, hrest⟩ := ih (fun e' he' => hentries e' (List.mem_cons_of_mem e he'))
      (s := ⟨⟨some name, s.entity.fields ++ [e.field]⟩, none, e.declared.isNone⟩) rfl rfl
    refine ⟨awaiting, ?_⟩
    rw [List.flatMap_cons, List.foldl_append, he, hrest]
    simp

/-- Blank lines do not count. -/
lemma foldl_spaced {core full : List Text} (h : Spaced core full) :
    ∀ s : Scan, full.foldl Scan.line s = core.foldl Scan.line s := by
  induction h with
  | nil => exact fun _ => rfl
  | blank hblank _ _ ih =>
    intro s
    rw [List.foldl_cons, line_of_blank hblank, ih]
  | line _ ih =>
    intro s
    rw [List.foldl_cons, List.foldl_cons, ih]

/-- The header names the class. -/
lemma line_header (hne : name ≠ []) (hname : ∀ c ∈ name, isWord c = true) :
    start.line ("public class " ++ name ++ " \x7b") = ⟨⟨some name, []⟩, none, false⟩ := by
  have htrim : trim ("public class " ++ name ++ " \x7b") = "public class " ++ name ++ " \x7b" := by
    have hfirst : Bare isBlank ['p'] := bare_singleton (by decide)
    have hlast : Bare isBlank ['\x7b'] := bare_singleton (by decide)
    have hbare := (hfirst.append hlast ("ublic class " ++ name ++ " ")).trimBy_eq
    simpa [trim] using hbare
  rw [line, htrim, className?_header hne hname]
  rfl

/-- The closing brace changes nothing. -/
lemma line_brace (hname : s.entity.className = some name) (hcomment : s.comment = none) :
    s.line "\x7d" = s := by
  have htrim : trim "\x7d" = "\x7d" := by decide
  rw [line_of_named hname, htrim, body_of_no_comment rfl hcomment, code_of_no_declaration rfl]

end Scan

/-! ### The whole source -/

/-- The lines of a text that is written line by line. -/
lemma lines_join {body : List Text} (hbody : ∀ line ∈ body, '\n' ∉ line) {last ending : Text}
    (hlast : '\n' ∉ last) (hne : last ≠ []) (hreturn : dropReturn last = last)
    (hending : ending = [] ∨ ending = ['\n']) :
    Text.lines (join ['\n'] (body ++ [last]) ++ ending) = body.map dropReturn ++ [last] := by
  induction body with
  | nil =>
    rw [List.nil_append, join_singleton]
    rcases hending with rfl | rfl
    · rw [List.append_nil, lines_of_not_mem hlast hne]
      rfl
    · rw [lines_append_newline hlast, hreturn]
      rfl
  | cons line body ih =>
    rw [List.cons_append, join_cons line (by simp), List.append_assoc, List.cons_append,
      lines_append_newline (hbody line List.mem_cons_self),
      ih fun other hother => hbody other (List.mem_cons_of_mem line hother)]
    rfl

/-- A carriage return at the end of a line is a blank. -/
lemma trim_dropReturn (t : Text) : trim (dropReturn t) = trim t := by
  unfold dropReturn
  split
  next hlast =>
    have hblank : ∀ c ∈ ['\r'], isBlank c = true := fun c hc => by
      rw [List.mem_singleton.mp hc]
      rfl
    have hwhole := List.dropLast_append_getLast? '\r' hlast
    exact (hwhole ▸ trimBy_append hblank t.dropLast).symm
  next => rfl

/-- So it does not count for a scan. -/
lemma Scan.foldl_dropReturn (body : List Text) (s : Scan) :
    (body.map dropReturn).foldl Scan.line s = body.foldl Scan.line s := by
  rw [List.foldl_map]
  congr 1
  exact funext fun s => funext fun line => line_congr (trim_dropReturn line) s

/-- A word stays on one line. -/
lemma newline_not_mem_of_isWord {t : Text} (h : ∀ c ∈ t, isWord c = true) : '\n' ∉ t := by
  intro hmem
  have hword := h _ hmem
  revert hword
  decide

/-- The text of the comment stays on one line. -/
lemma Entry.WellFormed.newline_not_mem_note {e : Entry} (he : e.WellFormed) : '\n' ∉ e.note := by
  simp [Entry.note, he.column.newline_not_mem, he.label.newline_not_mem]

/-- Every line of an entry stays on one line if its type does. -/
lemma Entry.WellFormed.newline_not_mem {e : Entry} (he : e.WellFormed)
    (htype : ∀ type name, e.declared = some (type, name) → '\n' ∉ type) :
    ∀ line ∈ e.lines, '\n' ∉ line := by
  intro line hline
  rcases List.mem_append.mp hline with hline | hline
  · have hnote := he.newline_not_mem_note
    unfold Entry.comment at hline
    split at hline
    · obtain rfl := List.mem_singleton.mp hline
      simp [hnote]
    · simp only [List.mem_cons, List.not_mem_nil, or_false] at hline
      rcases hline with rfl | rfl | rfl
      · decide
      · simp [hnote]
      · decide
  · unfold Entry.declaration at hline
    split at hline
    next => cases hline
    next type name hdeclared =>
      obtain rfl := List.mem_singleton.mp hline
      have hname : '\n' ∉ name :=
        newline_not_mem_of_isWord (he.declared type name hdeclared).2.forall_isWord
      simp [htype type name hdeclared, hname]

/-- Blank lines stay on one line. -/
lemma newline_not_mem_of_spaced {core full : List Text} (h : Spaced core full)
    (hcore : ∀ line ∈ core, '\n' ∉ line) : ∀ line ∈ full, '\n' ∉ line := by
  induction h with
  | nil => exact hcore
  | blank _ hnewline _ ih => exact List.forall_mem_cons.mpr ⟨hnewline, ih hcore⟩
  | line _ ih =>
    obtain ⟨hfirst, hrest⟩ := List.forall_mem_cons.mp hcore
    exact List.forall_mem_cons.mpr ⟨hfirst, ih hrest⟩

/-- The lines of a page stay on one line. -/
lemma newline_not_mem_page {name : Text} {entries : List Entry}
    (hname : ∀ c ∈ name, isWord c = true) (hentries : ∀ e ∈ entries, e.WellFormed)
    (htypes : ∀ e ∈ entries, ∀ type identifier,
      e.declared = some (type, identifier) → '\n' ∉ type) :
    ∀ line ∈ page name entries, '\n' ∉ line := by
  refine List.forall_mem_cons.mpr ⟨?_, ?_⟩
  · simp [newline_not_mem_of_isWord hname]
  · intro line hline
    obtain ⟨e, he, hline⟩ := List.mem_flatMap.mp hline
    exact (hentries e he).newline_not_mem (htypes e he) line hline

/-- **Entity sources are read back.** -/
theorem ofSource_page {name : Text} {entries : List Entry} {body : List Text} {ending : Text}
    (hne : name ≠ []) (hname : ∀ c ∈ name, isWord c = true)
    (hentries : ∀ e ∈ entries, e.WellFormed)
    (htypes : ∀ e ∈ entries, ∀ type identifier, e.declared = some (type, identifier) → '\n' ∉ type)
    (hbody : Spaced (page name entries) body) (hending : ending = [] ∨ ending = ['\n']) :
    ofSource (join ['\n'] (body ++ [("\x7d" : Text)]) ++ ending) =
      ⟨some name, entries.map Entry.field⟩ := by
  have hlines := newline_not_mem_of_spaced hbody (newline_not_mem_page hname hentries htypes)
  obtain ⟨awaiting, hfields⟩ := Scan.foldl_entries hentries (s := ⟨⟨some name, []⟩, none, false⟩)
    rfl rfl
  have hpage : body.foldl Scan.line .start =
      ⟨⟨some name, entries.map Entry.field⟩, none, awaiting⟩ := by
    rw [Scan.foldl_spaced hbody, page, List.foldl_cons, Scan.line_header hne hname, hfields]
    rfl
  rw [ofSource, lines_join hlines (by decide) (by decide) (by decide) hending, List.foldl_append,
    Scan.foldl_dropReturn, hpage, List.foldl_cons, List.foldl_nil, Scan.line_brace rfl rfl]

/-- A comment on three lines above a type with arguments and brackets. -/
def gloveEntry : Entry := ⟨"glove_1", "手袋 [L] * / ]", some ("Map<K, List<V>>[]", "glove1"), .spread⟩

/-- A comment on one line without a declaration. -/
def sizeEntry : Entry := ⟨"a[b", "/*大きさ", none, .compact⟩

/-- A type that is also a modifier. -/
def hueEntry : Entry := ⟨"hue", "色", some ("final", "_hue"), .compact⟩

lemma wellFormed_gloveEntry : gloveEntry.WellFormed := by
  refine ⟨by decide +kernel, by decide +kernel, by decide +kernel, fun type name h => ?_⟩
  obtain ⟨rfl, rfl⟩ := Prod.mk.inj (Option.some.inj h)
  exact ⟨⟨'M', "ap", '<' :: ("K, List<V>" ++ ['>']), "[]", by decide +kernel, rfl,
      List.all_eq_true.mp (by decide +kernel), .bracketed (by simp), .cons .nil⟩,
    ⟨'g', "love1", by decide +kernel, rfl, List.all_eq_true.mp (by decide +kernel)⟩⟩

lemma wellFormed_sizeEntry : sizeEntry.WellFormed :=
  ⟨by decide +kernel, by decide +kernel, by decide +kernel, fun _ _ h => by cases h⟩

lemma wellFormed_hueEntry : hueEntry.WellFormed := by
  refine ⟨by decide +kernel, by decide +kernel, by decide +kernel, fun type name h => ?_⟩
  obtain ⟨rfl, rfl⟩ := Prod.mk.inj (Option.some.inj h)
  exact ⟨⟨'f', "inal", [], [], by decide +kernel, rfl, List.all_eq_true.mp (by decide +kernel),
    .absent, .nil⟩,
    ⟨'_', "hue", by decide +kernel, rfl, List.all_eq_true.mp (by decide +kernel)⟩⟩

/-- The lines of three entries with blank lines between and inside their comments. -/
def accessoryLines : List Text :=
  ["public class 部品_1 \x7b", "/**", " \r", " * [glove_1] 手袋 [L] * / ]", " */",
    "private Map<K, List<V>>[] glove1;", "/** [a[b] /*大きさ */", "", "/** [hue] 色 */",
    "private final _hue;", "\t"]

lemma spaced_accessoryLines :
    Spaced (page "部品_1" [gloveEntry, sizeEntry, hueEntry]) accessoryLines := by
  have hpage : page "部品_1" [gloveEntry, sizeEntry, hueEntry] =
      ["public class 部品_1 \x7b", "/**", " * [glove_1] 手袋 [L] * / ]", " */",
        "private Map<K, List<V>>[] glove1;", "/** [a[b] /*大きさ */", "/** [hue] 色 */",
        "private final _hue;"] := by
    decide +kernel
  have hreturn : ∀ c ∈ (" \r" : Text), isBlank c = true := List.all_eq_true.mp (by decide)
  have htab : ∀ c ∈ ("\t" : Text), isBlank c = true := List.all_eq_true.mp (by decide)
  rw [hpage]
  exact .line (.line (.blank hreturn (by decide) (.line (.line (.line (.line
    (.blank (by simp) (by decide) (.line (.line (.blank htab (by decide) .nil))))))))))

theorem ofSource_accessoryLines :
    Spaced (page "部品_1" [gloveEntry, sizeEntry, hueEntry]) accessoryLines ∧
    ofSource (join ['\n'] (accessoryLines ++ [("\x7d" : Text)]) ++ ['\n']) =
      ⟨some "部品_1", [(Field.ofColumn "glove_1" "手袋 [L] * / ]").withType "Map<K, List<V>>[]",
        .ofColumn "a[b" "/*大きさ", (Field.ofColumn "hue" "色").withType "final"]⟩ := by
  have hentries : ∀ e ∈ [gloveEntry, sizeEntry, hueEntry], e.WellFormed :=
    List.forall_mem_cons.mpr ⟨wellFormed_gloveEntry, List.forall_mem_cons.mpr
      ⟨wellFormed_sizeEntry, List.forall_mem_cons.mpr ⟨wellFormed_hueEntry, by simp⟩⟩⟩
  have htypes : ∀ e ∈ [gloveEntry, sizeEntry, hueEntry], ∀ type identifier,
      e.declared = some (type, identifier) → '\n' ∉ type := by
    refine List.forall_mem_cons.mpr ⟨fun type name h => ?_, List.forall_mem_cons.mpr
      ⟨fun _ _ h => (by cases h), List.forall_mem_cons.mpr ⟨fun type name h => ?_, by simp⟩⟩⟩
    · obtain ⟨rfl, -⟩ := Prod.mk.inj (Option.some.inj h)
      decide +kernel
    · obtain ⟨rfl, -⟩ := Prod.mk.inj (Option.some.inj h)
      decide +kernel
  exact ⟨spaced_accessoryLines, ofSource_page (by decide)
    (List.all_eq_true.mp (by decide +kernel)) hentries htypes spaced_accessoryLines (.inr rfl)⟩

/-- A type that is broken over two lines. -/
def brokenEntry : Entry := ⟨"a", "b", some ("L<\n>", "x"), .compact⟩

lemma wellFormed_brokenEntry : brokenEntry.WellFormed := by
  refine ⟨by decide +kernel, by decide +kernel, by decide +kernel, fun type name h => ?_⟩
  obtain ⟨rfl, rfl⟩ := Prod.mk.inj (Option.some.inj h)
  exact ⟨⟨'L', [], '<' :: (['\n'] ++ ['>']), [], by decide +kernel, rfl, by simp,
      .bracketed (by simp), .nil⟩, ⟨'x', [], by decide +kernel, rfl, by simp⟩⟩

/-- A source in which a declaration runs over two lines. -/
def brokenSource : Text := join ['\n'] (page "A" [brokenEntry] ++ [("\x7d" : Text)]) ++ ['\n']

/-- A type that is broken over two lines is not found: neither line is a declaration. -/
theorem ofSource_brokenSource :
    brokenEntry.WellFormed ∧ Spaced (page "A" [brokenEntry]) (page "A" [brokenEntry]) ∧
    ofSource brokenSource = ⟨some "A", [.ofColumn "a" "b"]⟩ ∧
    ofSource brokenSource ≠ ⟨some "A", [brokenEntry].map Entry.field⟩ :=
  ⟨wellFormed_brokenEntry, .line (.line (.line .nil)), by decide +kernel, by decide +kernel⟩

end RuleSheet.Entity
