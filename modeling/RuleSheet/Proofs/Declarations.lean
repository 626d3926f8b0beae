import RuleSheet.Proofs.Text.Trim
import RuleSheet.Proofs.Text.Cuts
import RuleSheet.Proofs.Text.Word

/-!
# Declarations read back

The header of a class and the declaration of a private field, written with single blanks between
their parts, are read as what they were written from.

## Main definitions

* `RuleSheet.Java.IsType` — the texts that can stand for a type: a name, which may have dots in it,
  type arguments in angle brackets, and array brackets.
* `RuleSheet.Java.IsIdentifier` — the names of fields.

## Main results

* `RuleSheet.Java.declaration?_private` — the declaration of a field is read back.
* `RuleSheet.Java.className?_header` — so is the name of a class.

## Design

Type arguments may hold angle brackets, blanks and line breaks themselves.  They end at the last
closing bracket in front of the semicolon, and what follows them in a written declaration has none.
-/

set_option autoImplicit false

namespace RuleSheet.Java

open Text

/-! ### Types and names -/

/-- Type arguments, or nothing. -/
inductive IsArguments : Text → Prop
  /-- There are none. -/
  | absent : IsArguments []
  /-- They stand in angle brackets, and have no semicolon and no equals sign. -/
  | bracketed {inside : Text} (h : ∀ c ∈ inside, c ≠ ';' ∧ c ≠ '=') :
      IsArguments ('<' :: (inside ++ ['>']))

/-- Array brackets, or nothing. -/
inductive IsBrackets : Text → Prop
  /-- There are none. -/
  | nil : IsBrackets []
  /-- One more pair. -/
  | cons {t : Text} (h : IsBrackets t) : IsBrackets ('[' :: ']' :: t)

/-- The characters after the first one in the name of a type. -/
def isTypePart (c : Char) : Bool := isWord c || c = '.'

/-- The texts that can stand for a type. -/
def IsType (t : Text) : Prop :=
  ∃ c name arguments brackets, t = (c :: name) ++ (arguments ++ brackets) ∧ isNameStart c = true ∧
    (∀ d ∈ name, isTypePart d = true) ∧ IsArguments arguments ∧ IsBrackets brackets

/-- The names of fields. -/
def IsIdentifier (t : Text) : Prop :=
  ∃ c rest, t = c :: rest ∧ isNameStart c = true ∧ ∀ d ∈ rest, isWord d = true

/-- A name consists of word characters. -/
lemma IsIdentifier.forall_isWord {t : Text} (h : IsIdentifier t) : ∀ d ∈ t, isWord d = true := by
  obtain ⟨c, rest, rfl, hc, hrest⟩ := h
  exact List.forall_mem_cons.mpr ⟨isWord_of_isNameStart hc, hrest⟩

/-- Blanks end before a name. -/
lemma trimStart_of_isNameStart {c : Char} (hc : isNameStart c = true) (t : Text) :
    trimStart (c :: t) = c :: t :=
  List.dropWhile_cons_of_neg (by simp [not_isBlank_of_isWord (isWord_of_isNameStart hc)])

/-- No blanks stand before a name. -/
lemma IsIdentifier.trimStart_append {t : Text} (h : IsIdentifier t) (rest : Text) :
    trimStart (t ++ rest) = t ++ rest := by
  obtain ⟨c, more, rfl, hc, -⟩ := h
  exact trimStart_of_isNameStart hc (more ++ rest)

/-- No blanks stand before a type. -/
lemma IsType.trimStart_append {t : Text} (h : IsType t) (rest : Text) :
    trimStart (t ++ rest) = t ++ rest := by
  obtain ⟨c, name, arguments, brackets, rfl, hc, -⟩ := h
  exact trimStart_of_isNameStart hc (name ++ (arguments ++ brackets) ++ rest)

/-- What follows a word and a blank, up to further blanks. -/
lemma afterWord?_append (word t : Text) :
    afterWord? word (word ++ ' ' :: t) = some (trimStart t) := by
  have hafter : after? word (word ++ ' ' :: t) = some (' ' :: t) :=
    (after?_eq_some_iff _ _ _).mpr rfl
  rw [afterWord?, hafter]
  rfl

/-! ### The parts of a declaration -/

/-- The array brackets of a type are read as a whole. -/
lemma dimensions_append {brackets : Text} (h : IsBrackets brackets) (t : Text) :
    dimensions (brackets ++ ' ' :: t) = (brackets, ' ' :: t) := by
  induction h with
  | nil => rfl
  | cons _ ih => rw [List.cons_append, List.cons_append, dimensions, ih]

/-- The name of a field is read up to the semicolon. -/
lemma declarator?_append (type : Text) {brackets name : Text} (hbrackets : IsBrackets brackets)
    (hname : IsIdentifier name) :
    declarator? type (brackets ++ ' ' :: (name ++ [';'])) =
      some ⟨type ++ brackets, name, none⟩ := by
  have hsemicolon : isWord ';' = false := by decide
  have htake := takeWhile_run hname.forall_isWord hsemicolon []
  have hdrop := dropWhile_run hname.forall_isWord hsemicolon []
  obtain ⟨c, rest, rfl, hc, -⟩ := hname
  have hblanks : afterBlanks? (' ' :: (c :: rest ++ [';'])) = some (c :: rest ++ [';']) :=
    congrArg some (trimStart_of_isNameStart hc (rest ++ [';']))
  rw [declarator?, dimensions_append hbrackets]
  show (afterBlanks? (' ' :: (c :: rest ++ [';']))).bind _ = _
  rw [hblanks]
  show (if isNameStart c = true then _ else _) = _
  rw [if_pos hc, htake, hdrop]
  rfl

/-- Where no closing angle bracket precedes the semicolon, type arguments cannot end. -/
lemma argumentEnds_of_forall {t : Text} (h : ∀ c ∈ t, c ≠ '>') (rest : Text) :
    argumentEnds (t ++ ';' :: rest) = [] := by
  induction t with
  | nil => rfl
  | cons c t ih =>
    have hc : c ≠ '>' := h c List.mem_cons_self
    rw [List.cons_append, argumentEnds, ih fun d hd => h d (List.mem_cons_of_mem c hd)]
    simp [hc]

/-- The longest type arguments end at the last closing angle bracket. -/
lemma head?_argumentEnds {inside t : Text} (hinside : ∀ c ∈ inside, c ≠ ';' ∧ c ≠ '=')
    (ht : ∀ c ∈ t, c ≠ '>') (rest : Text) :
    (argumentEnds (inside ++ '>' :: (t ++ ';' :: rest))).head? =
      some (inside ++ ['>'], t ++ ';' :: rest) := by
  induction inside with
  | nil =>
    rw [List.nil_append, argumentEnds, argumentEnds_of_forall ht]
    rfl
  | cons c inside ih =>
    obtain ⟨hsemicolon, hequals⟩ := hinside c List.mem_cons_self
    have hhead := ih fun d hd => hinside d (List.mem_cons_of_mem c hd)
    rw [List.cons_append, argumentEnds]
    simp only [hsemicolon, hequals, decide_false, Bool.or_self, Bool.false_eq_true, if_false]
    split
    · rw [List.head?_append, List.head?_map, hhead]
      rfl
    · rw [List.head?_map, hhead]
      rfl

/-- The first end that is tried decides if a declaration follows it. -/
lemma findSome?_of_head? {α β : Type} {f : α → Option β} {l : List α} {a : α} {b : β}
    (hl : l.head? = some a) (hf : f a = some b) : l.findSome? f = some b := by
  cases l with
  | nil => cases hl
  | cons x l =>
    obtain rfl := Option.some.inj hl
    rw [List.findSome?_cons, hf]

/-- The brackets of an array and the name of a field have no closing angle bracket. -/
lemma ne_angle_of_mem {brackets name : Text} (hbrackets : IsBrackets brackets)
    (hname : IsIdentifier name) : ∀ c ∈ brackets ++ ' ' :: name, c ≠ '>' := by
  have hangle : isWord '>' = false := by decide
  have hword : ∀ c ∈ name, c ≠ '>' := by
    rintro c hc rfl
    rw [hname.forall_isWord _ hc] at hangle
    cases hangle
  induction hbrackets with
  | nil => exact List.forall_mem_cons.mpr ⟨by decide, hword⟩
  | cons _ ih =>
    exact List.forall_mem_cons.mpr ⟨by decide, List.forall_mem_cons.mpr ⟨by decide, ih⟩⟩

/-! ### Types -/

/-- A type without arguments ends with its name. -/
lemma typeEnds_plain {name : Text} (hname : ∀ d ∈ name, isTypePart d = true) {c : Char}
    (hc : isTypePart c = false) (hangle : c ≠ '<') (t : Text) :
    typeEnds (name ++ c :: t) = [(name, c :: t)] := by
  have htake : (name ++ c :: t).takeWhile (fun c => isWord c || c = '.') = name :=
    takeWhile_run hname hc t
  have hdrop : (name ++ c :: t).dropWhile (fun c => isWord c || c = '.') = c :: t :=
    dropWhile_run hname hc t
  rw [typeEnds, htake, hdrop]
  split
  next rest hrest => exact absurd (List.cons.inj hrest).1 hangle
  next => rfl

/-- A type with arguments ends where they can end. -/
lemma typeEnds_arguments {name : Text} (hname : ∀ d ∈ name, isTypePart d = true) (t : Text) :
    typeEnds (name ++ '<' :: t) = (argumentEnds t).map fun e => (name ++ '<' :: e.1, e.2) := by
  have hangle : isTypePart '<' = false := by decide
  have htake : (name ++ '<' :: t).takeWhile (fun c => isWord c || c = '.') = name :=
    takeWhile_run hname hangle t
  have hdrop : (name ++ '<' :: t).dropWhile (fun c => isWord c || c = '.') = '<' :: t :=
    dropWhile_run hname hangle t
  rw [typeEnds, htake, hdrop]
  rfl

/-- The name of a type consists of its characters. -/
lemma forall_isTypePart {c : Char} {name : Text} (hc : isNameStart c = true)
    (hname : ∀ d ∈ name, isTypePart d = true) : ∀ d ∈ c :: name, isTypePart d = true := by
  refine List.forall_mem_cons.mpr ⟨?_, hname⟩
  rw [isTypePart, isWord_of_isNameStart hc]
  rfl

/-- Where the type of a declaration ends first. -/
lemma head?_typeEnds {head arguments brackets name : Text}
    (hhead : ∀ d ∈ head, isTypePart d = true) (harguments : IsArguments arguments)
    (hbrackets : IsBrackets brackets) (hname : IsIdentifier name) :
    (typeEnds (head ++ (arguments ++ (brackets ++ ' ' :: (name ++ [';']))))).head? =
      some (head ++ arguments, brackets ++ ' ' :: (name ++ [';'])) := by
  cases harguments with
  | absent =>
    rw [List.nil_append, List.append_nil]
    cases hbrackets with
    | nil =>
      rw [List.nil_append, typeEnds_plain hhead (by decide) (by decide)]
      rfl
    | cons h =>
      rw [List.cons_append, typeEnds_plain hhead (by decide) (by decide)]
      rfl
  | @bracketed inside hinside =>
    have hends := head?_argumentEnds hinside (ne_angle_of_mem hbrackets hname) []
    have hshape : inside ++ '>' :: (brackets ++ ' ' :: name ++ [';']) =
        inside ++ ['>'] ++ (brackets ++ ' ' :: (name ++ [';'])) := by simp
    rw [hshape] at hends
    rw [List.cons_append, typeEnds_arguments hhead, List.head?_map, hends]
    simp

/-- **A type and a name are read back.** -/
lemma typed?_append {type name : Text} (htype : IsType type) (hname : IsIdentifier name) :
    typed? (type ++ ' ' :: (name ++ [';'])) = some ⟨type, name, none⟩ := by
  obtain ⟨c, head, arguments, brackets, rfl, hc, hhead, harguments, hbrackets⟩ := htype
  have hends := head?_typeEnds (forall_isTypePart hc hhead) harguments hbrackets hname
  have hdeclarator := declarator?_append (c :: head ++ arguments) hbrackets hname
  have hfind := findSome?_of_head? (f := fun e => declarator? e.1 e.2) hends hdeclarator
  rw [List.append_assoc, List.append_assoc, List.cons_append, typed?, if_pos hc]
  rw [List.append_assoc] at hfind
  exact hfind

/-- A name and a semicolon are no declaration. -/
lemma typed?_name {name : Text} (hname : IsIdentifier name) : typed? (name ++ [';']) = none := by
  obtain ⟨c, rest, rfl, hc, hrest⟩ := hname
  have hparts : ∀ d ∈ c :: rest, isTypePart d = true :=
    forall_isTypePart hc fun d hd => by rw [isTypePart, hrest d hd]; rfl
  have hends : typeEnds (c :: rest ++ [';']) = [(c :: rest, [';'])] :=
    typeEnds_plain hparts (by decide) (by decide) []
  rw [List.cons_append, typed?, if_pos hc, ← List.cons_append, hends]
  rfl

/-! ### Whole lines -/

/-- What follows the name of a type is no part of it, and no blank unless the type ends there. -/
lemma exists_next {arguments brackets : Text} (harguments : IsArguments arguments)
    (hbrackets : IsBrackets brackets) (t : Text) :
    ∃ c rest, arguments ++ (brackets ++ ' ' :: t) = c :: rest ∧ isTypePart c = false ∧
      (isBlank c = true → rest = t) := by
  cases harguments with
  | absent =>
    cases hbrackets with
    | nil => exact ⟨' ', t, rfl, by decide, fun _ => rfl⟩
    | cons _ => exact ⟨'[', _, rfl, by decide, fun h => by cases h⟩
  | bracketed _ => exact ⟨'<', _, rfl, by decide, fun h => by cases h⟩

/-- A blank is no part of a type name. -/
lemma not_isTypePart_of_isBlank {c : Char} (h : isBlank c = true) : isTypePart c = false := by
  cases hpart : isTypePart c with
  | false => rfl
  | true =>
    rw [isTypePart, Bool.or_eq_true, decide_eq_true_eq] at hpart
    rcases hpart with hword | rfl
    · rw [not_isBlank_of_isWord hword] at h
      cases h
    · cases h

/-- If `final` can be read as a modifier, it is the whole type, and no other type follows. -/
lemma typed?_of_afterWord? {type name rest : Text} (htype : IsType type)
    (hname : IsIdentifier name)
    (h : afterWord? "final" (type ++ ' ' :: (name ++ [';'])) = some rest) : typed? rest = none := by
  obtain ⟨c, head, arguments, brackets, rfl, hc, hhead, harguments, hbrackets⟩ := htype
  obtain ⟨next, behind, hnext, hstop, hblank⟩ :=
    exists_next harguments hbrackets (name ++ [';'])
  rw [List.append_assoc, List.append_assoc, hnext] at h
  obtain ⟨u, hafter, hblanks⟩ := Option.bind_eq_some_iff.mp h
  rw [after?_eq_some_iff] at hafter
  cases u with
  | nil => cases hblanks
  | cons b u =>
    rw [afterBlanks?] at hblanks
    split at hblanks
    next hb =>
      -- the run of type characters ends at the same place on both sides
      have hleft := dropWhile_run (forall_isTypePart hc hhead) hstop behind
      have hfinal : ∀ d ∈ ("final" : Text), isTypePart d = true :=
        List.all_eq_true.mp (by decide)
      rw [hafter, dropWhile_run hfinal (not_isTypePart_of_isBlank hb)] at hleft
      obtain ⟨rfl, rfl⟩ := List.cons.inj hleft
      obtain rfl := hblank hb
      obtain rfl := Option.some.inj hblanks
      rw [hname.trimStart_append]
      exact typed?_name hname
    next => cases hblanks

/-- A declaration has no blanks at its ends. -/
lemma trim_private (type name : Text) :
    trim ("private " ++ type ++ " " ++ name ++ ";") = "private " ++ type ++ " " ++ name ++ ";" := by
  have hfirst : Bare isBlank ['p'] := bare_singleton (by decide)
  have hlast : Bare isBlank [';'] := bare_singleton (by decide)
  have hbare := (hfirst.append hlast ("rivate " ++ type ++ " " ++ name)).trimBy_eq
  simpa [trim] using hbare

/-- **The declaration of a private field is read back.** -/
lemma declaration?_private {type name : Text} (htype : IsType type) (hname : IsIdentifier name) :
    declaration? ("private " ++ type ++ " " ++ name ++ ";") = some ⟨type, name, none⟩ := by
  have hline : ("private " ++ type ++ " " ++ name ++ ";" : Text) =
      "private" ++ ' ' :: (type ++ ' ' :: (name ++ [';'])) := by
    simp
  rw [declaration?, trim_private, hline, afterWord?_append, htype.trimStart_append]
  show (Option.bind (afterWord? "final" _) typed? <|> typed? _) = _
  rw [typed?_append htype hname]
  cases hfinal : afterWord? "final" (type ++ ' ' :: (name ++ [';'])) with
  | none => rfl
  | some rest =>
    rw [Option.bind_some, typed?_of_afterWord? htype hname hfinal]
    rfl

/-- A header at the start of a line is found first. -/
lemma className?_of_classHeader? {t name : Text} (h : classHeader? t = some name) :
    className? t = some name := by
  cases t with
  | nil => cases h
  | cons c t =>
    rw [className?, h]
    rfl

/-- A text that starts with no modifier. -/
lemma afterModifiers_of_none {t : Text} (habstract : afterWord? "abstract" t = none)
    (hfinal : afterWord? "final" t = none) (bound : Nat) : afterModifiers bound t = t := by
  cases bound with
  | zero => rfl
  | succ bound =>
    rw [afterModifiers, habstract, hfinal]
    rfl

/-- **The header of a class is read back.** -/
lemma className?_header {name : Text} (hne : name ≠ []) (hname : ∀ c ∈ name, isWord c = true) :
    className? ("public class " ++ name ++ " \x7b") = some name := by
  have hline : ("public class " ++ name ++ " \x7b" : Text) =
      "public" ++ ' ' :: ("class" ++ ' ' :: (name ++ [' ', '\x7b'])) := by
    simp
  have hclass : trimStart ("class" ++ ' ' :: (name ++ [' ', '\x7b'])) =
      "class" ++ ' ' :: (name ++ [' ', '\x7b']) := by
    simp [trimStart, trimStartBy, isBlank]
  have hstart : trimStart (name ++ [' ', '\x7b']) = name ++ [' ', '\x7b'] := by
    cases name with
    | nil => exact absurd rfl hne
    | cons c name =>
      have hc := not_isBlank_of_isWord (hname c List.mem_cons_self)
      exact List.dropWhile_cons_of_neg (by simp [hc])
  have hmodifiers := afterModifiers_of_none
    (t := "class" ++ ' ' :: (name ++ [' ', '\x7b'])) (by simp [afterWord?, after?])
    (by simp [afterWord?, after?])
  have htake : (name ++ [' ', '\x7b']).takeWhile isWord = name :=
    takeWhile_run hname (by decide) ['\x7b']
  rw [hline]
  apply className?_of_classHeader?
  simp only [classHeader?, afterWord?_append, hclass, hmodifiers, hstart, htake, hne,
    Option.bind_eq_bind, Option.bind_some, if_false]

end RuleSheet.Java
