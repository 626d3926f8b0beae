import RuleSheet.Java.Literal
import RuleSheet.Proofs.Guard.ReadBack

/-!
# String literals are read back

The literal of a text is decoded to that text and to no other, and the scans of conditions pass over
it as over one piece: they are in quotes behind its first character, and stay there up to its last.

## Main definitions

* `RuleSheet.Java.Escaped` — the inside of a literal, said without the function that writes it.
* `RuleSheet.Java.unescape` — the text that the inside of a literal stands for.

## Main results

* `RuleSheet.Java.unescape_eq_some_iff` — the inside of a literal is decoded exactly if it is
  written.
* `RuleSheet.Java.literal_injective` — different texts have different literals.
* `RuleSheet.Guard.LiteralBody.inside_of_front` — a scan does not leave a literal early.
* `RuleSheet.Java.closingFrom?_literal`, `splitFrom_literal`, `operatorFrom?_literal` — the three
  scans pass over a literal.
* `RuleSheet.Java.literal_readBack` — a literal is decoded to its text and ends where it ends.
-/

set_option autoImplicit false

namespace RuleSheet

open Text

/-! ### Decoding -/

namespace Java

/-- The inside of a literal: escapes of two characters, and characters that need none. -/
inductive Escaped : Text → Prop
  /-- Nothing. -/
  | nil : Escaped []
  /-- A character that stands for itself. -/
  | plain {c : Char} {t : Text} (hc : c ∉ ['\\', '"', '\n', '\t']) (ht : Escaped t) :
      Escaped (c :: t)
  /-- A backslash and the character that says what is meant. -/
  | escape {c : Char} {t : Text} (hc : c ∈ ['\\', '"', 'n', 't']) (ht : Escaped t) :
      Escaped ('\\' :: c :: t)

/-- What is meant by a character behind a backslash. -/
def meaning? (c : Char) : Option Char :=
  if c = '\\' ∨ c = '"' then some c
  else if c = 'n' then some '\n'
  else if c = 't' then some '\t'
  else none

/-- The text that the inside of a literal stands for. -/
def unescape : Text → Option Text
  | [] => some []
  | '\\' :: c :: rest => (meaning? c).bind fun d => (unescape rest).map (d :: ·)
  | c :: rest => if c ∈ ['\\', '"', '\n', '\t'] then none else (unescape rest).map (c :: ·)

/-- What a character is written as stands for that character. -/
lemma unescape_escape_append (c : Char) (t : Text) :
    unescape (escape c ++ t) = (unescape t).map (c :: ·) := by
  unfold escape
  split_ifs <;> simp_all [unescape, meaning?]

/-- What is meant by a character behind a backslash is written with that character. -/
lemma escape_of_meaning? {c d : Char} (h : meaning? c = some d) : escape d = ['\\', c] := by
  unfold meaning? at h
  split_ifs at h with hself hfeed htab
  · obtain rfl := Option.some.inj h
    rcases hself with rfl | rfl <;> rfl
  · obtain rfl := Option.some.inj h
    rw [hfeed]
    rfl
  · obtain rfl := Option.some.inj h
    rw [htab]
    rfl

/-- **Decoding undoes writing**, and decodes nothing that was not written.

**Proof sketch.** Writing is undone character by character.  Conversely the recursion of the decoder
is followed: each of its steps takes from the front what one character is written as. -/
lemma unescape_eq_some_iff (u s : Text) : unescape u = some s ↔ u = s.flatMap escape := by
  constructor
  · intro h
    fun_induction unescape u generalizing s with
    | case1 =>
      obtain rfl := Option.some.inj h
      rfl
    | case2 c rest ih =>
      obtain ⟨d, hd, hrest⟩ := Option.bind_eq_some_iff.mp h
      obtain ⟨t, ht, rfl⟩ := Option.map_eq_some_iff.mp hrest
      rw [List.flatMap_cons, escape_of_meaning? hd, ← ih t ht]
      rfl
    | case3 c rest _ hc => cases h
    | case4 c rest _ hc ih =>
      obtain ⟨t, ht, rfl⟩ := Option.map_eq_some_iff.mp h
      have hplain : escape c = [c] := by
        simp only [List.mem_cons, List.not_mem_nil, or_false, not_or] at hc
        simp [escape, hc]
      rw [List.flatMap_cons, hplain, ← ih t ht]
      rfl
  · rintro rfl
    induction s with
    | nil => rfl
    | cons c s ih => rw [List.flatMap_cons, unescape_escape_append, ih, Option.map_some]

/-- Different texts have different literals. -/
lemma literal_injective : Function.Injective literal := by
  intro s t h
  have hinside : s.flatMap escape = t.flatMap escape :=
    List.append_cancel_right (List.cons.inj h).2
  have hdecoded := (unescape_eq_some_iff _ t).mpr hinside
  rw [(unescape_eq_some_iff _ s).mpr rfl] at hdecoded
  exact Option.some.inj hdecoded

/-- What is written inside of a literal is escaped. -/
lemma escaped_flatMap (s : Text) : Escaped (s.flatMap escape) := by
  induction s with
  | nil => exact .nil
  | cons c s ih =>
    rw [List.flatMap_cons, escape]
    split_ifs with hback hquote hfeed htab
    · exact .escape (by simp) ih
    · exact .escape (by simp) ih
    · exact .escape (by simp) ih
    · exact .escape (by simp) ih
    · exact .plain (by simp [hback, hquote, hfeed, htab]) ih

/-- No line feed and no tabulation stands inside of a literal as it is. -/
lemma Escaped.not_mem {t : Text} (h : Escaped t) : '\n' ∉ t ∧ '\t' ∉ t := by
  induction h with
  | nil => simp
  | plain hc _ ih =>
    simp only [List.mem_cons, List.not_mem_nil, or_false, not_or] at hc
    simp [ih, Ne.symm hc.2.2.1, Ne.symm hc.2.2.2]
  | escape hc _ ih =>
    simp only [List.mem_cons, List.not_mem_nil, or_false] at hc
    rcases hc with rfl | rfl | rfl | rfl <;> simpa using ih

/-- The scans take it for the inside of a literal. -/
lemma Escaped.literalBody {t : Text} (h : Escaped t) : Guard.LiteralBody '"' t := by
  induction h with
  | nil => exact .nil
  | plain hc _ ih =>
    simp only [List.mem_cons, List.not_mem_nil, or_false, not_or] at hc
    exact .plain hc.2.1 hc.1 ih
  | escape _ _ ih => exact .escaped _ ih

end Java

/-! ### Scanning -/

namespace Guard

open Cursor

/-- Nothing that the search for the closing bracket minds: neither that bracket nor a comment. -/
def Passed (s : Cursor) (c : Char) (next : Option Char) : Prop :=
  ¬ (s = top ∧ c = ')') ∧ ¬ (s.quoting = .outside ∧ c = '/' ∧ next = some '*')

/-- The search for the closing bracket passes over a text with nothing that it minds. -/
lemma closingFrom?_passed {s : Cursor} {t u : Text} (h : Along Passed u.head? s t) :
    closingFrom? s.depth (.code s.quoting) (t ++ u) =
      (closingFrom? (s.after t).depth (.code (s.after t).quoting) u).map
        (Prod.map (t ++ ·) id) := by
  induction t generalizing s with
  | nil => exact Option.map_id'.symm
  | cons c t ih =>
    have hcomment : ¬ (s.quoting = .outside ∧ c = '/' ∧ (t ++ u).head? = some '*') := by
      rw [List.head?_append]
      exact h.1.2
    rw [List.cons_append, closingFrom?_cons h.1.1 hcomment, ih h.2, Option.map_map]
    rfl

/-- The quoting of a cursor does not depend on its brackets. -/
lemma quoting_after (s : Cursor) (t : Text) :
    (s.after t).quoting = t.foldl Quoting.step s.quoting := by
  induction t generalizing s with
  | nil => rfl
  | cons c t ih => rw [after_cons, ih, List.foldl_cons, step]

namespace LiteralBody

variable {quote : Char} {body : Text}

/-- **A scan does not leave a literal** before the quote behind its inside. -/
lemma inside_of_front (h : LiteralBody quote body) {front : Text} (hfront : front <+: body) :
    ∃ escaped, front.foldl Quoting.step (.inside quote false) = .inside quote escaped := by
  induction h generalizing front with
  | nil => exact ⟨false, by rw [List.prefix_nil.mp hfront]; rfl⟩
  | plain hquote hescape _ ih =>
    cases front with
    | nil => exact ⟨false, rfl⟩
    | cons d front =>
      obtain ⟨rfl, hrest⟩ := List.cons_prefix_cons.mp hfront
      simpa [Quoting.step, hquote, hescape] using ih hrest
  | escaped c _ ih =>
    rcases front with _ | ⟨d, _ | ⟨e, front⟩⟩
    · exact ⟨false, rfl⟩
    · obtain ⟨rfl, -⟩ := List.cons_prefix_cons.mp hfront
      exact ⟨true, by simp [Quoting.step]⟩
    · obtain ⟨rfl, hrest⟩ := List.cons_prefix_cons.mp hfront
      have hbehind := (List.cons_prefix_cons.mp hrest).2
      simpa [Quoting.step] using ih hbehind

end LiteralBody

end Guard

namespace Java

open Guard Cursor

variable (depth : Nat) (s : Text)

/-- A condition along the literal of a text: it has to hold of the quote that opens it, and in
quotes. -/
lemma along_literal {P : Cursor → Char → Option Char → Prop}
    (hopen : ∀ n, P ⟨depth, .outside⟩ '"' n)
    (hP : ∀ s c n, s.quoting ≠ .outside → P s c n) (next : Option Char) :
    Along P next ⟨depth, .outside⟩ (literal s) := by
  have hbody := (escaped_flatMap s).literalBody
  rw [literal, List.cons_append]
  refine ⟨hopen _, ?_⟩
  rw [step_quote rfl (by simp), along_append, hbody.after_eq]
  exact ⟨hbody.along hP _ _, hP _ _ _ (by simp), trivial⟩

/-- The literal of a text leaves the cursor where it was. -/
lemma after_literal : (⟨depth, .outside⟩ : Cursor).after (literal s) = ⟨depth, .outside⟩ := by
  have hbody := (escaped_flatMap s).literalBody
  rw [literal, List.cons_append, after_cons, after_append, step_quote rfl (by simp), hbody.after_eq]
  rfl

/-- The search for the closing bracket passes over a literal. -/
lemma closingFrom?_literal (rest : Text) :
    closingFrom? depth (.code .outside) (literal s ++ rest) =
      (closingFrom? depth (.code .outside) rest).map (Prod.map (literal s ++ ·) id) := by
  have hpassed : Along Passed rest.head? ⟨depth, .outside⟩ (literal s) := by
    refine along_literal depth s (fun n => by simp [Passed]) ?_ _
    intro cursor c n hq
    exact ⟨fun h => hq (congrArg Cursor.quoting h.1), fun h => hq h.1⟩
  have hclosing := closingFrom?_passed hpassed
  rwa [after_literal] at hclosing

/-- The split at logical operators passes over a literal. -/
lemma splitFrom_literal (rest : Text) :
    splitFrom depth .outside (literal s ++ rest) =
      Prod.map (literal s ++ ·) id (splitFrom depth .outside rest) := by
  have hseparator : Along NoSeparator rest.head? ⟨depth, .outside⟩ (literal s) := by
    refine along_literal depth s (fun n => by simp [NoSeparator]) ?_ _
    intro cursor c n hq h
    exact hq (congrArg Cursor.quoting h.1)
  have hsplit := splitFrom_append hseparator
  rwa [after_literal] at hsplit

/-- The search for a comparison operator passes over a literal. -/
lemma operatorFrom?_literal (before : Option Char) (rest : Text) :
    operatorFrom? before depth .outside (literal s ++ rest) =
      (operatorFrom? (some '"') depth .outside rest).map (Prod.map (literal s ++ ·) id) := by
  have hoperator : Along (fun s c _ => s = top → isOperatorChar c = false) none
      ⟨depth, .outside⟩ (literal s) := by
    refine along_literal depth s (fun n _ => by decide) ?_ _
    intro cursor c n hq h
    exact absurd (congrArg Cursor.quoting h) hq
  have hlast : (literal s).getLast?.or before = some '"' := by
    rw [literal, List.getLast?_concat, Option.some_or]
  have hsearch := operatorFrom?_append (u := rest) hoperator before
  rwa [after_literal, hlast] at hsearch

/-- **Behind a part of a literal** a scan is in quotes, unless the part is the whole literal. -/
lemma foldl_step_eq_outside_iff {s front : Text} (hfront : front <+: literal s) (hne : front ≠ []) :
    front.foldl Quoting.step .outside = .outside ↔ front = literal s := by
  obtain ⟨c, part, rfl⟩ := List.exists_cons_of_ne_nil hne
  obtain ⟨rfl, hpart⟩ := List.cons_prefix_cons.mp hfront
  rcases List.prefix_concat_iff.mp hpart with hwhole | hinside
  · have hfront : '"' :: part = literal s := congrArg ('"' :: ·) hwhole
    rw [hfront, ← quoting_after ⟨0, .outside⟩, after_literal]
    exact iff_of_true rfl rfl
  · have hopen : Quoting.outside.step '"' = .inside '"' false := rfl
    obtain ⟨escaped, hescaped⟩ := (escaped_flatMap s).literalBody.inside_of_front hinside
    rw [List.foldl_cons, hopen, hescaped]
    refine iff_of_false (by simp) fun hwhole => ?_
    have hlength : part.length = (s.flatMap escape).length + 1 := by
      rw [(List.cons.inj hwhole).2]
      exact List.length_append
    have hle := hinside.length_le
    omega

/-- **Literals are read back.**  Between its quotes a literal is escaped, without line feeds and
tabulations, and it is decoded to the text that it was written for, so no other text has this
literal. A scan that comes to it outside of quotes is outside of quotes again behind its last
character and nowhere before, so each of the three scans goes on behind the literal with the account
that it had. -/
theorem literal_readBack :
    ∃ inside, literal s = '"' :: (inside ++ ['"']) ∧
      Escaped inside ∧ '\n' ∉ inside ∧ '\t' ∉ inside ∧
      unescape inside = some s ∧ (∀ t, literal t = literal s → t = s) ∧
      (∀ front, front <+: literal s → front ≠ [] →
        (front.foldl Quoting.step .outside = .outside ↔ front = literal s)) ∧
      ∀ depth rest,
        closingFrom? depth (.code .outside) (literal s ++ rest) =
            (closingFrom? depth (.code .outside) rest).map (Prod.map (literal s ++ ·) id) ∧
          splitFrom depth .outside (literal s ++ rest) =
            Prod.map (literal s ++ ·) id (splitFrom depth .outside rest) ∧
          ∀ before, operatorFrom? before depth .outside (literal s ++ rest) =
            (operatorFrom? (some '"') depth .outside rest).map (Prod.map (literal s ++ ·) id) := by
  have hescaped := escaped_flatMap s
  refine ⟨s.flatMap escape, rfl, hescaped, hescaped.not_mem.1, hescaped.not_mem.2,
    (unescape_eq_some_iff _ s).mpr rfl, fun t h => literal_injective h,
    fun front => foldl_step_eq_outside_iff, fun depth rest => ?_⟩
  exact ⟨closingFrom?_literal depth s rest, splitFrom_literal depth s rest,
    fun before => operatorFrom?_literal depth s before rest⟩

end Java

end RuleSheet
