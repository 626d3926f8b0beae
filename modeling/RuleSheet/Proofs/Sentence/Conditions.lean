import RuleSheet.Proofs.NormalForm
import RuleSheet.Proofs.Text.Marks
import RuleSheet.Proofs.Text.Matching
import RuleSheet.Sentence.Clause

/-!
# The comparison in a condition line

A condition line is split at its first relation sign outside of corner brackets, so signs inside of
references are part of their names, and the right operand may hold anything, further signs and the
words at the end of the line included.  A line without such a sign, or with nothing on one side of
it, keeps its text and cannot be read.

## Main definitions

* `RuleSheet.relationSigns` — the signs that can stand between operands.
* `RuleSheet.Comparison.ShelteredFrom` — all signs of a text stand inside of corner brackets.
* `RuleSheet.Comparison.FirstSign` — the first sign that does not.
* `RuleSheet.ConditionLine` — what the condition lines for a text come to.

## Main results

* `RuleSheet.Comparison.splitFrom_eq_some_iff`, `splitFrom_eq_none_iff` — the split is at that sign.
* `RuleSheet.Comparison.ofText_eq` — white space around a text makes no difference to its split.
* `RuleSheet.Comparison.ofText_of_firstSign`, `ofText_eq_unread` — the comparison that a text makes.
* `RuleSheet.conditionLine_split` — the comparison in a condition line.
-/

set_option autoImplicit false

namespace RuleSheet

open Text

/-- The signs that can stand between operands. -/
def relationSigns : List Char := ['＝', '=', '≠']

/-- The relation that a sign stands for. -/
def relationOf (sign : Char) : Relation := if sign = '≠' then .notEqual else .equal

lemma Relation.ofChar?_of_mem {sign : Char} (h : sign ∈ relationSigns) :
    ofChar? sign = some (relationOf sign) := by
  simp only [relationSigns, List.mem_cons, List.not_mem_nil, or_false] at h
  rcases h with rfl | rfl | rfl <;> rfl

lemma Relation.ofChar?_of_not_mem {c : Char} (h : c ∉ relationSigns) : ofChar? c = none := by
  simp only [relationSigns, List.mem_cons, List.not_mem_nil, or_false, not_or] at h
  simp [ofChar?, h]

namespace Comparison

/-! ### The first sign -/

/-- All relation signs of a text stand inside of corner brackets, given the number of brackets that
are open before it. -/
def ShelteredFrom (depth : Nat) (t : Text) : Prop :=
  ∀ before sign after, t = before ++ sign :: after → sign ∈ relationSigns →
    0 < before.foldl Bracket.corner.depthAfter depth

lemma shelteredFrom_nil (depth : Nat) : ShelteredFrom depth [] := by
  intro before sign after h
  simp at h

lemma shelteredFrom_cons (depth : Nat) (c : Char) (t : Text) :
    ShelteredFrom depth (c :: t) ↔
      (c ∈ relationSigns → 0 < depth) ∧ ShelteredFrom (Bracket.corner.depthAfter depth c) t := by
  constructor
  · intro h
    refine ⟨h [] c t rfl, fun before sign after heq => ?_⟩
    exact h (c :: before) sign after (by rw [heq, List.cons_append])
  · rintro ⟨hc, ht⟩ before sign after heq hsign
    rcases List.cons_eq_append_iff.mp heq with ⟨rfl, hcons⟩ | ⟨before, rfl, rfl⟩
    · obtain ⟨rfl, -⟩ := List.cons.inj hcons
      exact hc hsign
    · exact ht before sign after rfl hsign

/-- The first relation sign of a text that stands outside of corner brackets, between the texts on
its sides. -/
structure FirstSign (t left : Text) (sign : Char) (right : Text) : Prop where
  /-- It stands between its sides. -/
  eq : t = left ++ sign :: right
  /-- It is a relation sign. -/
  mem : sign ∈ relationSigns
  /-- All brackets in front of it are closed. -/
  outside : Bracket.corner.depth left = 0
  /-- All signs in front of it stand inside of brackets. -/
  sheltered : ShelteredFrom 0 left

/-! ### The split -/

/-- At a sign outside of brackets the split is made. -/
lemma splitFrom_cons_of_mem {c : Char} (hc : c ∈ relationSigns) (t : Text) :
    splitFrom 0 (c :: t) = some ([], relationOf c, t) := by
  rw [splitFrom, if_pos rfl, Relation.ofChar?_of_mem hc]

/-- Any other character goes to the left side. -/
lemma splitFrom_cons {depth : Nat} {c : Char} (hc : c ∈ relationSigns → 0 < depth) (t : Text) :
    splitFrom depth (c :: t) =
      (splitFrom (Bracket.corner.depthAfter depth c) t).map
        fun (left, relation, right) => (c :: left, relation, right) := by
  have hnone : (if depth = 0 then Relation.ofChar? c else none) = none := by
    split
    next hdepth => exact Relation.ofChar?_of_not_mem fun hmem => by simpa [hdepth] using hc hmem
    next => rfl
  rw [splitFrom, hnone]

/-- The split is made at the first sign outside of brackets. -/
lemma splitFrom_eq_some_iff {depth : Nat} {t left right : Text} {relation : Relation} :
    splitFrom depth t = some (left, relation, right) ↔
      ∃ sign ∈ relationSigns, t = left ++ sign :: right ∧ relation = relationOf sign ∧
        left.foldl Bracket.corner.depthAfter depth = 0 ∧ ShelteredFrom depth left := by
  induction t generalizing depth left with
  | nil => simp [splitFrom]
  | cons c t ih =>
    by_cases hc : c ∈ relationSigns → 0 < depth
    · rw [splitFrom_cons hc, Option.map_eq_some_iff]
      constructor
      · rintro ⟨⟨left', relation', right'⟩, hsplit, heq⟩
        obtain ⟨rfl, rfl, rfl⟩ := by simpa using heq
        obtain ⟨sign, hmem, rfl, hrelation, hdepth, hleft⟩ := ih.mp hsplit
        exact ⟨sign, hmem, rfl, hrelation, hdepth, (shelteredFrom_cons _ _ _).mpr ⟨hc, hleft⟩⟩
      · rintro ⟨sign, hmem, heq, hrelation, hdepth, hleft⟩
        rcases List.cons_eq_append_iff.mp heq with ⟨rfl, hcons⟩ | ⟨left, rfl, rfl⟩
        · obtain ⟨rfl, -⟩ := List.cons.inj hcons
          exact absurd hdepth (hc hmem).ne'
        · have hrest := ((shelteredFrom_cons _ _ _).mp hleft).2
          exact ⟨_, ih.mpr ⟨sign, hmem, rfl, hrelation, hdepth, hrest⟩, rfl⟩
    · obtain ⟨hmem, hdepth⟩ := Classical.not_imp.mp hc
      obtain rfl : depth = 0 := by omega
      rw [splitFrom_cons_of_mem hmem]
      constructor
      · intro h
        obtain ⟨rfl, rfl, rfl⟩ := by simpa using h
        exact ⟨c, hmem, rfl, rfl, rfl, shelteredFrom_nil 0⟩
      · rintro ⟨sign, -, heq, rfl, -, hleft⟩
        rcases List.cons_eq_append_iff.mp heq with ⟨rfl, hcons⟩ | ⟨left, rfl, rfl⟩
        · obtain ⟨rfl, rfl⟩ := List.cons.inj hcons
          rfl
        · exact absurd ((shelteredFrom_cons _ _ _).mp hleft).1 hc

/-- No split is made if all signs stand inside of brackets. -/
lemma splitFrom_eq_none_iff {depth : Nat} {t : Text} :
    splitFrom depth t = none ↔ ShelteredFrom depth t := by
  induction t generalizing depth with
  | nil => exact iff_of_true rfl (shelteredFrom_nil depth)
  | cons c t ih =>
    rw [shelteredFrom_cons]
    by_cases hc : c ∈ relationSigns → 0 < depth
    · rw [splitFrom_cons hc, Option.map_eq_none_iff, ih, and_iff_right hc]
    · obtain ⟨hmem, hdepth⟩ := Classical.not_imp.mp hc
      obtain rfl : depth = 0 := by omega
      simp [splitFrom_cons_of_mem hmem, hmem]

lemma FirstSign.splitFrom {t left right : Text} {sign : Char} (h : FirstSign t left sign right) :
    splitFrom 0 t = some (left, relationOf sign, right) :=
  splitFrom_eq_some_iff.mpr ⟨sign, h.mem, h.eq, rfl, h.outside, h.sheltered⟩

/-! ### White space -/

/-- White space is no relation sign. -/
lemma not_isBlank_of_mem_relationSigns {c : Char} (h : c ∈ relationSigns) : isBlank c = false := by
  simp only [relationSigns, List.mem_cons, List.not_mem_nil, or_false] at h
  rcases h with rfl | rfl | rfl <;> decide

/-- White space in front of a text goes to the left side. -/
lemma splitFrom_blank_append {s : Text} (hs : ∀ c ∈ s, isBlank c = true) (depth : Nat) (t : Text) :
    splitFrom depth (s ++ t) =
      (splitFrom depth t).map fun (left, relation, right) => (s ++ left, relation, right) := by
  induction s with
  | nil => simp
  | cons c s ih =>
    obtain ⟨hc, hs⟩ := List.forall_mem_cons.mp hs
    have hsign : c ∈ relationSigns → 0 < depth := by
      intro hmem
      rw [not_isBlank_of_mem_relationSigns hmem] at hc
      cases hc
    rw [List.cons_append, splitFrom_cons hsign, Line.depthAfter_blank Line.visible_corner hc, ih hs,
      Option.map_map]
    rfl

/-- White space behind a text goes to the right side. -/
lemma splitFrom_append_blank {u : Text} (hu : ∀ c ∈ u, isBlank c = true) (depth : Nat) (t : Text) :
    splitFrom depth (t ++ u) =
      (splitFrom depth t).map fun (left, relation, right) => (left, relation, right ++ u) := by
  induction t generalizing depth with
  | nil => simpa [splitFrom] using splitFrom_blank_append hu depth []
  | cons c t ih =>
    by_cases hc : c ∈ relationSigns → 0 < depth
    · rw [List.cons_append, splitFrom_cons hc, splitFrom_cons hc, ih, Option.map_map,
        Option.map_map]
      rfl
    · obtain ⟨hmem, hdepth⟩ := Classical.not_imp.mp hc
      obtain rfl : depth = 0 := by omega
      rw [List.cons_append, splitFrom_cons_of_mem hmem, splitFrom_cons_of_mem hmem]
      rfl

/-- The comparison that a text makes, by its split: white space around the text makes no
difference. -/
lemma ofText_eq (t : Text) :
    ofText t =
      match splitFrom 0 t with
      | none => unread (trim t)
      | some (left, relation, right) =>
        if trim left = [] ∨ trim right = [] then unread (trim t)
        else of (trim left) relation (trim right) (trim t) := by
  rcases forall_or_surround isBlank t with hall | ⟨s, body, u, rfl, hs, hbody, hu⟩
  · have hnone : splitFrom 0 t = none := by
      have hsplit := splitFrom_blank_append hall 0 []
      rwa [List.append_nil] at hsplit
    rw [ofText, hnone, show trim t = [] from trimBy_of_forall hall]
    rfl
  · have htrim : trim (s ++ body ++ u) = body := trimBy_surround hs hbody hu
    rw [ofText, htrim, List.append_assoc, splitFrom_blank_append hs, splitFrom_append_blank hu]
    rcases splitFrom 0 body with _ | ⟨left, relation, right⟩
    · rfl
    · have hleft : trim (s ++ left) = trim left := trimBy_append_left hs left
      have hright : trim (right ++ u) = trim right := trimBy_append hu right
      simp only [Option.map_some, hleft, hright]

/-- A text with something on both sides of its first sign compares the two sides. -/
lemma ofText_of_firstSign {t left right : Text} {sign : Char} (h : FirstSign t left sign right)
    (hleft : trim left ≠ []) (hright : trim right ≠ []) :
    ofText t = of (trim left) (relationOf sign) (trim right) (trim t) := by
  rw [ofText_eq, h.splitFrom]
  exact if_neg (not_or.mpr ⟨hleft, hright⟩)

/-- A text without a sign outside of brackets, or with nothing on one side of the first, cannot be
read. -/
lemma ofText_eq_unread {t : Text}
    (h : ShelteredFrom 0 t ∨
      ∃ left sign right, FirstSign t left sign right ∧ (trim left = [] ∨ trim right = [])) :
    ofText t = unread (trim t) := by
  rw [ofText_eq]
  rcases h with hsheltered | ⟨left, sign, right, hsign, hempty⟩
  · rw [splitFrom_eq_none_iff.mpr hsheltered]
  · rw [hsign.splitFrom]
    exact if_pos hempty

end Comparison

/-! ### Lines -/

/-- What the condition lines for a text come to: behind each mark of a condition the same
comparison, and nothing is looked up. -/
structure ConditionLine (body : Text) (part : Comparison) : Prop where
  /-- Behind the mark for the start of a condition. -/
  opening : ∀ (tree : FileTree) (helpers : Helpers) (l : Lexicon),
    classify tree helpers ("》【条件】" ++ body ++ "のとき") l = (.opening part, l)
  /-- Behind the word for an alternative. -/
  or : ∀ (tree : FileTree) (helpers : Helpers) (l : Lexicon),
    classify tree helpers ("または、" ++ body ++ "のとき") l = (.continuation .or part, l)
  /-- Behind the word for a further requirement. -/
  and : ∀ (tree : FileTree) (helpers : Helpers) (l : Lexicon),
    classify tree helpers ("かつ、" ++ body ++ "のとき") l = (.continuation .and part, l)

/-- The words at the end of a line are its last ones, whatever stands in the text. -/
lemma comparison_append (body : Text) : Sentence.comparison (body ++ "のとき") = .ofText body := by
  rw [Sentence.comparison, cutLast?_append_mark]

/-- A further comparison is what its line comes to. -/
lemma classify_continuation {line : Text} {connective : Connective} {part : Comparison}
    (hopening : Sentence.opening? line = none)
    (hline : Sentence.continuation? line = some (.continuation connective part)) (tree : FileTree)
    (helpers : Helpers) (l : Lexicon) :
    classify tree helpers line l = (.continuation connective part, l) := by
  simp only [classify, recognize, rules, List.findSome?_cons, hopening, hline, Option.map_some,
    Option.map_none]
  rfl

/-- The condition lines for a text come to the comparison that the text makes. -/
lemma conditionLine_ofText (body : Text) : ConditionLine body (.ofText body) where
  opening tree helpers l := by
    have hline : Sentence.opening? ("》【条件】" ++ body ++ "のとき") = some (.opening (.ofText body)) := by
      rw [← comparison_append]
      rfl
    simp only [classify, recognize, rules, List.findSome?_cons, hline, Option.map_some]
    rfl
  or := classify_continuation rfl (by rw [← comparison_append]; rfl)
  and := classify_continuation rfl (by rw [← comparison_append]; rfl)

open Comparison in
/-- **Condition lines are split at the intended sign.**  If the operands on the sides of the first
sign outside of corner brackets are trimmed, the line comes to the comparison of just these
operands.  If there is no such sign, or nothing but white space on one side of it, the line cannot
be read and keeps its text. -/
theorem conditionLine_split :
    (∀ (left : Text) (sign : Char) (right : Text),
      FirstSign (left ++ sign :: right) left sign right →
      left ≠ [] → trim left = left → right ≠ [] → trim right = right →
      ConditionLine (left ++ sign :: right)
        (.of left (relationOf sign) right (left ++ sign :: right))) ∧
    (∀ body : Text,
      (ShelteredFrom 0 body ∨
        ∃ left sign right, FirstSign body left sign right ∧ (trim left = [] ∨ trim right = [])) →
      ConditionLine body (.unread (trim body))) := by
  constructor
  · intro left sign right hsign hleft htrimLeft hright htrimRight
    have hbare := (bare_of_trimBy htrimLeft hleft).append (bare_of_trimBy htrimRight hright) [sign]
    rw [List.append_assoc, List.singleton_append] at hbare
    have hwhole : trim (left ++ sign :: right) = left ++ sign :: right := hbare.trimBy_eq
    have hpart := ofText_of_firstSign hsign (htrimLeft.symm ▸ hleft) (htrimRight.symm ▸ hright)
    rw [htrimLeft, htrimRight, hwhole] at hpart
    exact hpart ▸ conditionLine_ofText _
  · intro body hbody
    exact ofText_eq_unread hbody ▸ conditionLine_ofText body

/-- A left operand with a sign inside of its reference. -/
def nestedLeft : Text := "項目「明細.(区分＝新)」"

/-- A right operand with a further sign, and with the words for the end of a line. -/
def markedRight : Text := "「*A」＝1のとき"

open Comparison in
/-- Neither a sign inside of a reference nor one behind the first is a place to split, and a line
without an operand in front of its sign cannot be read. -/
theorem conditionLine_split_nested :
    ConditionLine (nestedLeft ++ '≠' :: markedRight)
        (.of nestedLeft .notEqual markedRight (nestedLeft ++ '≠' :: markedRight)) ∧
      ConditionLine " 「区分＝新」 " (.unread "「区分＝新」") ∧
      ConditionLine "　＝1 " (.unread "＝1") := by
  have hnested : FirstSign (nestedLeft ++ '≠' :: markedRight) nestedLeft '≠' markedRight :=
    ⟨rfl, by decide, by decide, splitFrom_eq_none_iff.mp (by decide)⟩
  have hfirst : FirstSign "　＝1 " "　" '＝' "1 " :=
    ⟨by decide, by decide, by decide, splitFrom_eq_none_iff.mp (by decide)⟩
  refine ⟨?_, ?_, ?_⟩
  · exact conditionLine_split.1 _ _ _ hnested (by decide) (by decide) (by decide) (by decide)
  · exact conditionLine_split.2 _ (.inl (splitFrom_eq_none_iff.mp (by decide)))
  · exact conditionLine_split.2 _ (.inr ⟨_, _, _, hfirst, .inl (by decide)⟩)

end RuleSheet
