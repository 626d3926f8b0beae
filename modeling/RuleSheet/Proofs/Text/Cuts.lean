import Mathlib.Data.List.DropRight
import RuleSheet.Text.Basic

/-!
# Cuts and lines

A cut returns the texts on its sides, so a text is what its cuts return with the marks between them.
Likewise a text that is written line by line has these lines.

## Main results

* `RuleSheet.Text.after?_eq_some_iff`, `before?_eq_some_iff` — what follows or precedes a mark.
* `RuleSheet.Text.eq_of_cut?`, `eq_of_cutLast?`, `eq_of_cutBy?` — a text and its cuts.
* `RuleSheet.Text.cut?_append` — the first mark is not behind any mark.
* `RuleSheet.Text.infix_append_cons_iff` — a mark stands on one side of a character that it lacks.
* `RuleSheet.Text.trimStart_subset`, `trimEnd_subset`, `trim_subset` — trimming adds nothing.
* `RuleSheet.Text.infix_trim` — what trimming leaves stands in the text.
* `RuleSheet.Text.join_append_join`, `of_mem_join` — what pieces are joined to.
* `RuleSheet.Text.not_mem_of_mem_splitOn`, `splitOn_append` — the pieces of a text.
* `RuleSheet.Text.splitOn_flatMap_concat`, `lines_flatMap_concat` — pieces with an end each.
* `RuleSheet.Text.lines_append_newline`, `lines_of_not_mem` — the lines of a text, one by one.
* `RuleSheet.Text.lines_append_lines` — the lines before and after a line feed.
* `RuleSheet.Text.newline_not_mem_of_mem_lines` — a line stays on one line.
* `RuleSheet.Text.exists_mem_lines` — the first line starts with what the text starts with.
-/

set_option autoImplicit false

namespace RuleSheet.Text

/-! ### Marks -/

/-- What follows a mark at the start of a text. -/
lemma after?_eq_some_iff (mark t rest : Text) :
    after? mark t = some rest ↔ t = mark ++ rest := by
  induction mark generalizing t with
  | nil => simp [after?]
  | cons m mark ih =>
    cases t with
    | nil => simp [after?]
    | cons c t =>
      by_cases h : m = c
      · subst h
        simp [after?, ih]
      · simp [after?, h, Ne.symm h]

/-- What precedes a mark at the end of a text. -/
lemma before?_eq_some_iff (mark t front : Text) :
    before? mark t = some front ↔ t = front ++ mark := by
  have hreverse : t.reverse = mark.reverse ++ front.reverse ↔ t = front ++ mark := by
    rw [← List.reverse_append, List.reverse_inj]
  rw [← hreverse, ← after?_eq_some_iff, before?, Option.map_eq_some_iff]
  constructor
  · rintro ⟨rest, hrest, rfl⟩
    rw [hrest, List.reverse_reverse]
  · intro h
    exact ⟨front.reverse, h, List.reverse_reverse front⟩

/-- A text is what a cut returns, around the mark. -/
lemma eq_of_cut? {mark t before after : Text} (h : cut? mark t = some (before, after)) :
    t = before ++ mark ++ after := by
  induction t generalizing before with
  | nil =>
    rw [cut?] at h
    split at h
    next hmark =>
      obtain ⟨rfl, rfl⟩ := Prod.mk.inj (Option.some.inj h)
      simp [hmark]
    next => cases h
  | cons c t ih =>
    rw [cut?] at h
    split at h
    next rest hrest =>
      obtain ⟨rfl, rfl⟩ := Prod.mk.inj (Option.some.inj h)
      exact (after?_eq_some_iff _ _ _).mp hrest
    next =>
      obtain ⟨⟨before', after'⟩, hcut, heq⟩ := Option.map_eq_some_iff.mp h
      obtain ⟨rfl, rfl⟩ := Prod.mk.inj heq
      rw [ih hcut]
      rfl

/-- The first mark in a text is not behind any mark in it. -/
lemma cut?_append (mark t rest : Text) :
    ∃ before after, cut? mark (t ++ (mark ++ rest)) = some (before, after) ∧ before <+: t := by
  induction t with
  | nil =>
    have hafter : after? mark (mark ++ rest) = some rest := (after?_eq_some_iff _ _ _).mpr rfl
    rw [List.nil_append]
    cases hwhole : mark ++ rest with
    | nil => exact ⟨[], [], if_pos (List.append_eq_nil_iff.mp hwhole).1, List.prefix_rfl⟩
    | cons c t =>
      rw [hwhole] at hafter
      exact ⟨[], rest, by rw [cut?, hafter], List.prefix_rfl⟩
  | cons c t ih =>
    rw [List.cons_append, cut?]
    cases hafter : after? mark (c :: (t ++ (mark ++ rest))) with
    | some after => exact ⟨[], after, rfl, List.nil_prefix⟩
    | none =>
      obtain ⟨before, after, hcut, hstart⟩ := ih
      exact ⟨c :: before, after, by rw [hcut]; rfl, List.cons_prefix_cons.mpr ⟨rfl, hstart⟩⟩

/-- A text is what a cut at the last mark returns, around the mark. -/
lemma eq_of_cutLast? {mark t before after : Text} (h : cutLast? mark t = some (before, after)) :
    t = before ++ mark ++ after := by
  obtain ⟨⟨front, back⟩, hcut, heq⟩ := Option.map_eq_some_iff.mp h
  obtain ⟨rfl, rfl⟩ := Prod.mk.inj heq
  have hreverse := congrArg List.reverse (eq_of_cut? hcut)
  simpa using hreverse

/-- A text is what a cut at a character of a class returns, around the character. -/
lemma eq_of_cutBy? {p : Char → Bool} {t before after : Text} {d : Char}
    (h : cutBy? p t = some (before, d, after)) : t = before ++ d :: after := by
  induction t generalizing before with
  | nil => cases h
  | cons c t ih =>
    rw [cutBy?] at h
    split at h
    · obtain ⟨rfl, rfl, rfl⟩ := by simpa using h
      rfl
    · obtain ⟨⟨before', d', after'⟩, hcut, heq⟩ := Option.map_eq_some_iff.mp h
      obtain ⟨rfl, rfl, rfl⟩ := by simpa using heq
      rw [ih hcut]
      rfl

/-- A mark stands on one side of a character that it lacks. -/
lemma infix_append_cons_iff {mark : Text} {d : Char} (hd : d ∉ mark) (s u : Text) :
    mark <:+: s ++ d :: u ↔ mark <:+: s ∨ mark <:+: u := by
  have hnil : ∀ part, part <+: d :: u → d ∉ part → part = [] := by
    intro part hpart hmem
    cases part with
    | nil => rfl
    | cons c part =>
      obtain ⟨rfl, -⟩ := List.cons_prefix_cons.mp hpart
      exact absurd List.mem_cons_self hmem
  constructor
  · intro h
    rcases List.infix_append_iff.mp h with hs | hu | ⟨front, back, rfl, hfront, hback⟩
    · exact .inl hs
    · rcases List.infix_cons_iff.mp hu with hstart | hu
      · rw [hnil mark hstart hd]
        exact .inl List.nil_infix
      · exact .inr hu
    · obtain rfl := hnil back hback fun hmem => hd (List.mem_append_right front hmem)
      rw [List.append_nil]
      exact .inl hfront.isInfix
  · rintro (hs | hu)
    · exact hs.trans (List.prefix_append s _).isInfix
    · exact hu.trans ((List.suffix_cons d u).trans (List.suffix_append s _)).isInfix

/-- Trimming the start adds nothing. -/
lemma trimStart_subset (t : Text) : trimStart t ⊆ t := (List.dropWhile_sublist _).subset

/-- Trimming the end adds nothing. -/
lemma trimEnd_subset (t : Text) : trimEnd t ⊆ t := (List.rdropWhile_prefix isBlank t).subset

/-- What trimming leaves stands in the text. -/
lemma infix_trim (t : Text) : trim t <:+: t := by
  have hend : trimEnd (trimStart t) <+: trimStart t := List.rdropWhile_prefix isBlank _
  exact hend.isInfix.trans (List.dropWhile_suffix _).isInfix

/-- Trimming adds nothing. -/
lemma trim_subset (t : Text) : trim t ⊆ t := (infix_trim t).subset

/-! ### Joined pieces -/

section Join

variable {d : Char}

/-- A single piece. -/
lemma join_singleton (piece : Text) : join [d] [piece] = piece := List.intercalate_singleton

/-- One more piece in front. -/
lemma join_cons (piece : Text) {pieces : List Text} (hne : pieces ≠ []) :
    join [d] (piece :: pieces) = piece ++ d :: join [d] pieces := by
  rw [join, List.intercalate_cons_of_ne_nil hne, List.append_assoc]
  rfl

/-- What is joined starts with the first piece. -/
lemma exists_join_cons (d : Char) (piece : Text) (pieces : List Text) :
    ∃ rest, join [d] (piece :: pieces) = piece ++ rest := by
  cases pieces with
  | nil => exact ⟨[], by rw [join_singleton, List.append_nil]⟩
  | cons next pieces => exact ⟨_, join_cons piece (by simp)⟩

/-- Pieces in two parts, with any text between them. -/
lemma join_append_join (between : Text) {front back : List Text} (hfront : front ≠ [])
    (hback : back ≠ []) :
    join between (front ++ back) = join between front ++ (between ++ join between back) := by
  induction front with
  | nil => exact absurd rfl hfront
  | cons piece front ih =>
    cases front with
    | nil =>
      obtain ⟨next, more, rfl⟩ := List.exists_cons_of_ne_nil hback
      simp [join, List.intercalate_cons_cons]
    | cons next front =>
      have hnext := ih (by simp)
      simp only [join, List.cons_append, List.intercalate_cons_cons, List.append_assoc] at hnext ⊢
      rw [hnext]

/-- Pieces in two parts. -/
lemma join_append {front back : List Text} (hfront : front ≠ []) (hback : back ≠ []) :
    join [d] (front ++ back) = join [d] front ++ d :: join [d] back :=
  join_append_join [d] hfront hback

/-- What stands in joined pieces stands in one of them or between them. -/
lemma of_mem_join {between : Text} {pieces : List Text} {c : Char} (h : c ∈ join between pieces) :
    c ∈ between ∨ ∃ piece ∈ pieces, c ∈ piece := by
  induction pieces with
  | nil => simp [join, List.intercalate] at h
  | cons piece pieces ih =>
    cases pieces with
    | nil => exact .inr ⟨piece, by simp, by simpa [join, List.intercalate] using h⟩
    | cons next pieces =>
      rw [join, List.intercalate_cons_cons, List.append_assoc, List.mem_append,
        List.mem_append] at h
      rcases h with h | h | h
      · exact .inr ⟨piece, by simp, h⟩
      · exact .inl h
      · exact (ih h).imp_right fun ⟨other, hother, hc⟩ => ⟨other, List.mem_cons_of_mem _ hother, hc⟩

/-- Pieces with the separator behind each of them. -/
lemma flatMap_concat {pieces : List Text} (hne : pieces ≠ []) :
    pieces.flatMap (· ++ [d]) = join [d] pieces ++ [d] := by
  induction pieces with
  | nil => exact absurd rfl hne
  | cons piece pieces ih =>
    cases pieces with
    | nil => rw [List.flatMap_cons, List.flatMap_nil, List.append_nil, join_singleton]
    | cons next pieces =>
      rw [List.flatMap_cons, ih (by simp), join_cons piece (by simp), List.append_assoc,
        List.append_assoc, List.singleton_append, List.cons_append]

end Join

/-! ### Pieces of a text -/

section Split

variable {d : Char}

/-- The pieces do not hold the separator. -/
lemma not_mem_of_mem_splitOn {t piece : Text} (h : piece ∈ t.splitOn d) : d ∉ piece := by
  induction t generalizing piece with
  | nil =>
    obtain rfl := List.mem_singleton.mp h
    exact List.not_mem_nil
  | cons c t ih =>
    obtain ⟨first, more, hpieces⟩ := List.exists_cons_of_ne_nil (List.splitOn_ne_nil d t)
    rw [List.splitOn_cons_eq_if_modifyHead] at h
    rw [hpieces] at ih h
    split at h
    next =>
      rcases List.mem_cons.mp h with rfl | h
      · exact List.not_mem_nil
      · exact ih h
    next hc =>
      rcases List.mem_cons.mp h with rfl | h
      · rw [List.mem_cons, not_or]
        exact ⟨fun heq => hc (beq_iff_eq.mpr heq.symm), ih List.mem_cons_self⟩
      · exact ih (List.mem_cons_of_mem first h)

/-- What follows a text and does not hold the separator belongs to its last piece. -/
lemma splitOn_append {s u last : Text} {front : List Text} (h : s.splitOn d = front ++ [last])
    (hu : d ∉ u) : (s ++ u).splitOn d = front ++ [last ++ u] := by
  have hpieces : ∀ piece ∈ front ++ [last], d ∉ piece := by
    intro piece hpiece
    rw [← h] at hpiece
    exact not_mem_of_mem_splitOn hpiece
  have hwhole : join [d] (front ++ [last]) = s := by
    rw [← h]
    exact List.intercalate_splitOn d
  have hjoin : join [d] (front ++ [last ++ u]) = s ++ u := by
    rw [← hwhole]
    cases front with
    | nil => rw [List.nil_append, List.nil_append, join_singleton, join_singleton]
    | cons first front =>
      rw [join_append (by simp) (by simp), join_append (by simp) (by simp), join_singleton,
        join_singleton, List.append_assoc, List.cons_append]
  rw [← hjoin]
  refine List.splitOn_intercalate d (fun piece hpiece => ?_) (by simp)
  rcases List.mem_append.mp hpiece with hpiece | hpiece
  · exact hpieces piece (List.mem_append_left _ hpiece)
  · obtain rfl := List.mem_singleton.mp hpiece
    exact List.not_mem_append (hpieces last (by simp)) hu

/-- Pieces without the separator are found again before each separator. -/
lemma splitOn_flatMap_concat {pieces : List Text} (h : ∀ piece ∈ pieces, d ∉ piece) :
    (pieces.flatMap (· ++ [d])).splitOn d = pieces ++ [[]] := by
  cases pieces with
  | nil => rfl
  | cons piece pieces =>
    rw [flatMap_concat (by simp), List.splitOn_append_cons_self, join,
      List.splitOn_intercalate d h (by simp)]
    rfl

end Split

/-! ### Lines -/

/-- A line ends at the first line feed. -/
lemma lines_append_newline {s : Text} (hs : '\n' ∉ s) (t : Text) :
    lines (s ++ '\n' :: t) = dropReturn s :: lines t := by
  obtain ⟨first, more, hsplit⟩ := List.exists_cons_of_ne_nil (List.splitOn_ne_nil '\n' t)
  rw [lines, lines, List.splitOn_append_cons_self_of_not_mem hs, hsplit]
  rfl

/-- All pieces but the last ones are whole lines. -/
lemma linesOfPieces_append (pieces : List Text) {more : List Text} (hmore : more ≠ []) :
    linesOfPieces (pieces ++ more) = pieces.map dropReturn ++ linesOfPieces more := by
  induction pieces with
  | nil => rfl
  | cons piece pieces ih =>
    obtain ⟨next, others, hnext⟩ := List.exists_cons_of_ne_nil
      (List.append_ne_nil_of_right_ne_nil pieces hmore)
    rw [hnext] at ih
    rw [List.cons_append, hnext, linesOfPieces, ih]
    · rfl
    · simp

/-- The lines of a text that ends with a line feed are the pieces between line feeds. -/
lemma lines_concat_newline (t : Text) :
    lines (t ++ ['\n']) = (t.splitOn '\n').map dropReturn := by
  rw [lines, List.splitOn_append_cons_self, linesOfPieces_append _ (List.splitOn_ne_nil _ _)]
  exact List.append_nil _

/-- The lines of a text that was written line by line. -/
lemma lines_flatMap_concat {pieces : List Text} (h : ∀ piece ∈ pieces, '\n' ∉ piece)
    (hreturn : ∀ piece ∈ pieces, dropReturn piece = piece) :
    lines (pieces.flatMap (· ++ ['\n'])) = pieces := by
  cases pieces with
  | nil => rfl
  | cons piece pieces =>
    rw [flatMap_concat (by simp), lines_concat_newline, join,
      List.splitOn_intercalate '\n' h (by simp)]
    exact (List.map_congr_left hreturn).trans (List.map_id _)

/-- What follows a line feed has lines of its own. -/
lemma lines_append_lines (s t : Text) :
    lines (s ++ '\n' :: t) = lines (s ++ ['\n']) ++ lines t := by
  rw [lines_concat_newline, lines, lines, List.splitOn_append_cons_self,
    linesOfPieces_append _ (List.splitOn_ne_nil _ _)]

/-- A text without line feeds is one line. -/
lemma lines_of_not_mem {s : Text} (hs : '\n' ∉ s) (hne : s ≠ []) : lines s = [s] := by
  rw [lines, List.splitOn_eq_singleton hs, linesOfPieces, if_neg hne]

/-- A text without carriage returns loses none. -/
lemma dropReturn_of_not_mem {t : Text} (h : '\r' ∉ t) : dropReturn t = t := by
  unfold dropReturn
  split
  next hlast => exact absurd (List.mem_of_getLast? hlast) h
  next => rfl

/-- A line has no other characters than its piece. -/
lemma dropReturn_subset (t : Text) : dropReturn t ⊆ t := by
  unfold dropReturn
  split
  · exact (List.dropLast_sublist t).subset
  · exact List.Subset.refl t

/-- Lines come from pieces. -/
lemma exists_of_mem_linesOfPieces {line : Text} : ∀ {pieces : List Text},
    line ∈ linesOfPieces pieces → ∃ piece ∈ pieces, line ⊆ piece
  | [], h => by cases h
  | [last], h => by
    rw [linesOfPieces] at h
    split at h
    · cases h
    · obtain rfl := List.mem_singleton.mp h
      exact ⟨line, List.mem_singleton_self line, List.Subset.refl line⟩
  | piece :: next :: pieces, h => by
    rcases List.mem_cons.mp h with rfl | h
    · exact ⟨piece, List.mem_cons_self, dropReturn_subset piece⟩
    · obtain ⟨source, hsource, hsubset⟩ := exists_of_mem_linesOfPieces h
      exact ⟨source, List.mem_cons_of_mem piece hsource, hsubset⟩

/-- A line stays on one line. -/
lemma newline_not_mem_of_mem_lines {t line : Text} (h : line ∈ lines t) : '\n' ∉ line := by
  obtain ⟨piece, hpiece, hsubset⟩ := exists_of_mem_linesOfPieces h
  exact fun hmem => not_mem_of_mem_splitOn hpiece (hsubset hmem)

/-- A carriage return is dropped behind what does not end with one. -/
lemma prefix_dropReturn {mark : Text} (hmark : mark.getLast? ≠ some '\r') (s : Text) :
    mark <+: dropReturn (mark ++ s) := by
  rcases List.eq_nil_or_concat' s with rfl | ⟨front, last, rfl⟩
  · rw [List.append_nil, dropReturn]
    split
    next h => exact absurd h hmark
    next => exact List.prefix_rfl
  · rw [dropReturn]
    split
    · rw [← List.append_assoc, List.dropLast_concat]
      exact List.prefix_append mark front
    · exact List.prefix_append mark _

/-- The first line starts with what the text starts with, if that stays on one line. -/
lemma exists_mem_lines {mark : Text} (hline : '\n' ∉ mark) (hne : mark ≠ [])
    (hlast : mark.getLast? ≠ some '\r') (t : Text) : ∃ line ∈ lines (mark ++ t), mark <+: line := by
  by_cases hnewline : '\n' ∈ t
  · obtain ⟨front, rest, rfl, hfront⟩ := List.eq_append_cons_of_mem hnewline
    have hfirst : '\n' ∉ mark ++ front := List.not_mem_append hline hfront
    refine ⟨dropReturn (mark ++ front), ?_, prefix_dropReturn hlast front⟩
    rw [← List.append_assoc, lines_append_newline hfirst]
    exact List.mem_cons_self
  · have hwhole : '\n' ∉ mark ++ t := List.not_mem_append hline hnewline
    refine ⟨mark ++ t, ?_, List.prefix_append mark t⟩
    rw [lines_of_not_mem hwhole (List.append_ne_nil_of_left_ne_nil hne t)]
    exact List.mem_singleton_self _

end RuleSheet.Text
