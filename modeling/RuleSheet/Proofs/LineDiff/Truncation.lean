import RuleSheet.Proofs.LineDiff.Method
import RuleSheet.Proofs.Text.Cuts

/-!
# Diffs that are cut short

A limit on the number of lines cuts off the end of a diff and changes nothing else.  This holds of
every sound method, for texts that consist of whole lines.

## Main definitions

* `RuleSheet.LineDiff.InWholeLines` — texts that consist of whole lines.
* `RuleSheet.LineDiff.shownLines` — the lines of a diff that start with certain signs.

## Main results

* `RuleSheet.LineDiff.lines_eq_map` — the lines of such a text.
* `RuleSheet.LineDiff.itemsText_of_le`, `itemsText_of_lt` — what a limit does to the items of a
  diff.
* `RuleSheet.LineDiff.shownLines_header_append` — each item of a diff is one line of it.
* `RuleSheet.LineDiff.compareBy_limited` — what a limit does to the comparison of two texts.
-/

set_option autoImplicit false

namespace RuleSheet.LineDiff

open Text

/-! ### Whole lines -/

/-- A text without carriage returns that ends with a line feed, unless there is nothing. -/
def InWholeLines (t : Text) : Prop := '\r' ∉ t ∧ (t = [] ∨ t.getLast? = some '\n')

instance (t : Text) : Decidable (InWholeLines t) := inferInstanceAs (Decidable (_ ∧ _))

/-- A text without the characters that end lines. -/
def Unended (t : Text) : Prop := '\n' ∉ t ∧ '\r' ∉ t

/-- A line ends at the first line feed. -/
lemma lines_append_newline {s : Text} (hs : Unended s) (t : Text) :
    lines (s ++ '\n' :: t) = (s ++ ['\n']) :: lines t := by
  induction s with
  | nil => simp [lines]
  | cons c s ih =>
    obtain ⟨hfeed, hreturn⟩ := hs
    rw [List.mem_cons, not_or] at hfeed hreturn
    rw [List.cons_append, lines, ih ⟨hfeed.2, hreturn.2⟩]
    · simp [Ne.symm hfeed.1, Ne.symm hreturn.1]
    · rintro rest rfl
      exact absurd rfl hreturn.1

/-- A text is made of its lines. -/
lemma flatten_lines (t : Text) : (lines t).flatten = t := by
  fun_induction lines t with
  | case1 => rfl
  | case2 rest ih => rw [List.flatten_cons, ih]; rfl
  | case3 c rest _ hc ih => rw [List.flatten_cons, ih]; rfl
  | case4 c rest _ hc hnil ih =>
    rw [hnil] at ih
    rw [← ih]
    rfl
  | case5 c rest _ hc line more hlines ih =>
    rw [hlines] at ih
    rw [← ih]
    rfl

/-- A text in whole lines was written line by line. -/
lemma InWholeLines.exists_pieces {t : Text} (h : InWholeLines t) :
    ∃ pieces : List Text, t = pieces.flatMap (· ++ ['\n']) ∧ ∀ piece ∈ pieces, Unended piece := by
  obtain ⟨hreturn, rfl | hlast⟩ := h
  · exact ⟨[], rfl, by simp⟩
  · obtain ⟨body, rfl⟩ := List.getLast?_eq_some_iff.mp hlast
    have hwhole : (body.splitOn '\n').flatMap (· ++ ['\n']) = body ++ ['\n'] := by
      rw [flatMap_concat (List.splitOn_ne_nil _ body), join, List.intercalate_splitOn]
    refine ⟨body.splitOn '\n', hwhole.symm, fun piece hpiece => ⟨?_, fun hin => ?_⟩⟩
    · exact not_mem_of_mem_splitOn hpiece
    · rw [← hwhole] at hreturn
      exact hreturn (List.mem_flatMap.mpr ⟨piece, hpiece, List.mem_append_left _ hin⟩)

/-- **The lines of a text in whole lines**, with their ends. -/
lemma lines_eq_map {t : Text} (h : InWholeLines t) :
    lines t = (Text.lines t).map (· ++ ['\n']) ∧ ∀ line ∈ Text.lines t, Unended line := by
  obtain ⟨pieces, rfl, hpieces⟩ := h.exists_pieces
  have hplain : Text.lines (pieces.flatMap (· ++ ['\n'])) = pieces :=
    lines_flatMap_concat (fun piece hpiece => (hpieces piece hpiece).1) fun piece hpiece =>
      dropReturn_of_not_mem (hpieces piece hpiece).2
  rw [hplain]
  refine ⟨?_, hpieces⟩
  clear hplain h
  induction pieces with
  | nil => rfl
  | cons piece pieces ih =>
    obtain ⟨hpiece, hrest⟩ := List.forall_mem_cons.mp hpieces
    rw [List.flatMap_cons, List.append_assoc, List.singleton_append, lines_append_newline hpiece,
      ih hrest, List.map_cons]

/-! ### Counting steps -/

/-- The line of a step. -/
def Change.line : Change → Text
  | .same line => line
  | .removed line => line
  | .added line => line

/-- The lines of steps are expected or actual lines. -/
lemma Leads.mem_line {changes : List Change} {expected actual : List Text}
    (h : Leads changes expected actual) {c : Change} (hc : c ∈ changes) :
    c.line ∈ expected ∨ c.line ∈ actual := by
  rw [← h.expected_eq, ← h.actual_eq, List.mem_filterMap, List.mem_filterMap]
  cases c with
  | same line => exact .inl ⟨_, hc, rfl⟩
  | removed line => exact .inl ⟨_, hc, rfl⟩
  | added line => exact .inr ⟨_, hc, rfl⟩

/-- The steps that take no line of a list, and the lines of the list. -/
lemma countP_add_length_filterMap {f : Change → Option Text} {p : Change → Bool}
    (h : ∀ c, (f c).isSome = !p c) (changes : List Change) :
    changes.countP p + (changes.filterMap f).length = changes.length := by
  have hother : (changes.filterMap f).length = changes.countP fun c => ¬ p c := by
    rw [List.length_filterMap_eq_countP]
    exact List.countP_congr fun c _ => by simp [h c]
  rw [hother]
  exact (List.length_eq_countP_add_countP p).symm

/-- **The lines of both are counted from either side**: what is left of the expected lines without
those removed is as much as what is left of the actual lines without those added. -/
lemma Leads.length_eq {changes : List Change} {expected actual : List Text}
    (h : Leads changes expected actual) :
    changes.countP Change.isRemoved ≤ expected.length ∧
      changes.countP Change.isAdded ≤ actual.length ∧
      expected.length - changes.countP Change.isRemoved =
        actual.length - changes.countP Change.isAdded := by
  obtain ⟨rfl, rfl⟩ := h
  have hexpected := countP_add_length_filterMap (f := Change.expected?) (p := Change.isAdded)
    (fun c => by cases c <;> rfl) changes
  have hactual := countP_add_length_filterMap (f := Change.actual?) (p := Change.isRemoved)
    (fun c => by cases c <;> rfl) changes
  have hremoved :
      changes.countP Change.isRemoved ≤ (changes.filterMap Change.expected?).length := by
    rw [List.length_filterMap_eq_countP]
    exact List.countP_mono_left fun c _ => by cases c <;> simp [Change.expected?, Change.isRemoved]
  omega

/-- Steps that neither remove nor add lines lead nowhere. -/
lemma Leads.eq_of_countP {changes : List Change} {expected actual : List Text}
    (h : Leads changes expected actual) (hremoved : changes.countP Change.isRemoved = 0)
    (hadded : changes.countP Change.isAdded = 0) : expected = actual := by
  rw [List.countP_eq_zero] at hremoved hadded
  rw [← h.expected_eq, ← h.actual_eq]
  refine List.filterMap_congr fun c hc => ?_
  cases c with
  | same line => rfl
  | removed line => exact absurd rfl (hremoved _ hc)
  | added line => exact absurd rfl (hadded _ hc)

/-! ### Items -/

/-- The text of an item. -/
def Item.text (color : Bool) : Item → Text
  | .gap => Style.cyan.paintIf color gapLine
  | .line c => c.text color

/-- The step that an item shows. -/
def Item.change? : Item → Option Change
  | .gap => none
  | .line c => some c

/-- Without a limit all items are shown. -/
lemma itemsText_none (color : Bool) (shown : List Item) :
    itemsText color none shown = shown.flatMap (Item.text color) := by
  induction shown with
  | nil => rfl
  | cons item shown ih => cases item <;> simp [itemsText, Item.text, ih]

/-- A limit that is large enough changes nothing. -/
lemma itemsText_of_le (color : Bool) {left : Nat} {shown : List Item}
    (h : (shown.filterMap Item.change?).length ≤ left) :
    itemsText color (some left) shown = itemsText color none shown := by
  induction shown generalizing left with
  | nil => rfl
  | cons item shown ih =>
    cases item with
    | gap => rw [itemsText, itemsText, ih h]
    | line c =>
      simp only [List.filterMap_cons, Item.change?, List.length_cons] at h
      have hleft : some left ≠ some 0 := by simp; omega
      rw [itemsText, itemsText, if_neg hleft, if_neg (by simp), Option.map_some, Option.map_none,
        ih (by omega)]

/-- **A limit cuts off the end.**  Everything before the first step beyond the limit is shown. -/
lemma itemsText_of_lt (color : Bool) {left : Nat} {shown : List Item}
    (h : left < (shown.filterMap Item.change?).length) :
    ∃ front, front <+: shown ∧ (front.filterMap Item.change?).length = left ∧
      itemsText color (some left) shown = itemsText color none front ++ truncation := by
  induction shown generalizing left with
  | nil => simp at h
  | cons item shown ih =>
    cases item with
    | gap =>
      obtain ⟨front, hfront, hcount, htext⟩ := ih h
      refine ⟨.gap :: front, List.cons_prefix_cons.mpr ⟨rfl, hfront⟩, hcount, ?_⟩
      rw [itemsText, itemsText, htext, List.append_assoc]
    | line c =>
      cases left with
      | zero => exact ⟨[], List.nil_prefix, rfl, rfl⟩
      | succ left =>
        simp only [List.filterMap_cons, Item.change?, List.length_cons] at h
        have hleft : left < (shown.filterMap Item.change?).length := by omega
        obtain ⟨front, hfront, hcount, htext⟩ := ih hleft
        refine ⟨.line c :: front, List.cons_prefix_cons.mpr ⟨rfl, hfront⟩, ?_, ?_⟩
        · simp [Item.change?, hcount]
        · rw [itemsText, itemsText, if_neg (by simp), if_neg (by simp), Option.map_some,
            Nat.add_sub_cancel, htext, Option.map_none, List.append_assoc]

/-- The items show the steps of the groups. -/
lemma filterMap_items (groups : List (List Change)) :
    (items groups).filterMap Item.change? = groups.flatten := by
  have hgroup : ∀ group : List Change, (group.map Item.line).filterMap Item.change? = group := by
    intro group
    rw [List.filterMap_map]
    exact List.filterMap_some
  unfold items
  induction groups with
  | nil => rfl
  | cons group groups ih =>
    cases groups with
    | nil => simp [List.intercalate, hgroup]
    | cons next groups =>
      rw [List.map_cons, List.map_cons, List.intercalate_cons_cons, ← List.map_cons,
        List.filterMap_append, List.filterMap_append, ih, hgroup, List.flatten_cons]
      exact congrArg (· ++ _) (List.append_nil group)

/-! ### Lines of a diff -/

/-- The number of lines of a diff, behind its first line, that start with one of some signs. -/
def shownLines (signs : List Char) (t : Text) : Nat :=
  ((Text.lines t).drop 1).countP fun line => line.head?.any (· ∈ signs)

/-- The sign that an item starts with. -/
def Item.sign : Item → Char
  | .gap => '@'
  | .line (.same _) => ' '
  | .line (.removed _) => '-'
  | .line (.added _) => '+'

/-- An item whose line is a whole line. -/
def Item.IsWhole (item : Item) : Prop :=
  ∀ c ∈ item.change?, ∃ line, c.line = line ++ ['\n'] ∧ Unended line

/-- Such an item takes one line. -/
lemma Item.IsWhole.exists_text {item : Item} (h : item.IsWhole) :
    ∃ rest, item.text false = item.sign :: (rest ++ ['\n']) ∧ Unended (item.sign :: rest) := by
  cases item with
  | gap => exact ⟨['@'], by decide, by decide, by decide⟩
  | line c =>
    obtain ⟨line, hline, hended⟩ := h c rfl
    have hwhole : isEnded (line ++ ['\n']) = true := by simp [isEnded]
    refine ⟨line, ?_, ?_⟩
    · cases c <;> cases hline <;>
        simp [Item.text, Change.text, ended, hwhole, Style.paintIf, Item.sign]
    · cases c <;> simpa [Unended, Item.sign] using hended

/-- **Each item is one line**, which starts with its sign. -/
lemma countP_lines (signs : List Char) {shown : List Item} (h : ∀ item ∈ shown, item.IsWhole) :
    (Text.lines (shown.flatMap (Item.text false))).countP (fun line => line.head?.any (· ∈ signs)) =
      shown.countP (·.sign ∈ signs) := by
  induction shown with
  | nil => rfl
  | cons item shown ih =>
    obtain ⟨hitem, hrest⟩ := List.forall_mem_cons.mp h
    obtain ⟨rest, htext, hended⟩ := hitem.exists_text
    rw [List.flatMap_cons, htext, ← List.cons_append, List.append_assoc, List.singleton_append,
      Text.lines_append_newline hended.1, dropReturn_of_not_mem hended.2,
      List.countP_cons, ih hrest, List.countP_cons]
    simp

/-- Each item of a diff is one line behind its first line. -/
lemma shownLines_header_append (signs : List Char) {shown : List Item}
    (h : ∀ item ∈ shown, item.IsWhole) :
    shownLines signs (header ++ shown.flatMap (Item.text false)) =
      shown.countP (·.sign ∈ signs) := by
  have hheader : header = header.dropLast ++ ['\n'] := by decide
  have hline : '\n' ∉ header.dropLast := by decide
  rw [shownLines, hheader, List.append_assoc, List.singleton_append,
    Text.lines_append_newline hline, List.drop_one, List.tail_cons, countP_lines signs h]

/-- The lines that show steps start with the signs for steps. -/
lemma countP_sign (shown : List Item) :
    shown.countP (·.sign ∈ ['-', '+', ' ']) = (shown.filterMap Item.change?).length := by
  rw [List.length_filterMap_eq_countP]
  refine List.countP_congr fun item _ => ?_
  rcases item with _ | ⟨line | line | line⟩ <;> simp [Item.sign, Item.change?]

/-- A diff ends with a line feed. -/
lemma getLast?_header_append {shown : List Item} (h : ∀ item ∈ shown, item.IsWhole) :
    (header ++ shown.flatMap (Item.text false)).getLast? = some '\n' := by
  rcases List.eq_nil_or_concat' shown with rfl | ⟨front, item, rfl⟩
  · decide
  · obtain ⟨rest, htext, -⟩ := (h item (by simp)).exists_text
    rw [List.flatMap_append, List.flatMap_singleton, htext, ← List.cons_append, ← List.append_assoc,
      ← List.append_assoc, List.getLast?_concat]

/-- A limit that is large enough changes nothing in a diff. -/
lemma header_append_of_le {shown : List Item} (h : ∀ item ∈ shown, item.IsWhole) {limit : Nat}
    (hle : shownLines ['-', '+', ' '] (header ++ shown.flatMap (Item.text false)) ≤ limit) :
    header ++ itemsText false (some limit) shown = header ++ shown.flatMap (Item.text false) := by
  rw [shownLines_header_append _ h, countP_sign] at hle
  rw [itemsText_of_le false hle, itemsText_none]

/-- A limit that is too small cuts a diff short at the end of a line. -/
lemma header_append_of_lt {shown : List Item} (h : ∀ item ∈ shown, item.IsWhole) {limit : Nat}
    (hlt : limit < shownLines ['-', '+', ' '] (header ++ shown.flatMap (Item.text false))) :
    ∃ front, front <+: header ++ shown.flatMap (Item.text false) ∧ front.getLast? = some '\n' ∧
      shownLines ['-', '+', ' '] front = limit ∧
      header ++ itemsText false (some limit) shown = front ++ truncation := by
  rw [shownLines_header_append _ h, countP_sign] at hlt
  obtain ⟨front, hfront, hcount, htext⟩ := itemsText_of_lt false hlt
  have hwhole : ∀ item ∈ front, item.IsWhole := fun item hitem => h item (hfront.subset hitem)
  refine ⟨header ++ front.flatMap (Item.text false), ?_, getLast?_header_append hwhole, ?_, ?_⟩
  · obtain ⟨rest, rfl⟩ := hfront
    rw [List.flatMap_append]
    exact (List.prefix_append_right_inj header).mpr (List.prefix_append _ _)
  · rw [shownLines_header_append _ hwhole, countP_sign, hcount]
  · rw [htext, itemsText_none, List.append_assoc]

section Compare

variable {m : Method} {expected actual : Text}

/-- The items of a comparison. -/
def itemsOf (m : Method) (context : Nat) (expected actual : Text) : List Item :=
  items (m.groups context (m.steps (lines expected) (lines actual)))

/-- The full diff of different texts, without colours. -/
lemma text_compareBy (hne : expected ≠ actual) (context : Nat) :
    (compareBy m ⟨false, context, 0⟩ expected actual).text =
      header ++ (itemsOf m context expected actual).flatMap (Item.text false) := by
  rw [← itemsText_none, compareBy, if_neg hne]
  rfl

/-- The diff with a limit. -/
lemma text_compareBy_of_pos (hne : expected ≠ actual) (context : Nat) {limit : Nat}
    (hlimit : 0 < limit) :
    (compareBy m ⟨false, context, limit⟩ expected actual).text =
      header ++ itemsText false (some limit) (itemsOf m context expected actual) := by
  have hsome : (if limit = 0 then none else some limit) = some limit := if_neg (by omega)
  rw [compareBy, if_neg hne, ← hsome]
  rfl

/-- The items of a comparison of texts in whole lines are whole lines. -/
lemma isWhole_itemsOf (hm : m.Sound) (hexpected : InWholeLines expected)
    (hactual : InWholeLines actual) (context : Nat) :
    ∀ item ∈ itemsOf m context expected actual, item.IsWhole := by
  intro item hitem c hc
  have hshown : c ∈ (m.groups context (m.steps (lines expected) (lines actual))).flatten := by
    rw [← filterMap_items]
    exact List.mem_filterMap.mpr ⟨item, hitem, hc⟩
  have hwhole : ∀ t, InWholeLines t → ∀ line ∈ lines t, ∃ s, line = s ++ ['\n'] ∧ Unended s := by
    intro t ht line hline
    obtain ⟨hlines, hended⟩ := lines_eq_map ht
    rw [hlines] at hline
    obtain ⟨s, hs, rfl⟩ := List.mem_map.mp hline
    exact ⟨s, rfl, hended s hs⟩
  rcases (hm.leads _ _).mem_line (hm.shows context _ _ hshown) with hline | hline
  · exact hwhole expected hexpected _ hline
  · exact hwhole actual hactual _ hline

/-- Steps of one kind that remove or add lines are all shown. -/
lemma countP_itemsOf (hm : m.Sound) (context : Nat) {sign : Char} {p : Change → Bool}
    (hp : ∀ c, p c = true → c.alters = true)
    (hsign : ∀ item : Item, item.sign = sign ↔ ∃ c, item.change? = some c ∧ p c = true) :
    (itemsOf m context expected actual).countP (·.sign ∈ [sign]) =
      (m.steps (lines expected) (lines actual)).countP p := by
  have halters : ∀ changes : List Change,
      (changes.filter Change.alters).countP p = changes.countP p := by
    intro changes
    rw [List.countP_filter]
    refine List.countP_congr fun c _ => ?_
    rw [Bool.and_eq_true]
    exact ⟨fun h => h.1, fun h => ⟨h, hp c h⟩⟩
  calc (itemsOf m context expected actual).countP (·.sign ∈ [sign])
      = ((itemsOf m context expected actual).filterMap Item.change?).countP p := by
        rw [List.countP_filterMap]
        refine List.countP_congr fun item _ => ?_
        rw [decide_eq_true_eq, List.mem_singleton, hsign]
        cases item.change? <;> simp
    _ = (m.groups context (m.steps (lines expected) (lines actual))).flatten.countP p := by
        rw [itemsOf, filterMap_items]
    _ = (m.steps (lines expected) (lines actual)).countP p := by
        rw [← halters, (hm.keeps context _ _).countP_eq, halters]

/-- Between different texts there is a change. -/
lemma one_le_changes (hm : m.Sound) (hne : expected ≠ actual) :
    1 ≤ (m.steps (lines expected) (lines actual)).countP Change.isAdded +
      (m.steps (lines expected) (lines actual)).countP Change.isRemoved := by
  by_contra hnone
  have hlines := (hm.leads (lines expected) (lines actual)).eq_of_countP (by omega) (by omega)
  apply hne
  rw [← flatten_lines expected, hlines, flatten_lines]

/-- **A limit cuts off the end of a diff and changes nothing else.**  Whatever the options, the
texts are found different, with the same numbers of lines added and removed; one of these is not
zero, and without those removed there are as many expected lines as there are actual lines without
those added.  The full diff shows them all.  With a limit it is shown as it is if it does not have
more lines than that, and otherwise as many of its lines are shown as the limit allows, up to the
end of a line. -/
theorem compareBy_limited (hm : m.Sound) (hne : expected ≠ actual)
    (hexpected : InWholeLines expected) (hactual : InWholeLines actual) :
    ∃ added removed,
      (∀ o, ∃ text, compareBy m o expected actual = ⟨false, text, added, removed⟩) ∧
      removed ≤ (Text.lines expected).length ∧ added ≤ (Text.lines actual).length ∧
      (Text.lines expected).length - removed = (Text.lines actual).length - added ∧
      1 ≤ added + removed ∧
      ∀ context, ∃ full, (compareBy m ⟨false, context, 0⟩ expected actual).text = full ∧
        shownLines ['-'] full = removed ∧ shownLines ['+'] full = added ∧
        ∀ limit, 0 < limit →
          (shownLines ['-', '+', ' '] full ≤ limit →
            (compareBy m ⟨false, context, limit⟩ expected actual).text = full) ∧
          (limit < shownLines ['-', '+', ' '] full →
            ∃ front, front <+: full ∧ front.getLast? = some '\n' ∧
              shownLines ['-', '+', ' '] front = limit ∧
              (compareBy m ⟨false, context, limit⟩ expected actual).text =
                front ++ truncation) := by
  have hlength : ∀ t, InWholeLines t → (lines t).length = (Text.lines t).length := by
    intro t ht
    rw [(lines_eq_map ht).1, List.length_map]
  obtain ⟨hremoved, hadded, hboth⟩ := (hm.leads (lines expected) (lines actual)).length_eq
  rw [hlength expected hexpected] at hremoved hboth
  rw [hlength actual hactual] at hadded hboth
  refine ⟨_, _, fun o => ⟨_, by rw [compareBy, if_neg hne]⟩, hremoved, hadded, hboth,
    one_le_changes hm hne, fun context => ⟨_, text_compareBy hne context, ?_⟩⟩
  have hwhole := isWhole_itemsOf hm hexpected hactual context
  refine ⟨?_, ?_, fun limit hlimit => ?_⟩
  · rw [shownLines_header_append _ hwhole]
    refine countP_itemsOf hm context (fun c hc => by simp [Change.alters, hc]) fun item => ?_
    rcases item with _ | ⟨line | line | line⟩ <;>
      simp [Item.sign, Item.change?, Change.isRemoved]
  · rw [shownLines_header_append _ hwhole]
    refine countP_itemsOf hm context (fun c hc => by simp [Change.alters, hc]) fun item => ?_
    rcases item with _ | ⟨line | line | line⟩ <;> simp [Item.sign, Item.change?, Change.isAdded]
  · rw [text_compareBy_of_pos hne context hlimit]
    exact ⟨header_append_of_le hwhole, header_append_of_lt hwhole⟩

end Compare

/-- Lines with changes around the middle one: the expected lines. -/
def smallLines : Text := "a\nb\nc\n"

/-- Lines with changes around the middle one: the actual lines. -/
def capitalLines : Text := "A\nb\nC\n"

/-- Two groups without context, and a limit that is used up with the first of them. -/
theorem compareBy_limited_groups :
    fewest.Sound ∧ smallLines ≠ capitalLines ∧ InWholeLines smallLines ∧ InWholeLines capitalLines ∧
      shownLines ['-', '+', ' '] (compare ⟨false, 0, 0⟩ smallLines capitalLines).text = 4 ∧
      ∃ front, front <+: (compare ⟨false, 0, 0⟩ smallLines capitalLines).text ∧
        front.getLast? = some '\n' ∧ shownLines ['-', '+', ' '] front = 2 ∧
        (compare ⟨false, 0, 2⟩ smallLines capitalLines).text = front ++ truncation := by
  have hne : smallLines ≠ capitalLines := by decide
  have hsmall : InWholeLines smallLines := by decide
  have hcapital : InWholeLines capitalLines := by decide
  have hcount : shownLines ['-', '+', ' ']
      (compare ⟨false, 0, 0⟩ smallLines capitalLines).text = 4 := by decide +kernel
  refine ⟨sound_fewest, hne, hsmall, hcapital, hcount, ?_⟩
  obtain ⟨_, _, -, -, -, -, -, hdiffs⟩ := compareBy_limited sound_fewest hne hsmall hcapital
  obtain ⟨_, rfl, -, -, hlimits⟩ := hdiffs 0
  exact (hlimits 2 (by decide)).2 (lt_of_lt_of_eq (by decide) hcount.symm)

end RuleSheet.LineDiff
