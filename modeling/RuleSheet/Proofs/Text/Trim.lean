import Mathlib.Data.List.DropRight
import RuleSheet.Text.Basic

/-!
# Trimming

A text is what trimming leaves of it, between the characters that trimming takes away.

## Main definitions

* `RuleSheet.Text.Bare` — a text that neither starts nor ends with a character of a class.

## Main results

* `RuleSheet.Text.trimBy_surround` — trimming takes away what surrounds a bare text.
* `RuleSheet.Text.forall_or_surround` — every text is a bare text in such surroundings, or there
  is nothing in it to keep.
* `RuleSheet.Text.trimEndBy_eq_rdropWhile` — trimming at the end, as a function on lists.
* `RuleSheet.Text.exists_trimEndBy`, `trimEndBy_eq_nil_or` — what trimming takes away at the end,
  and what it leaves there.
-/

set_option autoImplicit false

namespace RuleSheet.Text

variable {p : Char → Bool}

/-- A text that neither starts nor ends with a character of a class, and is not empty. -/
structure Bare (p : Char → Bool) (t : Text) : Prop where
  /-- The first character is not in the class. -/
  head : ∃ c rest, t = c :: rest ∧ p c = false
  /-- The last character is not in the class. -/
  last : ∃ front c, t = front ++ [c] ∧ p c = false

/-- A character outside of the class is bare. -/
lemma bare_singleton {c : Char} (hc : p c = false) : Bare p [c] :=
  ⟨⟨c, [], rfl, hc⟩, ⟨[], c, rfl, hc⟩⟩

/-- Bare texts with anything between them make a bare text. -/
lemma Bare.append {s u : Text} (hs : Bare p s) (hu : Bare p u) (t : Text) :
    Bare p (s ++ t ++ u) := by
  obtain ⟨c, rest, rfl, hc⟩ := hs.head
  obtain ⟨front, d, rfl, hd⟩ := hu.last
  exact ⟨⟨c, rest ++ t ++ (front ++ [d]), by simp, hc⟩, ⟨c :: rest ++ t ++ front, d, by simp, hd⟩⟩

/-- A bare text backwards is bare. -/
lemma Bare.reverse {t : Text} (h : Bare p t) : Bare p t.reverse := by
  obtain ⟨c, rest, hhead, hc⟩ := h.head
  obtain ⟨front, d, hlast, hd⟩ := h.last
  exact ⟨⟨d, front.reverse, by simp [hlast], hd⟩, ⟨rest.reverse, c, by simp [hhead], hc⟩⟩

/-! ### What trimming takes away -/

/-- Leading characters of the class are dropped in front of a bare text. -/
lemma dropWhile_append_bare {s t : Text} (hs : ∀ c ∈ s, p c = true) (ht : Bare p t) (u : Text) :
    (s ++ (t ++ u)).dropWhile p = t ++ u := by
  obtain ⟨c, rest, rfl, hc⟩ := ht.head
  rw [List.dropWhile_append_of_pos hs, List.cons_append, List.dropWhile_cons_of_neg (by simp [hc])]

/-- Leading characters of the class are taken in front of a bare text. -/
lemma takeWhile_append_bare {s t : Text} (hs : ∀ c ∈ s, p c = true) (ht : Bare p t) (u : Text) :
    (s ++ (t ++ u)).takeWhile p = s := by
  obtain ⟨c, rest, rfl, hc⟩ := ht.head
  rw [List.takeWhile_append_of_pos hs, List.cons_append, List.takeWhile_cons_of_neg (by simp [hc]),
    List.append_nil]

/-- Trimming takes away what surrounds a bare text. -/
lemma trimBy_surround {s t u : Text} (hs : ∀ c ∈ s, p c = true) (ht : Bare p t)
    (hu : ∀ c ∈ u, p c = true) : trimBy p (s ++ t ++ u) = t := by
  have hu' : ∀ c ∈ u.reverse, p c = true := fun c hc => hu c (List.mem_reverse.mp hc)
  have hback := dropWhile_append_bare hu' ht.reverse []
  unfold trimBy trimEndBy trimStartBy
  rw [List.append_assoc, dropWhile_append_bare hs ht, List.reverse_append]
  rw [List.append_nil] at hback
  rw [hback, List.reverse_reverse]

/-- Trimming takes away all of a text of the class. -/
lemma trimBy_of_forall {t : Text} (ht : ∀ c ∈ t, p c = true) : trimBy p t = [] := by
  have hnil : trimStartBy p t = [] := List.dropWhile_eq_nil_iff.mpr ht
  rw [trimBy, hnil]
  rfl

/-- The characters of the class at the end of a text, behind a bare one. -/
lemma reverse_takeWhile_surround {t u : Text} (s : Text) (ht : Bare p t)
    (hu : ∀ c ∈ u, p c = true) : ((s ++ t ++ u).reverse.takeWhile p).reverse = u := by
  have hu' : ∀ c ∈ u.reverse, p c = true := fun c hc => hu c (List.mem_reverse.mp hc)
  rw [List.reverse_append, List.reverse_append, takeWhile_append_bare hu' ht.reverse,
    List.reverse_reverse]

/-! ### What trimming leaves -/

/-- The first character of a text that is not in the class. -/
lemma exists_first {t : Text} (h : ∃ c ∈ t, p c = false) :
    ∃ s c rest, t = s ++ c :: rest ∧ (∀ d ∈ s, p d = true) ∧ p c = false := by
  induction t with
  | nil => simp at h
  | cons c t ih =>
    cases hc : p c with
    | false => exact ⟨[], c, t, rfl, by simp, hc⟩
    | true =>
      have ht : ∃ d ∈ t, p d = false := by
        obtain ⟨d, hd, hpd⟩ := h
        rcases List.mem_cons.mp hd with rfl | hd
        · rw [hc] at hpd
          cases hpd
        · exact ⟨d, hd, hpd⟩
      obtain ⟨s, d, rest, rfl, hs, hd⟩ := ih ht
      exact ⟨c :: s, d, rest, rfl, by simpa [hc] using hs, hd⟩

/-- A text that is not all of the class is a bare text between characters of the class. -/
lemma exists_surround {t : Text} (h : ∃ c ∈ t, p c = false) :
    ∃ s body u, t = s ++ body ++ u ∧ (∀ c ∈ s, p c = true) ∧ Bare p body ∧
      ∀ c ∈ u, p c = true := by
  obtain ⟨s, c, rest, rfl, hs, hc⟩ := exists_first h
  -- the last character outside of the class is the first one backwards
  obtain ⟨u, d, front, hrev, hu, hd⟩ :=
    exists_first (p := p) (t := (c :: rest).reverse) ⟨c, by simp, hc⟩
  have hbody : c :: rest = front.reverse ++ [d] ++ u.reverse := by
    rw [← List.reverse_reverse (c :: rest), hrev]
    simp
  refine ⟨s, front.reverse ++ [d], u.reverse, by rw [hbody, List.append_assoc s], hs, ⟨?_, ?_⟩,
    fun e he => hu e (List.mem_reverse.mp he)⟩
  · -- the body starts with what the whole starts with
    rcases hfront : front.reverse with _ | ⟨e, front'⟩
    · exact ⟨d, [], rfl, hd⟩
    · rw [hfront] at hbody
      obtain ⟨rfl, -⟩ := List.cons.inj hbody
      exact ⟨c, front' ++ [d], rfl, hc⟩
  · exact ⟨front.reverse, d, rfl, hd⟩

/-- Every text is of the class, or a bare text between characters of the class. -/
lemma forall_or_surround (p : Char → Bool) (t : Text) :
    (∀ c ∈ t, p c = true) ∨ ∃ s body u, t = s ++ body ++ u ∧ (∀ c ∈ s, p c = true) ∧ Bare p body ∧
      ∀ c ∈ u, p c = true := by
  by_cases h : ∃ c ∈ t, p c = false
  · exact .inr (exists_surround h)
  · refine .inl fun c hc => ?_
    by_contra hpc
    exact h ⟨c, hc, by simpa using hpc⟩

/-- Trimming leaves a bare text as it is. -/
lemma Bare.trimBy_eq {t : Text} (h : Bare p t) : trimBy p t = t := by
  have hnil : ∀ c ∈ ([] : Text), p c = true := by simp
  simpa using trimBy_surround hnil h hnil

/-- What a bare text starts with is trimmed at its end only. -/
lemma Bare.prefix_trimBy {t u : Text} (h : Bare p (t ++ u)) : trimBy p t <+: t := by
  rcases forall_or_surround p t with hall | ⟨s, body, v, rfl, hs, hbody, hv⟩
  · rw [trimBy_of_forall hall]
    exact List.nil_prefix
  · rw [trimBy_surround hs hbody hv]
    cases s with
    | nil => exact List.prefix_append body v
    | cons d s =>
      obtain ⟨c, rest, heq, hc⟩ := h.head
      obtain rfl : d = c := (List.cons.inj heq).1
      rw [hs d List.mem_cons_self] at hc
      cases hc

/-- A text that trimming leaves as it is, and that is not empty, is bare. -/
lemma bare_of_trimBy {t : Text} (h : trimBy p t = t) (hne : t ≠ []) : Bare p t := by
  rcases forall_or_surround p t with hall | ⟨s, body, u, rfl, hs, hbody, hu⟩
  · rw [trimBy_of_forall hall] at h
    exact absurd h.symm hne
  · rw [trimBy_surround hs hbody hu] at h
    rwa [h] at hbody

/-- Trimming takes away characters of the class in front. -/
lemma trimBy_append_left {s : Text} (hs : ∀ c ∈ s, p c = true) (t : Text) :
    trimBy p (s ++ t) = trimBy p t := by
  rw [trimBy, trimBy, trimStartBy, trimStartBy, List.dropWhile_append_of_pos hs]

/-- Trimming takes away a character of the class in front. -/
lemma trimBy_cons {c : Char} (hc : p c = true) (t : Text) : trimBy p (c :: t) = trimBy p t :=
  trimBy_append_left (s := [c]) (by simpa using hc) t

/-- Trimming takes away characters of the class behind. -/
lemma trimBy_append {u : Text} (hu : ∀ c ∈ u, p c = true) (t : Text) :
    trimBy p (t ++ u) = trimBy p t := by
  rcases forall_or_surround p t with hall | ⟨s, body, v, rfl, hs, hbody, hv⟩
  · have hwhole : ∀ c ∈ t ++ u, p c = true := List.forall_mem_append.mpr ⟨hall, hu⟩
    rw [trimBy_of_forall hall, trimBy_of_forall hwhole]
  · have hbehind : ∀ c ∈ v ++ u, p c = true := List.forall_mem_append.mpr ⟨hv, hu⟩
    rw [List.append_assoc, trimBy_surround hs hbody hbehind, trimBy_surround hs hbody hv]

/-! ### One end of a text -/

/-- What trimming the start leaves starts with a character outside of the class. -/
lemma not_of_trimStartBy {t rest : Text} {c : Char} (h : trimStartBy p t = c :: rest) :
    p c = false := by
  have hc := List.head_dropWhile_not p (by rw [trimStartBy] at h; rw [h]; simp : t.dropWhile p ≠ [])
  simp only [show t.dropWhile p = c :: rest from h, List.head_cons] at hc
  exact hc

/-- Trimming the end drops elements of a list from the right. -/
lemma trimEndBy_eq_rdropWhile (p : Char → Bool) (t : Text) : trimEndBy p t = t.rdropWhile p := rfl

/-- Trimming the end takes away characters of the class only. -/
lemma exists_trimEndBy (p : Char → Bool) (t : Text) :
    ∃ u, (∀ c ∈ u, p c = true) ∧ trimEndBy p t ++ u = t :=
  ⟨t.rtakeWhile p, fun _ => List.mem_rtakeWhile_imp, List.rdropWhile_append_rtakeWhile⟩

/-- Characters of the class at the end do not count. -/
lemma trimEndBy_append {u : Text} (hu : ∀ c ∈ u, p c = true) (t : Text) :
    trimEndBy p (t ++ u) = trimEndBy p t := by
  have hu' : ∀ c ∈ u.reverse, p c = true := fun c hc => hu c (List.mem_reverse.mp hc)
  rw [trimEndBy, trimEndBy, List.reverse_append, List.dropWhile_append_of_pos hu']

/-- Trimming the end takes away nothing before a character outside of the class. -/
lemma trimEndBy_append_cons {c : Char} (hc : p c = false) (s t : Text) :
    trimEndBy p (s ++ c :: t) = s ++ c :: trimEndBy p t := by
  simp [trimEndBy, List.dropWhile_append, hc]

/-- A character outside of the class stays at the end. -/
lemma getLast?_trimBy_concat {c : Char} (hc : p c = false) (t : Text) :
    (trimBy p (t ++ [c])).getLast? = some c := by
  have hstart : ∃ front, trimStartBy p (t ++ [c]) = front ++ [c] := by
    rw [trimStartBy, List.dropWhile_append]
    split
    · exact ⟨[], by simp [hc]⟩
    · exact ⟨_, rfl⟩
  obtain ⟨front, hfront⟩ := hstart
  have hend : ¬ p c = true := by simp [hc]
  rw [trimBy, hfront, trimEndBy_eq_rdropWhile, List.rdropWhile_concat_neg p front c hend,
    List.getLast?_concat]

/-- What trimming the end leaves ends with a character outside of the class. -/
lemma trimEndBy_eq_nil_or (p : Char → Bool) (t : Text) :
    trimEndBy p t = [] ∨ ∃ front c, trimEndBy p t = front ++ [c] ∧ p c = false := by
  rcases List.eq_nil_or_concat' (t.rdropWhile p) with hnil | ⟨front, c, heq⟩
  · exact .inl hnil
  · have hlast := List.rdropWhile_last_not p t (by simp [heq])
    exact .inr ⟨front, c, heq, by simpa [heq] using hlast⟩

end RuleSheet.Text
