import RuleSheet.Text.Order

/-!
# Dictionaries

Finite maps from texts to values.  The entries are kept in ascending order of their keys, compared
character by character, so that "the first entry with a property" has one meaning.

## Main definitions

* `RuleSheet.Dictionary` — entries in ascending order of their keys.
* `RuleSheet.Dictionary.find?`, `insert`, `ofList` — look-up, insertion, and a dictionary from its
  entries.

## Main results

* `RuleSheet.Dictionary.find?_insert_self`, `find?_insert_of_ne` — what a look-up gives after an
  insertion.
-/

set_option autoImplicit false

namespace RuleSheet

/-- A finite map from texts, as entries in ascending order of their keys. -/
structure Dictionary (α : Type) where
  /-- The entries. -/
  entries : List (Text × α)
  /-- The keys ascend. -/
  ascending : entries.Pairwise fun a b => Text.precedes a.1 b.1 = true

namespace Dictionary

variable {α : Type}

/-- The value of the first entry with a key. -/
def valueOf? (key : Text) : List (Text × α) → Option α
  | [] => none
  | (k, a) :: rest => if k = key then some a else valueOf? key rest

/-- The entries with one more, in the place of an entry with the same key if there is one. -/
def insertEntry (key : Text) (value : α) : List (Text × α) → List (Text × α)
  | [] => [(key, value)]
  | (k, a) :: rest =>
    if k = key then (key, value) :: rest
    else if Text.precedes key k then (key, value) :: (k, a) :: rest
    else (k, a) :: insertEntry key value rest

theorem mem_insertEntry {key : Text} {value : α} {entries : List (Text × α)} {e : Text × α}
    (h : e ∈ insertEntry key value entries) : e = (key, value) ∨ e ∈ entries := by
  induction entries with
  | nil => simpa [insertEntry] using h
  | cons f rest ih =>
    obtain ⟨k, a⟩ := f
    rw [insertEntry] at h
    split at h
    · rcases List.mem_cons.mp h with rfl | h
      · exact Or.inl rfl
      · exact Or.inr (List.mem_cons_of_mem _ h)
    · split at h
      · rcases List.mem_cons.mp h with rfl | h
        · exact Or.inl rfl
        · exact Or.inr h
      · rcases List.mem_cons.mp h with rfl | h
        · exact Or.inr List.mem_cons_self
        · rcases ih h with h | h
          · exact Or.inl h
          · exact Or.inr (List.mem_cons_of_mem _ h)

theorem pairwise_insertEntry {key : Text} {value : α} {entries : List (Text × α)}
    (h : entries.Pairwise fun a b => Text.precedes a.1 b.1 = true) :
    (insertEntry key value entries).Pairwise fun a b => Text.precedes a.1 b.1 = true := by
  induction entries with
  | nil => simp [insertEntry]
  | cons f rest ih =>
    obtain ⟨k, a⟩ := f
    rw [List.pairwise_cons] at h
    rw [insertEntry]
    split
    next hk =>
      subst hk
      exact List.pairwise_cons.mpr h
    next hk =>
      split
      next hlt =>
        refine List.pairwise_cons.mpr ⟨?_, List.pairwise_cons.mpr h⟩
        intro e he
        rcases List.mem_cons.mp he with rfl | he
        · exact hlt
        · exact Text.precedes_trans hlt (h.1 e he)
      next hge =>
        refine List.pairwise_cons.mpr ⟨?_, ih h.2⟩
        intro e he
        rcases mem_insertEntry he with rfl | he
        · exact Text.precedes_of_not_precedes (Ne.symm hk) (Bool.eq_false_iff.mpr hge)
        · exact h.1 e he

/-- The dictionary without entries. -/
def empty : Dictionary α := ⟨[], List.Pairwise.nil⟩

instance : Inhabited (Dictionary α) := ⟨empty⟩

/-- The value of a key. -/
def find? (d : Dictionary α) (key : Text) : Option α := valueOf? key d.entries

/-- The dictionary with one more entry, which replaces an entry with the same key. -/
def insert (d : Dictionary α) (key : Text) (value : α) : Dictionary α :=
  ⟨insertEntry key value d.entries, pairwise_insertEntry d.ascending⟩

/-- A dictionary from its entries; of two entries with one key the later counts. -/
def ofList (entries : List (Text × α)) : Dictionary α :=
  entries.foldl (fun d (key, value) => d.insert key value) empty

/-- The number of entries. -/
def size (d : Dictionary α) : Nat := d.entries.length

/-- The values in ascending order of their keys. -/
def values (d : Dictionary α) : List α := d.entries.map (·.2)

/-- Every value replaced by its image. -/
def mapValues {β : Type} (f : α → β) (d : Dictionary α) : Dictionary β :=
  ⟨d.entries.map fun (key, value) => (key, f value), by
    rw [List.pairwise_map]
    exact d.ascending⟩

/-- The first entry with a property. -/
def first? (d : Dictionary α) (p : Text → α → Bool) : Option (Text × α) :=
  d.entries.find? fun (key, value) => p key value

/-! ### Look-up after insertion -/

theorem valueOf?_insertEntry_self (key : Text) (value : α) (entries : List (Text × α)) :
    valueOf? key (insertEntry key value entries) = some value := by
  induction entries with
  | nil => simp [insertEntry, valueOf?]
  | cons f rest ih =>
    obtain ⟨k, a⟩ := f
    rw [insertEntry]
    split
    · simp [valueOf?]
    · split
      · simp [valueOf?]
      · simp [valueOf?, *]

theorem valueOf?_insertEntry_of_ne {key other : Text} (h : other ≠ key) (value : α)
    (entries : List (Text × α)) :
    valueOf? other (insertEntry key value entries) = valueOf? other entries := by
  induction entries with
  | nil => simp [insertEntry, valueOf?, h.symm]
  | cons f rest ih =>
    obtain ⟨k, a⟩ := f
    rw [insertEntry]
    split
    next hk =>
      subst hk
      simp [valueOf?, h.symm]
    next hk =>
      split
      · simp [valueOf?, h.symm]
      · simp [valueOf?, ih]

@[simp] theorem find?_insert_self (d : Dictionary α) (key : Text) (value : α) :
    (d.insert key value).find? key = some value :=
  valueOf?_insertEntry_self key value d.entries

theorem find?_insert_of_ne (d : Dictionary α) {key other : Text} (h : other ≠ key) (value : α) :
    (d.insert key value).find? other = d.find? other :=
  valueOf?_insertEntry_of_ne h value d.entries

end Dictionary

end RuleSheet
