import RuleSheet.Lexicon
import RuleSheet.Proofs.CatalogMemory

/-!
# The types that a lexicon collects

A lexicon keeps the type of every field that was found under the expression that reads the field.
The catalog grows while it does so, entries replace each other, and files may change between two
questions; still every type in the index is that of a field which the catalog knows.

## Main definitions

* `RuleSheet.Lexicon.IsInstance` — the instance through which the fields of an entity are reached.
* `RuleSheet.Lexicon.Query` — an operand, a reference or a field, as a lexicon can be asked for it.
* `RuleSheet.Lexicon.Reads` — what a question changes, and which answer it gets.
* `RuleSheet.Lexicon.Sound` — every type in the index belongs to a field of a loaded entity.

## Main results

* `RuleSheet.Lexicon.reads_answer` — everything a question can do.
* `RuleSheet.Lexicon.Sound.after`, `Sound.afterAll` — a question, and a run of questions, keep the
  index sound.
* `RuleSheet.Lexicon.types_sound` — the index after every run of questions, and what one more
  question does to it.

## Design

`IsInstance` says which instance counts without naming the search that finds it, so the index is
measured against the configuration and not against the code that fills it.
-/

set_option autoImplicit false

namespace RuleSheet

open Text

/-! ### The smallest entry -/

namespace Dictionary

variable {α : Type}

/-- The first entry with a property has the smallest key of all that have it. -/
lemma least_of_first? {d : Dictionary α} {p : Text → α → Bool} {e : Text × α}
    (h : d.first? p = some e) {key : Text} {value : α} (hfind : d.find? key = some value)
    (hp : p key value = true) : key = e.1 ∨ precedes e.1 key = true := by
  have hmem := (find?_eq_some_iff d key value).mp hfind
  have hascending := d.ascending
  obtain ⟨-, before, behind, hentries, hbefore⟩ := List.find?_eq_some_iff_append.mp h
  rw [hentries] at hmem hascending
  rcases List.mem_append.mp hmem with hmem | hmem
  · -- the search has passed all entries before the one that it found
    have hnot := hbefore _ hmem
    simp [hp] at hnot
  · rcases List.mem_cons.mp hmem with heq | hmem
    · exact Or.inl (congrArg Prod.fst heq)
    · have hbehind := (List.pairwise_cons.mp (List.pairwise_append.mp hascending).2.1).1
      exact Or.inr (hbehind _ hmem)

end Dictionary

namespace Lexicon

/-! ### The instance of an entity -/

/-- No instance is configured for an identifier or for one that agrees with it. -/
def Unassigned (instances : Dictionary Text) (id : Text) : Prop :=
  instances.find? id = none ∧
    ∀ other name, instances.find? other = some name → Label.agree other id = false

/-- The instance through which the fields of an entity are reached, by the identifier that it was
loaded under. -/
inductive IsInstance (instances : Dictionary Text) (id : Text) (e : Entity) : Text → Prop
  /-- The identifier has an instance of its own. -/
  | own {name : Text} (h : instances.find? id = some name) : IsInstance instances id e name
  /-- The instance is that of the smallest identifier that agrees. -/
  | agreeing {other name : Text} (hown : instances.find? id = none)
      (hother : instances.find? other = some name) (hagree : Label.agree other id = true)
      (hleast : ∀ key value, instances.find? key = some value → Label.agree key id = true →
        key = other ∨ precedes other key = true) : IsInstance instances id e name
  /-- The class name with its first letter in lower case. -/
  | className {name : Text} (h : Unassigned instances id) (hclass : e.className = some name) :
      IsInstance instances id e (lowerFirst name)
  /-- The identifier itself. -/
  | identifier (h : Unassigned instances id) (hclass : e.className = none) :
      IsInstance instances id e id

/-- If a lexicon finds no configured instance, none is configured. -/
lemma unassigned_of_instanceFor? {l : Lexicon} {id : Text} (h : l.instanceFor? id = none) :
    Unassigned l.instances id := by
  rw [instanceFor?, Option.orElse_eq_orElse, Option.orElse_eq_or, Option.or_eq_none_iff,
    Option.map_eq_none_iff] at h
  exact ⟨h.1, fun other name hother => Dictionary.not_of_first?_eq_none h.2 hother⟩

/-- A lexicon reaches the fields of an entity through its instance. -/
lemma isInstance_ownerOf (l : Lexicon) (id : Text) (e : Entity) :
    IsInstance l.instances id e (l.ownerOf id e) := by
  rw [ownerOf]
  rcases hfor : l.instanceFor? id with _ | name
  · have hnone := unassigned_of_instanceFor? hfor
    rcases hclass : e.className with _ | name
    · simpa [Entity.instanceName, hclass] using IsInstance.identifier hnone hclass
    · simpa [Entity.instanceName, hclass] using IsInstance.className hnone hclass
  · show IsInstance l.instances id e name
    unfold instanceFor? at hfor
    rcases hown : l.instances.find? id with _ | own
    · rw [hown, Option.orElse_eq_orElse, Option.orElse_eq_or, Option.none_or] at hfor
      obtain ⟨entry, hfirst, rfl⟩ := Option.map_eq_some_iff.mp hfor
      obtain ⟨hother, hagree⟩ := Dictionary.find?_of_first? hfirst
      exact .agreeing hown hother hagree fun key value => Dictionary.least_of_first? hfirst
    · rw [hown] at hfor
      exact .own (hown.trans hfor)

/-! ### Questions -/

/-- What a lexicon can be asked for. -/
inductive Query where
  /-- The text of an operand. -/
  | operand (text : Text)
  /-- A reference. -/
  | reference (r : Reference)
  /-- The field of an entity, by its label. -/
  | field (id label : Text)

/-- The answer to a question, and the lexicon afterwards.  A field is answered by the expression
that reads it, with its type. -/
def answer (l : Lexicon) (tree : FileTree) : Query → Except Obstacle Meaning × Lexicon
  | .operand text => l.resolve tree text
  | .reference r => l.reference tree r
  | .field id label =>
    let (answer, after) := l.field tree id label
    (answer.map fun target => ⟨target.getterCall, some target.field.type⟩, after)

/-- The lexicon after a question, asked while the files are those of a tree. -/
def after (l : Lexicon) (asked : FileTree × Query) : Lexicon := (l.answer asked.1 asked.2).2

/-- The lexicon after some questions. -/
def afterAll (l : Lexicon) (history : List (FileTree × Query)) : Lexicon := history.foldl after l

/-- A type of the index is that of a field which the catalog knows, under the expression that reads
the field. -/
def Witnessed (c : Catalog) (instances : Dictionary Text) (expression : Text) (type : ValueType) :
    Prop :=
  ∃ id e f owner, c.loaded.find? id = some (some e) ∧ f ∈ e.fields ∧
    IsInstance instances id e owner ∧ type = f.type ∧
    expression = owner ++ "." ++ f.getter ++ "()"

/-- What a question changes, and which answer it gets. -/
inductive Reads (l : Lexicon) : Except Obstacle Meaning → Lexicon → Prop
  /-- The answer is no field.  Only the catalog may have changed. -/
  | plain {answer : Except Obstacle Meaning} {c : Catalog} (h : l.catalog.Extends c)
      (hanswer : ∀ meaning, answer = .ok meaning → meaning.type = none) :
      Reads l answer { l with catalog := c }
  /-- A field was found, and its type is recorded. -/
  | found {expression : Text} {type : ValueType} {c : Catalog} (h : l.catalog.Extends c)
      (hfound : Witnessed c l.instances expression type) :
      Reads l (.ok ⟨expression, some type⟩)
        { l with catalog := c, types := l.types.record expression type }

/-- An answer that needs no catalog. -/
lemma Reads.untyped (l : Lexicon) (expression : Text) : Reads l (.ok ⟨expression, none⟩) l :=
  .plain (Catalog.Extends.refl l.catalog) fun _ h => by cases h; rfl

/-- Everything that can happen when a field is looked up. -/
lemma reads_field (tree : FileTree) (l : Lexicon) (id label : Text) :
    Reads l ((l.field tree id label).1.map fun target =>
      ⟨target.getterCall, some target.field.type⟩) (l.field tree id label).2 := by
  have hextends : l.catalog.Extends (l.catalog.get tree id).2 :=
    Catalog.extends_ask l.catalog ⟨tree, id⟩
  have hloaded : (l.catalog.get tree id).2.loaded.find? id = some (l.catalog.get tree id).1 :=
    Catalog.find?_ask l.catalog ⟨tree, id⟩
  unfold field
  dsimp only
  generalize l.catalog.get tree id = got at hextends hloaded
  obtain ⟨found, c⟩ := got
  rcases found with _ | e
  · exact .plain hextends fun _ h => by cases h
  · dsimp only
    rcases hfield : e.fieldLabelled? label with _ | f
    · exact .plain hextends fun _ h => by cases h
    · have hmem : f ∈ e.fields := by
        unfold Entity.fieldLabelled? at hfield
        dsimp only at hfield
        split at hfield
        · cases hfield
        · exact List.mem_of_find?_eq_some hfield
      exact .found hextends ⟨id, e, f, _, hloaded, hmem, isInstance_ownerOf _ id e, rfl, rfl⟩

/-- Everything that can happen when a reference is looked up. -/
lemma reads_reference (tree : FileTree) (l : Lexicon) (r : Reference) :
    Reads l (l.reference tree r).1 (l.reference tree r).2 := by
  cases r with
  | field id label => exact reads_field tree l id label
  | «variable» category name => exact .untyped l _
  | flag name => exact .untyped l _

/-- **Everything that a question can do.** -/
lemma reads_answer (tree : FileTree) (l : Lexicon) (q : Query) :
    Reads l (l.answer tree q).1 (l.answer tree q).2 := by
  cases q with
  | operand text =>
    show Reads l (l.resolve tree text).1 (l.resolve tree text).2
    unfold resolve
    dsimp only
    split
    · exact reads_reference tree l _
    · split
      · exact .untyped l _
      · split
        · exact .untyped l _
        · exact .untyped l _
  | reference r => exact reads_reference tree l r
  | field id label => exact reads_field tree l id label

/-! ### The index is sound -/

/-- Every type in the index belongs to a field of a loaded entity. -/
def Sound (l : Lexicon) : Prop :=
  ∀ expression type, l.types.types.find? expression = some type →
    Witnessed l.catalog l.instances expression type

/-- A catalog that remembers more has the same witnesses. -/
lemma Witnessed.extend {c c' : Catalog} {instances : Dictionary Text} {expression : Text}
    {type : ValueType} (h : Witnessed c instances expression type) (hextends : c.Extends c') :
    Witnessed c' instances expression type := by
  obtain ⟨id, e, f, owner, hloaded, hrest⟩ := h
  exact ⟨id, e, f, owner, hextends id _ hloaded, hrest⟩

/-- A lexicon that has not been asked has an empty index. -/
lemma sound_ofCatalog (c : Catalog) (instances : Dictionary Text) :
    Sound (ofCatalog c instances) := fun _ _ h => by cases h

/-- **A question keeps the index sound.**

**Proof sketch.** The catalog only grows and the instances never change, so every old witness
remains one.  The one type that may be recorded has the field that was found as its witness, also
where it replaces the type of another field with the same expression. -/
lemma Sound.after {l : Lexicon} (h : Sound l) (asked : FileTree × Query) :
    Sound (l.after asked) := by
  have hreads := reads_answer asked.1 l asked.2
  rw [Lexicon.after]
  generalize l.answer asked.1 asked.2 = answered at hreads
  obtain ⟨given, l'⟩ := answered
  cases hreads with
  | plain hextends _ => exact fun expression type hfind => (h expression type hfind).extend hextends
  | @found recorded type' c hextends hfound =>
    intro expression type hfind
    by_cases heq : expression = recorded
    · subst heq
      have hnew : (l.types.types.insert expression type').find? expression = some type := hfind
      rw [Dictionary.find?_insert_self] at hnew
      obtain rfl := Option.some.inj hnew
      exact hfound
    · have hold : (l.types.types.insert recorded type').find? expression = some type := hfind
      rw [Dictionary.find?_insert_of_ne _ heq] at hold
      exact (h expression type hold).extend hextends

/-- A run of questions keeps the index sound. -/
lemma Sound.afterAll (history : List (FileTree × Query)) :
    ∀ {l : Lexicon}, Sound l → Sound (l.afterAll history) := by
  induction history with
  | nil => exact fun h => h
  | cons asked history ih => exact fun h => ih (h.after asked)

/-- A question never changes the instances. -/
lemma instances_after (l : Lexicon) (asked : FileTree × Query) :
    (l.after asked).instances = l.instances := by
  have hreads := reads_answer asked.1 l asked.2
  rw [after]
  generalize l.answer asked.1 asked.2 = answered at hreads
  obtain ⟨given, l'⟩ := answered
  cases hreads with
  | plain _ _ => rfl
  | found _ _ => rfl

/-- Nor does a run of questions. -/
lemma instances_afterAll (history : List (FileTree × Query)) :
    ∀ l : Lexicon, (l.afterAll history).instances = l.instances := by
  induction history with
  | nil => exact fun _ => rfl
  | cons asked history ih => exact fun l => (ih (l.after asked)).trans (instances_after l asked)

/-- A question that has no answer leaves the index as it is. -/
lemma types_of_error {tree : FileTree} {l : Lexicon} {q : Query} {reason : Obstacle}
    (h : (l.answer tree q).1 = .error reason) :
    (l.answer tree q).2.types = l.types := by
  have hreads := reads_answer tree l q
  rw [h] at hreads
  generalize (l.answer tree q).2 = l' at hreads
  cases hreads with
  | plain _ _ => rfl

/-- The type of a field that was found stands in the index. -/
lemma find?_of_typed {tree : FileTree} {l : Lexicon} {q : Query} {expression : Text}
    {type : ValueType} (h : (l.answer tree q).1 = .ok ⟨expression, some type⟩) :
    (l.answer tree q).2.types.types.find? expression = some type := by
  have hreads := reads_answer tree l q
  rw [h] at hreads
  generalize (l.answer tree q).2 = l' at hreads
  cases hreads with
  | plain _ hanswer => cases hanswer _ rfl
  | found _ _ => exact Dictionary.find?_insert_self _ _ _

/-- **The type index is sound.**  Let a lexicon over any catalog and instances be asked for any
operands, references and fields, each time over other files.  Then every type in its index is that
of a field of a loaded entity, under the expression that reads the field through the instance of
the entity.  One more question, if it finds a field, leaves the type of the field under its
expression, and if it has no answer, changes neither the index nor the instances. -/
theorem types_sound (c : Catalog) (instances : Dictionary Text)
    (history : List (FileTree × Query)) :
    let l := (ofCatalog c instances).afterAll history
    (∀ expression type, l.types.types.find? expression = some type →
      ∃ id e f owner, l.catalog.loaded.find? id = some (some e) ∧ f ∈ e.fields ∧
        IsInstance instances id e owner ∧ type = f.type ∧
        expression = owner ++ "." ++ f.getter ++ "()") ∧
    ∀ (tree : FileTree) (q : Query),
      (∀ expression type, (l.answer tree q).1 = .ok ⟨expression, some type⟩ →
        (l.answer tree q).2.types.types.find? expression = some type) ∧
      (∀ reason, (l.answer tree q).1 = .error reason →
        (l.answer tree q).2.types = l.types ∧ (l.answer tree q).2.instances = instances) := by
  intro l
  have hinstances : l.instances = instances := instances_afterAll history (ofCatalog c instances)
  have hsound : Sound l := Sound.afterAll history (sound_ofCatalog c instances)
  refine ⟨?_, fun tree q => ⟨fun _ _ => find?_of_typed, fun reason herror => ?_⟩⟩
  · rw [← hinstances]
    exact hsound
  · exact ⟨types_of_error herror, (instances_after l (tree, q)).trans hinstances⟩

end Lexicon

end RuleSheet
