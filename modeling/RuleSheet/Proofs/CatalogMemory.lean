import RuleSheet.Proofs.CatalogHistory

/-!
# The memory of a catalog

A catalog remembers every answer, found or not.  Files may change between two questions, and
entities may have been registered before the first one; still no answer is ever revised, and
identifiers that agree never come to different entities.

## Main definitions

* `RuleSheet.Catalog.withEntities` — a catalog with several registered entities.
* `RuleSheet.Catalog.Extends` — what one catalog remembers, another remembers as well.
* `RuleSheet.Catalog.Coherent` — identifiers that agree share their entity.

## Main results

* `RuleSheet.Catalog.extends_askAll` — a run of questions forgets nothing.
* `RuleSheet.Catalog.coherent_ask`, `coherent_askAll` — a question, and a run of questions, keep a
  coherent catalog coherent.
* `RuleSheet.Catalog.loadedCount_ask` — when a question adds an entity.
* `RuleSheet.Catalog.memory_permanent_and_coherent` — all of this for every catalog that comes about
  from configured sources and registered entities.
-/

set_option autoImplicit false

namespace RuleSheet

/-! ### The entries after an insertion -/

namespace Dictionary

variable {α : Type}

/-- An entry with a new key is added to the entries. -/
lemma insertEntry_perm {key : Text} (value : α) {entries : List (Text × α)}
    (h : valueOf? key entries = none) :
    (insertEntry key value entries).Perm ((key, value) :: entries) := by
  induction entries with
  | nil => exact List.Perm.refl _
  | cons e entries ih =>
    obtain ⟨k, a⟩ := e
    rw [valueOf?] at h
    rw [insertEntry]
    split at h
    next => cases h
    next hk =>
      rw [if_neg hk]
      split
      · exact List.Perm.refl _
      · exact ((ih h).cons (k, a)).trans (List.Perm.swap (key, value) (k, a) entries)

/-- A value under a new key is added to the values. -/
lemma values_insert_perm (d : Dictionary α) {key : Text} (value : α) (h : d.find? key = none) :
    (d.insert key value).values.Perm (value :: d.values) :=
  (insertEntry_perm value h).map Prod.snd

end Dictionary

namespace Catalog

/-! ### What is remembered stays -/

/-- A catalog with several registered entities, of which the later ones replace earlier ones. -/
def withEntities (c : Catalog) (registered : List (Text × Entity)) : Catalog :=
  registered.foldl (fun c r => c.withEntity r.1 r.2) c

/-- The second catalog remembers all that the first one does. -/
def Extends (c c' : Catalog) : Prop :=
  ∀ id answer, c.loaded.find? id = some answer → c'.loaded.find? id = some answer

lemma Extends.refl (c : Catalog) : Extends c c := fun _ _ h => h

lemma Extends.trans {c c' c'' : Catalog} (h : Extends c c') (h' : Extends c' c'') :
    Extends c c'' := fun id answer hid => h' id answer (h id answer hid)

/-- The answer to a question is remembered. -/
lemma find?_ask (c : Catalog) (q : Question) :
    (c.ask q).loaded.find? q.id = some (c.get q.tree q.id).1 := by
  rw [ask]
  rcases hfind : c.loaded.find? q.id with _ | answer
  · rw [get_of_find?_eq_none hfind, Dictionary.find?_insert_self]
  · rw [get_of_find? hfind, hfind]

/-- A question makes a catalog forget nothing. -/
lemma extends_ask (c : Catalog) (q : Question) : Extends c (c.ask q) := by
  intro id answer hid
  rw [ask]
  rcases hfind : c.loaded.find? q.id with _ | asked
  · have hne : id ≠ q.id := by
      rintro rfl
      rw [hfind] at hid
      cases hid
    rw [get_of_find?_eq_none hfind, Dictionary.find?_insert_of_ne _ hne, hid]
  · rw [get_of_find? hfind, hid]

/-- A run of questions makes a catalog forget nothing. -/
lemma extends_askAll (history : List Question) : ∀ c : Catalog, Extends c (c.askAll history) := by
  induction history with
  | nil => exact Extends.refl
  | cons q history ih => exact fun c => (extends_ask c q).trans (ih (c.ask q))

/-- The same question gets the same answer, whatever is asked between the two times and whatever
happens to the files. -/
lemma get_askAll_ask (c : Catalog) (q : Question) (between : List Question) (tree : FileTree) :
    (((c.ask q).askAll between).get tree q.id).1 = (c.get q.tree q.id).1 := by
  have hstays := extends_askAll between (c.ask q) q.id _ (find?_ask c q)
  rw [get_of_find? hstays]

/-! ### Identifiers that agree -/

/-- Identifiers that agree and have an entity have the same one. -/
def Coherent (c : Catalog) : Prop :=
  ∀ j j' e e', c.loaded.find? j = some (some e) → c.loaded.find? j' = some (some e') →
    Label.agree j j' = true → e = e'

/-- An answer can be added to a coherent catalog if it is the entity that agreeing identifiers
have already. -/
lemma Coherent.insert {c : Catalog} (h : Coherent c) {id : Text} {answer : Option Entity}
    (hnew : ∀ j e e', c.loaded.find? j = some (some e) → Label.agree j id = true →
      answer = some e' → e = e') :
    Coherent { c with loaded := c.loaded.insert id answer } := by
  intro j j' e e' hj hj' hagree
  by_cases hid : j = id
  · subst hid
    rw [Dictionary.find?_insert_self, Option.some.injEq] at hj
    by_cases hid' : j' = j
    · subst hid'
      rw [Dictionary.find?_insert_self, Option.some.injEq, hj, Option.some.injEq] at hj'
      exact hj'
    · rw [Dictionary.find?_insert_of_ne _ hid'] at hj'
      exact (hnew j' e' e hj' (Label.agree_symm hagree) hj).symm
  · rw [Dictionary.find?_insert_of_ne _ hid] at hj
    by_cases hid' : j' = id
    · subst hid'
      rw [Dictionary.find?_insert_self, Option.some.injEq] at hj'
      exact hnew j e e' hj hagree hj'
    · rw [Dictionary.find?_insert_of_ne _ hid'] at hj'
      exact h j j' e e' hj hj' hagree

/-- A coherent catalog looks up the entity that agreeing identifiers have already. -/
lemma Coherent.eq_of_lookUp {c : Catalog} (h : Coherent c) {tree : FileTree} {id j : Text}
    {e e' : Entity} (hj : c.loaded.find? j = some (some e)) (hagree : Label.agree j id = true)
    (hlook : c.lookUp tree id = some e') : e = e' := by
  rw [lookUp] at hlook
  rcases hrem : c.remembered? id with _ | found
  · -- nothing is taken from memory only if no agreeing identifier has an entity
    have hnot := not_agree_of_remembered? hrem hj
    rw [hagree] at hnot
    cases hnot
  · rw [hrem] at hlook
    obtain rfl := Option.some.inj hlook
    obtain ⟨j', hj', hagree'⟩ := find?_of_remembered? hrem
    exact h j j' e found hj hj' (Label.agree_trans hagree (Label.agree_symm hagree'))

/-- **One question keeps a catalog coherent.**

**Proof sketch.** Only a question that was not asked before changes the catalog.  Its answer is the
entity of an agreeing identifier if there is one (`Coherent.eq_of_lookUp`); an entity is loaded from
a source, the identifier's own or an agreeing one's, only if no agreeing identifier has one. -/
lemma coherent_ask {c : Catalog} (h : Coherent c) (q : Question) : Coherent (c.ask q) := by
  rw [ask]
  rcases hfind : c.loaded.find? q.id with _ | answer
  · rw [get_of_find?_eq_none hfind]
    exact h.insert fun j e e' hj hagree hlook => h.eq_of_lookUp hj hagree hlook
  · rw [get_of_find? hfind]
    exact h

/-- A run of questions keeps a catalog coherent. -/
lemma coherent_askAll (history : List Question) :
    ∀ c : Catalog, Coherent c → Coherent (c.askAll history) := by
  induction history with
  | nil => exact fun c h => h
  | cons q history ih => exact fun c h => ih (c.ask q) (coherent_ask h q)

/-- Before the first question, only registered identifiers have an answer. -/
lemma mem_of_find?_withEntities (sources : Dictionary Text) (registered : List (Text × Entity))
    {id : Text} (h : ((ofSources sources).withEntities registered).loaded.find? id ≠ none) :
    ∃ r ∈ registered, r.1 = id := by
  induction registered using List.reverseRecOn with
  | nil => exact absurd rfl h
  | append_singleton registered r ih =>
    by_cases hr : id = r.1
    · exact ⟨r, by simp, hr.symm⟩
    · rw [withEntities, List.foldl_append, List.foldl_cons, List.foldl_nil, withEntity,
        Dictionary.find?_insert_of_ne _ hr] at h
      obtain ⟨earlier, hmem, hearlier⟩ := ih h
      exact ⟨earlier, by simp [hmem], hearlier⟩

/-- Entities can be registered under identifiers with different keys. -/
lemma coherent_withEntities (sources : Dictionary Text) (registered : List (Text × Entity))
    (distinct : registered.Pairwise fun r s => Label.key r.1 ≠ Label.key s.1) :
    Coherent ((ofSources sources).withEntities registered) := by
  induction registered using List.reverseRecOn with
  | nil =>
    intro j j' e e' hj
    cases hj
  | append_singleton registered r ih =>
    obtain ⟨hearlier, -, hlast⟩ := List.pairwise_append.mp distinct
    rw [withEntities, List.foldl_append, List.foldl_cons, List.foldl_nil]
    refine (ih hearlier).insert fun j e e' hj hagree _ => ?_
    -- `j` is one of the earlier identifiers, and none of them agrees with the last one
    obtain ⟨s, hs, rfl⟩ := mem_of_find?_withEntities sources registered
      (ne_of_eq_of_ne hj (Option.some_ne_none _))
    exact absurd ((Label.agree_iff _ _).mp hagree).2 (hlast s hs r (List.mem_singleton_self r))

/-! ### Counting entities -/

/-- A question adds one entity if it is asked for the first time and gets one, and none
otherwise. -/
lemma loadedCount_ask (c : Catalog) (q : Question) :
    (c.ask q).loadedCount = c.loadedCount +
      if c.loaded.find? q.id = none ∧ (c.get q.tree q.id).1.isSome then 1 else 0 := by
  rw [ask]
  rcases hfind : c.loaded.find? q.id with _ | answer
  · rw [get_of_find?_eq_none hfind]
    simp only [loadedCount, true_and]
    rw [((Dictionary.values_insert_perm c.loaded (c.lookUp q.tree q.id) hfind).filter
      Option.isSome).length_eq, List.filter_cons]
    split <;> simp
  · rw [get_of_find? hfind]
    simp

/-- **The memory of a catalog is permanent and coherent.**  Take a catalog over configured sources,
with entities registered under identifiers of different keys, after any questions, between which
the files may have changed.  An answer, once given, is given again every later time; two
identifiers with the same key that have an entity have the same one, unless the key is empty; and a
question adds at most one entity and removes none. -/
theorem memory_permanent_and_coherent (sources : Dictionary Text)
    (registered : List (Text × Entity))
    (distinct : registered.Pairwise fun r s => Label.key r.1 ≠ Label.key s.1)
    (history : List Question) (c : Catalog)
    (reached : c = ((ofSources sources).withEntities registered).askAll history) :
    (∀ (q : Question) (between : List Question) (tree : FileTree),
      (((c.get q.tree q.id).2.askAll between).get tree q.id).1 = (c.get q.tree q.id).1) ∧
    (∀ j j' e e', c.loaded.find? j = some (some e) → c.loaded.find? j' = some (some e') →
      Label.key j = Label.key j' → Label.key j ≠ [] → e = e') ∧
    ∀ q : Question, c.loadedCount ≤ (c.get q.tree q.id).2.loadedCount ∧
      (c.get q.tree q.id).2.loadedCount ≤ c.loadedCount + 1 := by
  refine ⟨get_askAll_ask c, fun j j' e e' hj hj' hkey hne => ?_, fun q => ?_⟩
  · have hcoherent : Coherent c := by
      rw [reached]
      exact coherent_askAll history _ (coherent_withEntities sources registered distinct)
    exact hcoherent j j' e e' hj hj' ((Label.agree_iff j j').mpr ⟨hne, hkey⟩)
  · have hcount := loadedCount_ask c q
    rw [ask] at hcount
    split at hcount <;> omega

/-- No files at all. -/
def noFiles : FileTree := ⟨.empty⟩

/-- A catalog over the sources of two twins, with two registered entities, after a question for one
of the twins. -/
def askedTwins : Catalog :=
  ((ofSources twins).withEntities [(['B'], .empty), (['C'], .empty)]).askAll
    [⟨twinFiles, ['A', '.']⟩]

/-- When the files are gone, the other twin gets the entity that is remembered, and gets it again
when they are back. -/
theorem memory_askedTwins :
    [(['B'], Entity.empty), (['C'], Entity.empty)].Pairwise
        (fun r s => Label.key r.1 ≠ Label.key s.1) ∧
      (((askedTwins.get noFiles ['A']).2.askAll [⟨twinFiles, ['D']⟩]).get twinFiles ['A']).1 =
        some ⟨some ['b'], []⟩ ∧
      3 ≤ (askedTwins.get noFiles ['A']).2.loadedCount ∧
      (askedTwins.get noFiles ['A']).2.loadedCount ≤ 3 + 1 := by
  have hdistinct : [(['B'], Entity.empty), (['C'], Entity.empty)].Pairwise
      (fun r s => Label.key r.1 ≠ Label.key s.1) := by decide +kernel
  obtain ⟨hagain, -, hcount⟩ :=
    memory_permanent_and_coherent twins _ hdistinct [⟨twinFiles, ['A', '.']⟩] askedTwins rfl
  have hthree : askedTwins.loadedCount = 3 := by decide +kernel
  refine ⟨hdistinct, (hagain ⟨noFiles, ['A']⟩ [⟨twinFiles, ['D']⟩] twinFiles).trans ?_, ?_⟩
  · decide +kernel
  · rw [← hthree]
    exact hcount ⟨noFiles, ['A']⟩

end Catalog

end RuleSheet
