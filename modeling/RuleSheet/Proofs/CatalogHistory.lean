import Mathlib.Data.List.Induction
import RuleSheet.Entity.Catalog

/-!
# What a catalog answers after earlier questions

A catalog remembers its answers, and it takes an entity that it remembers under an agreeing
identifier before it looks at the configured sources.  So the answer for an identifier depends on
the questions asked before.  This module says how: all identifiers that agree share the entity that
was found first among them.

## Main definitions

* `RuleSheet.Catalog.Question` — an identifier, and the files at the time it is asked for.
* `RuleSheet.Catalog.Names` — a question that can settle the answer for an identifier.
* `RuleSheet.Catalog.firstFound?` — the entity found first in answer to such questions.
* `RuleSheet.Catalog.Settled` — what a catalog remembers about an identifier after some questions.

## Main results

* `RuleSheet.Catalog.settled_ask`, `settled_askAll` — a question, and a run of questions, keep what
  is settled.
* `RuleSheet.Catalog.get_eq_extract_iff` — exactly when an identifier with a source of its own is
  answered from it.
* `RuleSheet.Catalog.get_eq_extract_of_alone` — it always is if no other configured identifier
  agrees with it.
-/

set_option autoImplicit false

namespace RuleSheet

/-! ### Entries of dictionaries -/

namespace Text

/-- No text stands before itself. -/
lemma precedes_irrefl (t : Text) : precedes t t = false := by
  induction t with
  | nil => rfl
  | cons c t ih =>
    unfold precedes at ih
    simp [precedes, rowPrecedes, ih]

end Text

namespace Dictionary

variable {α : Type}

/-- A look-up finds exactly the entries. -/
lemma find?_eq_some_iff (d : Dictionary α) (key : Text) (value : α) :
    d.find? key = some value ↔ (key, value) ∈ d.entries := by
  obtain ⟨entries, ascending⟩ := d
  unfold find?
  induction entries with
  | nil => simp [valueOf?]
  | cons e entries ih =>
    obtain ⟨k, a⟩ := e
    rw [List.pairwise_cons] at ascending
    have htail := ih ascending.2
    simp only at htail
    rw [valueOf?, List.mem_cons, Prod.mk.injEq]
    by_cases hk : k = key
    · subst hk
      have hnot : (k, value) ∉ entries := by
        intro hmem
        have hlt := ascending.1 _ hmem
        rw [Text.precedes_irrefl] at hlt
        exact absurd hlt (by decide)
      simp [hnot, eq_comm]
    · rw [if_neg hk, htail]
      simp [Ne.symm hk]

/-- The first entry with a property is an entry with that property. -/
lemma find?_of_first? {d : Dictionary α} {p : Text → α → Bool} {e : Text × α}
    (h : d.first? p = some e) : d.find? e.1 = some e.2 ∧ p e.1 e.2 = true := by
  obtain ⟨key, value⟩ := e
  unfold first? at h
  have hp := List.find?_some h
  exact ⟨(find?_eq_some_iff d key value).mpr (List.mem_of_find?_eq_some h), hp⟩

/-- There is a first entry with a property if some entry has it. -/
lemma not_of_first?_eq_none {d : Dictionary α} {p : Text → α → Bool} (h : d.first? p = none)
    {key : Text} {value : α} (hfind : d.find? key = some value) : p key value = false := by
  unfold first? at h
  have hnot := List.find?_eq_none.mp h (key, value) ((find?_eq_some_iff d key value).mp hfind)
  simpa using hnot

end Dictionary

/-! ### Agreement of labels -/

namespace Label

/-- Labels agree if they have the same key and it is not empty. -/
lemma agree_iff (a b : Text) : agree a b = true ↔ key a ≠ [] ∧ key a = key b := by
  simp [agree]

lemma agree_symm {a b : Text} (h : agree a b = true) : agree b a = true := by
  rw [agree_iff] at h ⊢
  exact ⟨h.2 ▸ h.1, h.2.symm⟩

lemma agree_trans {a b c : Text} (h : agree a b = true) (h' : agree b c = true) :
    agree a c = true := by
  rw [agree_iff] at h h' ⊢
  exact ⟨h.1, h.2.trans h'.2⟩

end Label

namespace Catalog

/-! ### Questions -/

/-- An identifier, and the files at the time it is asked for. -/
structure Question where
  /-- The files. -/
  tree : FileTree
  /-- The identifier. -/
  id : Text

/-- The catalog after a question. -/
def ask (c : Catalog) (q : Question) : Catalog := (c.get q.tree q.id).2

/-- The catalog after some questions. -/
def askAll (c : Catalog) (history : List Question) : Catalog := history.foldl ask c

/-- The identifiers whose answers count for an identifier: itself, and those that agree with it. -/
def Names (asked id : Text) : Prop := asked = id ∨ Label.agree asked id = true

instance (asked id : Text) : Decidable (Names asked id) := inferInstanceAs (Decidable (_ ∨ _))

/-- The questions for identifiers that were not asked for before. -/
def fresh : List Question → List Question
  | [] => []
  | q :: history => q :: (fresh history).filter fun later => later.id ≠ q.id

/-- The entity that was found first in answer to questions that count for an identifier.  A
question asked a second time gets the answer that is remembered, so it counts only once. -/
def firstFound? (sources : Dictionary Text) (id : Text) (history : List Question) :
    Option Entity :=
  (fresh history).findSome? fun q =>
    if Names q.id id then (ofSources sources).load? q.tree q.id else none

/-- One more question is among the fresh ones if its identifier was not asked for. -/
lemma fresh_concat (history : List Question) (q : Question) :
    fresh (history ++ [q]) =
      fresh history ++ if ∀ earlier ∈ history, earlier.id ≠ q.id then [q] else [] := by
  induction history with
  | nil => simp [fresh]
  | cons p history ih =>
    rw [List.cons_append, fresh, fresh, ih, List.filter_append, List.cons_append]
    congr 2
    by_cases hp : p.id = q.id
    · have hnot : ¬ ∀ earlier ∈ p :: history, earlier.id ≠ q.id :=
        fun h => h p List.mem_cons_self hp
      rw [if_neg hnot]
      split <;> simp [hp]
    · have hiff : (∀ earlier ∈ p :: history, earlier.id ≠ q.id) ↔
          ∀ earlier ∈ history, earlier.id ≠ q.id := by
        simp [hp]
      rw [if_congr hiff rfl rfl]
      split <;> simp [Ne.symm hp]

/-- One more question settles the answer only if none did before and it is a fresh one. -/
lemma firstFound?_concat (sources : Dictionary Text) (id : Text) (history : List Question)
    (q : Question) :
    firstFound? sources id (history ++ [q]) =
      (firstFound? sources id history <|>
        if (∀ earlier ∈ history, earlier.id ≠ q.id) ∧ Names q.id id then
          (ofSources sources).load? q.tree q.id
        else none) := by
  unfold firstFound?
  rw [fresh_concat, List.findSome?_append, Option.orElse_eq_orElse, Option.orElse_eq_or]
  congr 1
  by_cases hq : ∀ earlier ∈ history, earlier.id ≠ q.id
  · rw [if_pos hq]
    by_cases hn : Names q.id id
    · rw [if_pos ⟨hq, hn⟩]
      simp [hn]
    · rw [if_neg fun h => hn h.2]
      simp [hn]
  · rw [if_neg hq, if_neg fun h => hq h.1]
    rfl

/-! ### What is settled -/

/-- Two identifiers whose answers count for a third are equal or agree. -/
lemma Names.eq_or_agree {j j' id : Text} (h : Names j id) (h' : Names j' id) :
    j = j' ∨ Label.agree j j' = true := by
  rcases h with rfl | h
  · rcases h' with rfl | h'
    · exact Or.inl rfl
    · exact Or.inr (Label.agree_symm h')
  · rcases h' with rfl | h'
    · exact Or.inr h
    · exact Or.inr (Label.agree_trans h (Label.agree_symm h'))

/-- What the catalog takes from memory was found under an agreeing identifier. -/
lemma find?_of_remembered? {c : Catalog} {id : Text} {e : Entity} (h : c.remembered? id = some e) :
    ∃ j, c.loaded.find? j = some (some e) ∧ Label.agree j id = true := by
  unfold remembered? at h
  obtain ⟨entry, hfirst, hentry⟩ := Option.bind_eq_some_iff.mp h
  obtain ⟨hfind, hp⟩ := Dictionary.find?_of_first? hfirst
  rw [Bool.and_eq_true] at hp
  exact ⟨entry.1, by rw [hfind, hentry], hp.2⟩

/-- If the catalog takes nothing from memory, no agreeing identifier has an entity. -/
lemma not_agree_of_remembered? {c : Catalog} {id : Text} (h : c.remembered? id = none) {j : Text}
    {e : Entity} (hfind : c.loaded.find? j = some (some e)) : Label.agree j id = false := by
  unfold remembered? at h
  rcases hfirst : c.loaded.first? (fun other answer => answer.isSome && Label.agree other id) with
    _ | entry
  · simpa using Dictionary.not_of_first?_eq_none hfirst hfind
  · -- the first entry has an entity, so the catalog would have taken it
    have hp := (Dictionary.find?_of_first? hfirst).2
    rw [Bool.and_eq_true] at hp
    rw [hfirst, Option.bind_some] at h
    simp [h] at hp

/-- What a catalog remembers about an identifier after some questions.  All identifiers that count
for it share one entity, the one that was found first. -/
structure Settled (sources : Dictionary Text) (id : Text) (history : List Question)
    (c : Catalog) : Prop where
  /-- The sources are the configured ones. -/
  sources_eq : c.sources = sources
  /-- An answer is remembered for the identifiers that were asked for. -/
  asked : ∀ j, c.loaded.find? j = none ↔ ∀ q ∈ history, q.id ≠ j
  /-- Every entity that counts is the one found first. -/
  shared : ∀ j e, Names j id → c.loaded.find? j = some (some e) →
    firstFound? sources id history = some e
  /-- The entity found first is remembered. -/
  known : ∀ e, firstFound? sources id history = some e →
    ∃ j, Names j id ∧ c.loaded.find? j = some (some e)
  /-- If it is remembered that the identifier has no entity, its source could not be loaded. -/
  missed : c.loaded.find? id = some none →
    ∃ q ∈ history, q.id = id ∧ (ofSources sources).load? q.tree id = none

/-- Nothing is settled before the first question. -/
lemma settled_ofSources (sources : Dictionary Text) (id : Text) :
    Settled sources id [] (ofSources sources) where
  sources_eq := rfl
  asked j := by simp [ofSources, Dictionary.find?, Dictionary.empty, Dictionary.valueOf?]
  shared j e _ h := by
    simp [ofSources, Dictionary.find?, Dictionary.empty, Dictionary.valueOf?] at h
  known e h := by simp [firstFound?, fresh] at h
  missed h := by simp [ofSources, Dictionary.find?, Dictionary.empty, Dictionary.valueOf?] at h

/-- The catalog loads from the configured sources, whatever it remembers. -/
lemma Settled.load?_eq {sources : Dictionary Text} {id : Text} {history : List Question}
    {c : Catalog} (h : Settled sources id history c) (tree : FileTree) (j : Text) :
    c.load? tree j = (ofSources sources).load? tree j := by
  simp only [load?, sourcePath?, ofSources, h.sources_eq]

/-- An identifier that counts and was not asked for gets the entity found first, or else that of
its own source. -/
lemma Settled.lookUp_eq {sources : Dictionary Text} {id : Text} {history : List Question}
    {c : Catalog} (h : Settled sources id history c) (tree : FileTree) {j : Text}
    (hn : Names j id) (hfresh : c.loaded.find? j = none) :
    c.lookUp tree j = (firstFound? sources id history <|> (ofSources sources).load? tree j) := by
  have hmemory : c.remembered? j = firstFound? sources id history := by
    rcases hrem : c.remembered? j with _ | e
    · rcases hfound : firstFound? sources id history with _ | e
      · rfl
      · -- an entity found before would have been remembered
        obtain ⟨j', hn', hfind⟩ := h.known e hfound
        have hnot := not_agree_of_remembered? hrem hfind
        rcases hn'.eq_or_agree hn with rfl | hagree
        · rw [hfresh] at hfind
          cases hfind
        · rw [hagree] at hnot
          cases hnot
    · obtain ⟨j', hfind, hagree⟩ := find?_of_remembered? hrem
      have hn' : Names j' id := by
        rcases hn with rfl | hj
        · exact Or.inr hagree
        · exact Or.inr (Label.agree_trans hagree hj)
      exact (h.shared j' e hn' hfind).symm
  rw [lookUp, hmemory, h.load?_eq]

/-- An answer that is remembered is given again, and nothing changes. -/
lemma get_of_find? {c : Catalog} {id : Text} {answer : Option Entity}
    (h : c.loaded.find? id = some answer) (tree : FileTree) : c.get tree id = (answer, c) := by
  rw [get, h]

/-- An answer that is not remembered is looked up and remembered. -/
lemma get_of_find?_eq_none {c : Catalog} {id : Text} (h : c.loaded.find? id = none)
    (tree : FileTree) :
    c.get tree id =
      (c.lookUp tree id, { c with loaded := c.loaded.insert id (c.lookUp tree id) }) := by
  rw [get, h]

/-- **One question keeps what is settled.**

**Proof sketch.** If the identifier was asked for before, neither the catalog nor the entity found
first changes.  If not, its answer is remembered; if it counts, the answer is the entity found
first, or settles it (`Settled.lookUp_eq`). -/
lemma settled_ask {sources : Dictionary Text} {id : Text} {history : List Question} {c : Catalog}
    (h : Settled sources id history c) (q : Question) :
    Settled sources id (history ++ [q]) (c.ask q) := by
  rcases hfind : c.loaded.find? q.id with _ | answer
  · have hfresh := (h.asked q.id).mp hfind
    have hfirst : Names q.id id → firstFound? sources id (history ++ [q]) =
        c.lookUp q.tree q.id := by
      intro hn
      rw [firstFound?_concat, if_pos ⟨hfresh, hn⟩, h.lookUp_eq q.tree hn hfind]
    have hother : ¬ Names q.id id →
        firstFound? sources id (history ++ [q]) = firstFound? sources id history := by
      intro hn
      rw [firstFound?_concat, if_neg fun hq => hn hq.2]
      simp
    have hask : c.ask q = { c with loaded := c.loaded.insert q.id (c.lookUp q.tree q.id) } := by
      rw [ask, get_of_find?_eq_none hfind]
    rw [hask]
    refine ⟨h.sources_eq, fun j => ?_, fun j e hj hje => ?_, fun e he => ?_, fun hid => ?_⟩
    · by_cases hj : j = q.id
      · subst hj
        simp
      · rw [Dictionary.find?_insert_of_ne _ hj, h.asked]
        simp [or_imp, forall_and, Ne.symm hj]
    · by_cases hjq : j = q.id
      · subst hjq
        rw [Dictionary.find?_insert_self, Option.some.injEq] at hje
        rw [hfirst hj, hje]
      · rw [Dictionary.find?_insert_of_ne _ hjq] at hje
        rw [firstFound?_concat, h.shared j e hj hje]
        rfl
    · by_cases hn : Names q.id id
      · rw [hfirst hn] at he
        exact ⟨q.id, hn, by rw [Dictionary.find?_insert_self, he]⟩
      · rw [hother hn] at he
        obtain ⟨j, hj, hje⟩ := h.known e he
        have hjq : j ≠ q.id := by
          rintro rfl
          exact hn hj
        exact ⟨j, hj, by rw [Dictionary.find?_insert_of_ne _ hjq, hje]⟩
    · by_cases hq : id = q.id
      · subst hq
        rw [Dictionary.find?_insert_self, Option.some.injEq, h.lookUp_eq q.tree (Or.inl rfl) hfind,
          Option.orElse_eq_orElse, Option.orElse_eq_or, Option.or_eq_none_iff] at hid
        exact ⟨q, by simp, rfl, hid.2⟩
      · rw [Dictionary.find?_insert_of_ne _ hq] at hid
        obtain ⟨earlier, hmem, hearlier⟩ := h.missed hid
        exact ⟨earlier, by simp [hmem], hearlier⟩
  · have hasked : ¬ ∀ earlier ∈ history, earlier.id ≠ q.id := by
      intro hall
      rw [(h.asked q.id).mpr hall] at hfind
      cases hfind
    have hsame : firstFound? sources id (history ++ [q]) = firstFound? sources id history := by
      rw [firstFound?_concat, if_neg fun hq => hasked hq.1]
      simp
    have hask : c.ask q = c := by rw [ask, get_of_find? hfind]
    rw [hask]
    refine ⟨h.sources_eq, fun j => ?_, fun j e hj hje => ?_, fun e he => ?_, fun hid => ?_⟩
    · rw [h.asked]
      refine ⟨fun hall earlier hmem => ?_, fun hall earlier hmem => hall earlier (by simp [hmem])⟩
      rcases List.mem_append.mp hmem with hmem | hmem
      · exact hall earlier hmem
      · rintro rfl
        rw [List.mem_singleton.mp hmem] at hall
        exact hasked hall
    · rw [hsame]
      exact h.shared j e hj hje
    · rw [hsame] at he
      exact h.known e he
    · obtain ⟨earlier, hmem, hearlier⟩ := h.missed hid
      exact ⟨earlier, by simp [hmem], hearlier⟩

/-- A run of questions keeps what is settled. -/
lemma settled_askAll (sources : Dictionary Text) (id : Text) (history : List Question) :
    Settled sources id history ((ofSources sources).askAll history) := by
  induction history using List.reverseRecOn with
  | nil => exact settled_ofSources sources id
  | append_singleton history q ih =>
    rw [askAll, List.foldl_append]
    exact settled_ask ih q

/-! ### An identifier with a source of its own -/

/-- A source that can be read has an entity, which depends on nothing but its text and path. -/
lemma exists_extract (path text : Text) :
    ∃ e, ∀ tree : FileTree, tree.read path = .ok text → Entity.extract tree path = .ok e := by
  have hsource : ∀ tree : FileTree, tree.read path = .ok text →
      tree.readSource .entity path = .ok text := by
    intro tree h
    rw [FileTree.readSource, h]
    rfl
  cases hname : (Entity.ofSource text).className with
  | none =>
    refine ⟨{ Entity.ofSource text with className := Path.stem? path }, fun tree h => ?_⟩
    simp [Entity.extract, hsource tree h, hname, bind, Except.bind, pure, Except.pure]
  | some name =>
    refine ⟨Entity.ofSource text, fun tree h => ?_⟩
    simp [Entity.extract, hsource tree h, hname, bind, Except.bind, pure, Except.pure]

/-- An identifier with a source of its own is loaded from it. -/
lemma load?_of_find? {sources : Dictionary Text} {id path : Text}
    (configured : sources.find? id = some path) (tree : FileTree) :
    (ofSources sources).load? tree id = (Entity.extract tree path).toOption := by
  simp [load?, sourcePath?, ofSources, configured]

/-- An identifier whose source can be read and does not change gets the entity found first, or else
the one of its source. -/
lemma get_askAll (sources : Dictionary Text) (id path text : Text) (history : List Question)
    (tree : FileTree) (configured : sources.find? id = some path)
    (readable : tree.read path = .ok text)
    (unchanged : ∀ q ∈ history, q.tree.read path = .ok text) :
    ∃ e, Entity.extract tree path = .ok e ∧
      (∀ q ∈ history, Entity.extract q.tree path = .ok e) ∧
      (((ofSources sources).askAll history).get tree id).1 =
        some ((firstFound? sources id history).getD e) := by
  obtain ⟨e, he⟩ := exists_extract path text
  have hearlier : ∀ q ∈ history, Entity.extract q.tree path = .ok e :=
    fun q hmem => he q.tree (unchanged q hmem)
  refine ⟨e, he tree readable, hearlier, ?_⟩
  have h := settled_askAll sources id history
  rcases hfind : ((ofSources sources).askAll history).loaded.find? id with _ | (_ | e')
  · rw [get_of_find?_eq_none hfind, h.lookUp_eq tree (Or.inl rfl) hfind,
      load?_of_find? configured, he tree readable]
    cases firstFound? sources id history <;> rfl
  · obtain ⟨q, hmem, -, hnone⟩ := h.missed hfind
    rw [load?_of_find? configured, hearlier q hmem] at hnone
    cases hnone
  · rw [get_of_find? hfind, h.shared id e' (Or.inl rfl) hfind]
    rfl

/-- **When an identifier is answered from its own source.**  An identifier that is configured with
a file that can be read, and that does not change, is answered with the entity of that file if and
only if the entity found first, in answer to the earlier questions for it and for identifiers that
agree with it, is the same one. -/
theorem get_eq_extract_iff (sources : Dictionary Text) (id path text : Text)
    (history : List Question) (tree : FileTree) (configured : sources.find? id = some path)
    (readable : tree.read path = .ok text)
    (unchanged : ∀ q ∈ history, q.tree.read path = .ok text) :
    (((ofSources sources).askAll history).get tree id).1 = (Entity.extract tree path).toOption ↔
      ∀ e, firstFound? sources id history = some e → Entity.extract tree path = .ok e := by
  obtain ⟨e, he, -, hget⟩ :=
    get_askAll sources id path text history tree configured readable unchanged
  rw [hget, he]
  cases firstFound? sources id history with
  | none => simp [Except.toOption]
  | some e' => simp [Except.toOption, eq_comm]

/-- Two identifiers that agree, each with a file of its own. -/
def twins : Dictionary Text := .ofList [(['A'], ['a']), (['A', '.'], ['b'])]

/-- The two files, both empty. -/
def twinFiles : FileTree := ⟨.ofList [(['a'], .file (.text [])), (['b'], .file (.text []))]⟩

/-- Asked for before its twin, an identifier is answered from its own file. -/
theorem get_before_twin :
    twins.find? ['A'] = some ['a'] ∧ twinFiles.read ['a'] = .ok [] ∧
      (((ofSources twins).askAll [⟨twinFiles, ['A']⟩, ⟨twinFiles, ['A', '.']⟩]).get
        twinFiles ['A']).1 = (Entity.extract twinFiles ['a']).toOption := by
  have hconfigured : twins.find? ['A'] = some ['a'] := by decide +kernel
  have hread : twinFiles.read ['a'] = .ok [] := by decide +kernel
  refine ⟨hconfigured, hread, (get_eq_extract_iff twins ['A'] ['a'] [] _ twinFiles hconfigured hread
    (by simp [hread])).mpr ?_⟩
  have hfirst : firstFound? twins ['A'] [⟨twinFiles, ['A']⟩, ⟨twinFiles, ['A', '.']⟩] =
      some ⟨some ['a'], []⟩ := by decide +kernel
  intro e he
  obtain rfl := Option.some.inj (hfirst.symm.trans he)
  decide +kernel

/-- Asked for after its twin, an identifier is answered from the file of the twin. -/
theorem get_after_twin :
    twins.find? ['A'] = some ['a'] ∧ twinFiles.read ['a'] = .ok [] ∧
      (((ofSources twins).askAll [⟨twinFiles, ['A', '.']⟩]).get twinFiles ['A']).1 =
        (Entity.extract twinFiles ['b']).toOption ∧
      (((ofSources twins).askAll [⟨twinFiles, ['A', '.']⟩]).get twinFiles ['A']).1 ≠
        (Entity.extract twinFiles ['a']).toOption := by
  decide +kernel

/-! ### An identifier without twins -/

/-- Only questions that were asked are fresh ones. -/
lemma mem_of_mem_fresh {history : List Question} {q : Question} (h : q ∈ fresh history) :
    q ∈ history := by
  induction history with
  | nil => exact h
  | cons p history ih =>
    rw [fresh, List.mem_cons] at h
    rcases h with rfl | h
    · exact List.mem_cons_self
    · exact List.mem_cons_of_mem _ (ih (List.mem_filter.mp h).1)

/-- If no other configured identifier agrees with it, all identifiers that count for it have its
source. -/
lemma sourcePath?_of_names {sources : Dictionary Text} {id path : Text}
    (configured : sources.find? id = some path)
    (alone : ∀ other, sources.find? other ≠ none → Label.agree other id = true → other = id)
    {j : Text} (hn : Names j id) : (ofSources sources).sourcePath? j = some path := by
  simp only [sourcePath?, ofSources]
  by_cases hj : j = id
  · rw [hj, configured]
    rfl
  · have hagree : Label.agree j id = true := hn.resolve_left hj
    have hnone : sources.find? j = none := by
      by_contra hsome
      exact hj (alone j hsome hagree)
    rw [hnone, Option.orElse_eq_orElse, Option.orElse_eq_or, Option.none_or]
    rcases hfirst : sources.first? (fun other _ => Label.agree other j) with _ | entry
    · have hnot := Dictionary.not_of_first?_eq_none hfirst configured
      rw [Label.agree_symm hagree] at hnot
      cases hnot
    · obtain ⟨hfind, hp⟩ := Dictionary.find?_of_first? hfirst
      have hid : entry.1 = id :=
        alone entry.1 (by rw [hfind]; exact Option.some_ne_none _) (Label.agree_trans hp hagree)
      rw [hid, configured] at hfind
      rw [Option.map_some, Option.some.inj hfind]

/-- If no other configured identifier agrees with it, an identifier with a source of its own is
always answered from it. -/
theorem get_eq_extract_of_alone (sources : Dictionary Text) (id path text : Text)
    (history : List Question) (tree : FileTree) (configured : sources.find? id = some path)
    (readable : tree.read path = .ok text)
    (unchanged : ∀ q ∈ history, q.tree.read path = .ok text)
    (alone : ∀ other, sources.find? other ≠ none → Label.agree other id = true → other = id) :
    (((ofSources sources).askAll history).get tree id).1 =
      (Entity.extract tree path).toOption := by
  obtain ⟨e, he, hearlier, hget⟩ :=
    get_askAll sources id path text history tree configured readable unchanged
  have hfound : ∀ e', firstFound? sources id history = some e' → e' = e := by
    intro e' hfirst
    obtain ⟨q, hmem, hq⟩ := List.exists_of_findSome?_eq_some hfirst
    split at hq
    next hn =>
      rw [load?, sourcePath?_of_names configured alone hn, Option.bind_eq_bind, Option.bind_some,
        hearlier q (mem_of_mem_fresh hmem)] at hq
      exact (Option.some.inj hq).symm
    next => cases hq
  rw [hget, he]
  cases hfirst : firstFound? sources id history with
  | none => rfl
  | some e' =>
    rw [hfound e' hfirst]
    rfl

end Catalog

end RuleSheet
