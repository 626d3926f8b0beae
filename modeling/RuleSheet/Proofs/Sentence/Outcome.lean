import Mathlib.Tactic.Lemma
import RuleSheet.Sentence.Clause

/-!
# What sentences come to

A sentence becomes part of a condition, a statement, or a line that is left to do by hand.  A line
is left to do for one of two reasons: its value is of no supported form, or a field that it names
was not found.

## Main definitions

* `RuleSheet.Sentence.references`, `unsupported?` — the references of a sentence, and its value of
  no supported form.
* `RuleSheet.Sentence.Outcome` — everything that a sentence can come to.

## Main results

* `RuleSheet.Lexicon.error_of_field`, `error_of_reference` — why a field and a reference have no
  meaning.
* `RuleSheet.Sentence.outcome_clause` — a sentence comes to one of its outcomes.
-/

set_option autoImplicit false

namespace RuleSheet

/-! ### Fields that are not found -/

namespace Lexicon

variable {tree : FileTree} {l : Lexicon}

/-- A field without a meaning is one that was not found. -/
lemma error_of_field {id label : Text} {reason : Obstacle}
    (h : (l.field tree id label).1 = .error reason) :
    (reason = .entityNotFound id ∧ (l.catalog.get tree id).1 = none) ∨
      reason = .fieldNotFound id label := by
  unfold field at h
  dsimp only at h
  split at h
  next hget => exact Or.inl ⟨(Except.error.inj h).symm, hget⟩
  next =>
    split at h
    next => exact Or.inr (Except.error.inj h).symm
    next => cases h

/-- A reference without a meaning is that of a field without one. -/
lemma error_of_reference {r : Reference} {reason : Obstacle}
    (h : (l.reference tree r).1 = .error reason) :
    ∃ id label, r = .field id label ∧ (l.field tree id label).1 = .error reason := by
  cases r with
  | field id label =>
    refine ⟨id, label, rfl, ?_⟩
    cases hfield : (l.field tree id label).1 with
    | ok target => simp [reference, hfield, Except.map] at h
    | error other => simpa [reference, hfield, Except.map] using h
  | «variable» category name => cases h
  | flag name => cases h

end Lexicon

namespace Sentence

/-! ### Outcomes -/

/-- The references that a sentence looks up. -/
def references : Sentence → List Reference
  | .field entity label _ => [.field entity label]
  | .copy c => [c.target, c.source]
  | _ => []

/-- The value of no supported form in a sentence. -/
def unsupported? : Sentence → Option Text
  | .field _ _ (.unsupported value) => some value
  | .unsupported value => some value
  | _ => none

variable (tree : FileTree) (helpers : Helpers) (line : Text)

/-- What a sentence of a line can come to. -/
inductive Outcome (l : Lexicon) (s : Sentence) : Clause → Prop
  /-- The start of a condition. -/
  | opening {part : Comparison} (h : s = .opening part) : Outcome l s (.opening part)
  /-- A further comparison. -/
  | continuation {connective : Connective} {part : Comparison}
      (h : s = .continuation connective part) : Outcome l s (.continuation connective part)
  /-- A statement that assigns. -/
  | made {st : Statement} (h : st.todoLine? = none) : Outcome l s (.statement st)
  /-- The value is of no supported form. -/
  | unsupported {value : Text} (h : s.unsupported? = some value) :
      Outcome l s (.todo line (.unsupportedValue value))
  /-- A field was not found, in the lexicon or after another field had been looked up in it. -/
  | missed {id label : Text} {reason : Obstacle} (href : .field id label ∈ s.references)
      {before : Lexicon}
      (hbefore : before = l ∨ ∃ id' label', before = (l.field tree id' label').2)
      (h : (before.field tree id label).1 = .error reason) : Outcome l s (.todo line reason)

/-- What is assigned to a field that was found. -/
lemma outcome_fieldClause (l : Lexicon) (entity label : Text) (target : Target)
    (value : FieldValue) :
    Outcome tree line l (.field entity label value) (fieldClause line target value) := by
  cases value with
  | blank => exact .made rfl
  | number digits =>
    rw [fieldClause]
    split <;> exact .made rfl
  | text t => exact .made rfl
  | unsupported value => exact .unsupported rfl

/-- A copy whose target is known. -/
lemma Copy.outcome_assigned (l : Lexicon) (c : Copy) {assign : Text → Clause}
    (hassign : ∀ v, ∃ st : Statement, assign v = .statement st ∧ st.todoLine? = none)
    {before : Lexicon} (hbefore : before = l ∨ ∃ id label, before = (l.field tree id label).2) :
    Outcome tree line l (.copy c) (c.assigned tree helpers line assign before).1 := by
  unfold assigned
  rcases hsource : before.reference tree c.source with ⟨reason | meaning, after⟩
  · obtain ⟨id, label, href, herror⟩ := Lexicon.error_of_reference (congrArg Prod.fst hsource)
    exact .missed (by simp [references, href]) hbefore herror
  · obtain ⟨st, hst, hnot⟩ := hassign (c.value helpers meaning.expression)
    dsimp only
    rw [hst]
    exact .made hnot

/-- A copy.  Its target is looked up before its source. -/
lemma Copy.outcome_clause (l : Lexicon) (c : Copy) :
    Outcome tree line l (.copy c) (c.clause tree helpers line l).1 := by
  unfold clause
  rcases hname : c.target with ⟨entity, label⟩ | ⟨category, name⟩ | name
  · dsimp only
    rcases htarget : l.field tree entity label with ⟨reason | target, after⟩
    · exact .missed (by simp [references, hname]) (.inl rfl) (congrArg Prod.fst htarget)
    · exact c.outcome_assigned tree helpers line l (fun v => ⟨_, rfl, rfl⟩)
        (.inr ⟨entity, label, by rw [htarget]⟩)
  · exact c.outcome_assigned tree helpers line l (fun v => ⟨_, rfl, rfl⟩) (.inl rfl)
  · exact c.outcome_assigned tree helpers line l (fun v => ⟨_, rfl, rfl⟩) (.inl rfl)

/-- **Everything that a sentence can come to.** -/
lemma outcome_clause (l : Lexicon) (s : Sentence) :
    Outcome tree line l s (s.clause tree helpers line l).1 := by
  rcases s with part | ⟨connective, part⟩ | ⟨entity, label, value⟩ | ⟨name, value⟩ |
    ⟨name, value⟩ | value | c
  · exact .opening rfl
  · exact .continuation rfl
  · rw [clause]
    rcases htarget : l.field tree entity label with ⟨reason | target, after⟩
    · exact .missed (by simp [references]) (.inl rfl) (congrArg Prod.fst htarget)
    · exact outcome_fieldClause tree line l entity label target value
  · exact .made rfl
  · exact .made rfl
  · exact .unsupported rfl
  · exact c.outcome_clause tree helpers line l

end Sentence

end RuleSheet
