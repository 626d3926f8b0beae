import Mathlib.Tactic.Lemma
import RuleSheet.Conversion.Basic

/-!
# Conversions in lockstep

A conversion touches its lexicon and the files in two ways only: it looks up entities, and it
records the types of fields.  So whatever relation between two lexicons these two keep is kept by
everything that is done with them, line by line and piece by piece, and the results are the same.

## Main definitions

* `RuleSheet.Lexicon.Coupling` — a relation that look-ups and records keep, between lexicons over
  the files of two trees.
* `RuleSheet.Lexicon.Lockstep` — something done with a lexicon that keeps a coupling and gives the
  same result on both sides.

## Main results

* `RuleSheet.lockstep_classify`, `RuleSheet.Block.lockstep_code` — clauses and code are in lockstep.
* `RuleSheet.Converter.lockstep_readLines`, `lockstep_writePieces` — so are the two passes of a
  conversion.

## Design

`Lockstep` is closed under doing one thing after the other (`Lockstep.andThen`), so each function of
the library needs one short lemma, which follows its definition.  What is done is given as a
function of the tree, so both sides do the same by construction.
-/

set_option autoImplicit false

namespace RuleSheet

/-! ### Couplings -/

namespace Lexicon

/-- A relation between lexicons that are asked over one tree and lexicons that are asked over
another, which look-ups and records keep. -/
structure Coupling (tree tree' : FileTree) where
  /-- The relation. -/
  Rel : Lexicon → Lexicon → Prop
  /-- A look-up gives the same answer on both sides. -/
  get : ∀ {l l' : Lexicon}, Rel l l' → ∀ id : Text,
    (l.catalog.get tree id).1 = (l'.catalog.get tree' id).1 ∧
      Rel { l with catalog := (l.catalog.get tree id).2 }
        { l' with catalog := (l'.catalog.get tree' id).2 }
  /-- An entity has the same instance on both sides. -/
  owner : ∀ {l l' : Lexicon}, Rel l l' → ∀ (id : Text) (e : Entity),
    l.ownerOf id e = l'.ownerOf id e
  /-- The same type can be recorded on both sides. -/
  record : ∀ {l l' : Lexicon}, Rel l l' → ∀ (expression : Text) (type : ValueType),
    Rel { l with types := l.types.record expression type }
      { l' with types := l'.types.record expression type }

variable {tree tree' : FileTree} {α β : Type}

/-- Something done with a lexicon is in lockstep if coupled lexicons give the same result and stay
coupled. -/
def Lockstep (k : Coupling tree tree') (f : FileTree → Lexicon → α × Lexicon) : Prop :=
  ∀ l l', k.Rel l l' → (f tree l).1 = (f tree' l').1 ∧ k.Rel (f tree l).2 (f tree' l').2

namespace Lockstep

variable {k : Coupling tree tree'} {f : FileTree → Lexicon → α × Lexicon}

/-- A result that is there without the lexicon. -/
lemma pure (a : α) : Lockstep k fun _ l => (a, l) := fun _ _ h => ⟨rfl, h⟩

/-- What is made of a result. -/
lemma map (hf : Lockstep k f) (make : α → β) :
    Lockstep k fun t l => (make (f t l).1, (f t l).2) :=
  fun l l' h => ⟨congrArg make (hf l l' h).1, (hf l l' h).2⟩

/-- One thing after another.  What is done second may depend on the result of the first. -/
lemma andThen {h : FileTree → Lexicon → β × Lexicon} (hf : Lockstep k f)
    (hnext : ∀ a, ∃ g : FileTree → Lexicon → β × Lexicon, Lockstep k g ∧
      ∀ t l m, f t l = (a, m) → h t l = g t m) : Lockstep k h := by
  intro l l' hl
  obtain ⟨hresult, hcoupled⟩ := hf l l' hl
  obtain ⟨g, hg, heq⟩ := hnext (f tree l).1
  -- both sides have the same result first, so `g` is what is left to do, on coupled lexicons
  rw [heq tree l (f tree l).2 rfl, heq tree' l' (f tree' l').2 (Prod.ext hresult.symm rfl)]
  exact hg _ _ hcoupled

end Lockstep

variable (k : Coupling tree tree')

/-- The field of an entity. -/
lemma lockstep_field (id label : Text) : Lockstep k fun t l => l.field t id label := by
  have hget : Lockstep k fun t l =>
      ((l.catalog.get t id).1, { l with catalog := (l.catalog.get t id).2 }) :=
    fun l l' h => k.get h id
  refine hget.andThen fun answer => ?_
  cases answer with
  | none =>
    refine ⟨_, Lockstep.pure (.error (.entityNotFound id)), fun t l m h => ?_⟩
    obtain ⟨hanswer, rfl⟩ := Prod.mk.inj h
    simp only [field, hanswer]
  | some entity =>
    cases hlabel : entity.fieldLabelled? label with
    | none =>
      refine ⟨_, Lockstep.pure (.error (.fieldNotFound id label)), fun t l m h => ?_⟩
      obtain ⟨hanswer, rfl⟩ := Prod.mk.inj h
      simp only [field, hanswer, hlabel]
    | some f =>
      have htarget : Lockstep k fun _ l =>
          ((.ok ⟨l.ownerOf id entity, f⟩ : Except Obstacle Target),
            { l with
              types := l.types.record (Target.getterCall ⟨l.ownerOf id entity, f⟩) f.type }) := by
        intro l l' h
        dsimp only
        rw [k.owner h id entity]
        exact ⟨rfl, k.record h _ _⟩
      refine ⟨_, htarget, fun t l m h => ?_⟩
      obtain ⟨hanswer, rfl⟩ := Prod.mk.inj h
      simp only [field, hanswer, hlabel]

/-- The meaning of a reference. -/
lemma lockstep_reference (r : Reference) : Lockstep k fun t l => l.reference t r := by
  rcases r with ⟨id, label⟩ | ⟨category, name⟩ | name
  · exact (lockstep_field k id label).map _
  · exact Lockstep.pure _
  · exact Lockstep.pure _

/-- The meaning of an operand. -/
lemma lockstep_resolve (operand : Text) : Lockstep k fun t l => l.resolve t operand := by
  cases htoken : Reference.ofToken? (Text.trim operand) with
  | some r =>
    simp only [resolve, htoken]
    exact lockstep_reference k r
  | none =>
    by_cases hblank : isBlankWord (Text.trim operand) = true
    · simp only [resolve, htoken, hblank, if_true]
      exact Lockstep.pure _
    · by_cases hnumber : Text.isNumber (Text.trim operand) = true
      · simp only [resolve, htoken, hblank, hnumber, if_true]
        exact Lockstep.pure _
      · simp only [resolve, htoken, hblank, hnumber]
        exact Lockstep.pure _

end Lexicon

open Lexicon

variable {tree tree' : FileTree} (k : Coupling tree tree')

/-! ### Clauses -/

namespace Sentence

/-- The clause of a copy whose target is known. -/
lemma Copy.lockstep_assigned (helpers : Helpers) (line : Text) (c : Copy)
    (assign : Text → Clause) : Lockstep k fun t => c.assigned t helpers line assign := by
  refine (lockstep_reference k c.source).andThen fun answer => ?_
  cases answer with
  | error reason =>
    exact ⟨_, Lockstep.pure (.todo line reason), fun t l m h => by simp only [assigned, h]⟩
  | ok meaning =>
    exact ⟨_, Lockstep.pure (assign (c.value helpers meaning.expression)),
      fun t l m h => by simp only [assigned, h]⟩

/-- The clause of a copy. -/
lemma Copy.lockstep_clause (helpers : Helpers) (line : Text) (c : Copy) :
    Lockstep k fun t => c.clause t helpers line := by
  unfold clause
  rcases c.target with ⟨entity, label⟩ | ⟨category, name⟩ | name
  · refine (lockstep_field k entity label).andThen fun answer => ?_
    cases answer with
    | error reason =>
      exact ⟨_, Lockstep.pure (.todo line reason), fun t l m h => by simp only [h]⟩
    | ok target =>
      exact ⟨_, c.lockstep_assigned k helpers line target.assign,
        fun t l m h => by simp only [h]⟩
  · exact c.lockstep_assigned k helpers line _
  · exact c.lockstep_assigned k helpers line _

/-- The clause of a sentence. -/
lemma lockstep_clause (helpers : Helpers) (line : Text) (s : Sentence) :
    Lockstep k fun t => s.clause t helpers line := by
  rcases s with part | ⟨connective, part⟩ | ⟨entity, label, value⟩ | ⟨name, value⟩ |
    ⟨name, value⟩ | value | c
  · exact Lockstep.pure _
  · exact Lockstep.pure _
  · refine (lockstep_field k entity label).andThen fun answer => ?_
    cases answer with
    | error reason =>
      exact ⟨_, Lockstep.pure (.todo line reason), fun t l m h => by simp only [clause, h]⟩
    | ok target =>
      exact ⟨_, Lockstep.pure (fieldClause line target value),
        fun t l m h => by simp only [clause, h]⟩
  · exact Lockstep.pure _
  · exact Lockstep.pure _
  · exact Lockstep.pure _
  · exact c.lockstep_clause k helpers line

end Sentence

/-- The clause of a line. -/
lemma lockstep_classify (helpers : Helpers) (line : Text) :
    Lockstep k fun t => classify t helpers line := by
  unfold classify
  cases recognize line with
  | none => exact Lockstep.pure _
  | some found => exact found.2.lockstep_clause k helpers line

/-! ### Code -/

/-- The code of a comparison. -/
lemma Comparison.lockstep_code (c : Comparison) : Lockstep k fun t => c.code t := by
  unfold Comparison.code
  by_cases hread : c.unreadable = true
  · simp only [hread, if_true]
    exact Lockstep.pure _
  · simp only [hread]
    exact (lockstep_resolve k c.left).andThen fun left =>
      ⟨_, (lockstep_resolve k c.right).map (c.written left),
        fun t l m h => by simp only [h]; rfl⟩

/-- The code of comparisons in a row. -/
lemma lockstep_comparisonsCode (parts : List Comparison) :
    Lockstep k fun t => comparisonsCode t parts := by
  induction parts with
  | nil => exact Lockstep.pure _
  | cons c rest ih =>
    exact (c.lockstep_code k).andThen fun head =>
      ⟨_, ih.map (c.joint ++ head ++ ·), fun t l m h => by simp only [comparisonsCode, h]⟩

/-- The code of a condition. -/
lemma Condition.lockstep_code (c : Condition) : Lockstep k fun t => c.code t :=
  (lockstep_comparisonsCode k c.parts).map ("if(" ++ · ++ ")")

/-- The code of a block. -/
lemma Block.lockstep_code (fieldComments : Bool) (b : Block) :
    Lockstep k fun t => b.code t fieldComments :=
  (b.condition.lockstep_code k).map fun condition =>
    condition ++ " \x7b\n" ++
      (b.statements.flatMap fun s => (Text.lines (s.code fieldComments)).flatMap indentedLine) ++
      "\x7d"

namespace Converter

/-! ### The two passes of a conversion -/

/-- The clause of a raw line. -/
lemma lockstep_readLine (helpers : Helpers) (number : Nat) (raw : Text) :
    Lockstep k fun t => readLine t helpers number raw := by
  unfold readLine
  cases Line.normalize raw with
  | none => exact Lockstep.pure _
  | some text =>
    exact (lockstep_classify k helpers text).map fun clause =>
      some (SheetLine.mk number (Line.isIndented raw) text clause)

/-- The clauses of lines. -/
lemma lockstep_readLines (helpers : Helpers) (lines : List Text) :
    ∀ number : Nat, Lockstep k fun t => readLines t helpers number lines := by
  induction lines with
  | nil => exact fun _ => Lockstep.pure _
  | cons raw rest ih =>
    exact fun number => (lockstep_readLine k helpers number raw).andThen fun line =>
      ⟨_, (ih (number + 1)).map (line :: ·), fun t l m h => by simp only [readLines, h]⟩

variable {options : Options}

/-- A written piece, if coupled lexicons have the same types when comparisons are replaced. -/
lemma lockstep_writePiece (defined : Variables) (p : Piece)
    (htypes : options.postprocess = true → ∀ l l', k.Rel l l' → l.types = l'.types) :
    Lockstep k fun t => writePiece t options defined p := by
  cases p with
  | block b =>
    refine (b.lockstep_code k options.fieldComments).andThen fun code =>
      ⟨fun _ l => (⟨⟨b.line, .block, (finishBlock options defined code l).code⟩,
        b.statements.flatMap (todoItems b.line), (finishBlock options defined code l).replaced⟩, l),
        fun l l' h => ?_, fun t l m h => by simp only [writePiece, writeBlock, h]⟩
    have hfinish : finishBlock options defined code l = finishBlock options defined code l' := by
      unfold finishBlock
      split
      next hpost => rw [htypes hpost l l' h]
      next => rfl
    dsimp only
    exact ⟨by rw [hfinish], h⟩
  | alone line s => exact Lockstep.pure _

/-- Written pieces, under the same condition. -/
lemma lockstep_writePieces (defined : Variables) (pieces : List Piece)
    (htypes : options.postprocess = true → ∀ l l', k.Rel l l' → l.types = l'.types) :
    Lockstep k fun t => writePieces t options defined pieces := by
  induction pieces with
  | nil => exact Lockstep.pure _
  | cons p rest ih =>
    exact (lockstep_writePiece k defined p htypes).andThen fun written =>
      ⟨_, ih.map (written :: ·), fun t l m h => by simp only [writePieces, h]⟩

end Converter

end RuleSheet
