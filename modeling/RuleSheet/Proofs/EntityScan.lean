import RuleSheet.Proofs.EntitySource

/-!
# What the scan of an entity source keeps

A scan reads the lines of an entity source one after the other.  A line can name the class once,
change the comment that is open, add a field at the end, or give a declared type to the last field.
A type is only given while the last field waits for it, and a field that waits has no type yet.  So
nothing that was extracted is revised: all that later lines can do to it is to give the last field
its first type.

## Main definitions

* `RuleSheet.Entity.Scan.Step` — what one line can do to a scan.
* `RuleSheet.Entity.Scan.Ready` — a field that waits is the last one and has no type.
* `RuleSheet.Field.Completes` — a field that is the same or has got its first type.
* `RuleSheet.Entity.KeptIn` — an entity that has all that another one has.

## Main results

* `RuleSheet.Entity.Scan.step_line` — every line makes one of these steps.
* `RuleSheet.Entity.Scan.Step.ready`, `Step.keptIn` — what a step preserves.
* `RuleSheet.Entity.Scan.ready_foldl`, `keptIn_foldl` — what a run preserves.
* `RuleSheet.Entity.ofSource_append_keeps` — more text at the end of a source revises nothing.
-/

set_option autoImplicit false

namespace RuleSheet

open Text

/-! ### Fields and entities that are kept -/

/-- The second field is the first one, or the first one had no type and has got one. -/
inductive Field.Completes : Field → Field → Prop
  /-- Nothing has changed. -/
  | same {f : Field} : Completes f f
  /-- The field has got its first type. -/
  | typed {f : Field} {type : Text} (h : f.declared = none) : Completes f (f.withType type)

/-- A field gets its type at most once. -/
lemma Field.Completes.trans {f g h : Field} (hfg : f.Completes g) (hgh : g.Completes h) :
    f.Completes h := by
  cases hfg with
  | same => exact hgh
  | typed hnone =>
    cases hgh with
    | same => exact .typed hnone
    | typed hagain => cases hagain

namespace Entity

/-- The second entity has all that the first one has: the name of the class, all fields but the last
as they are, and the last one as it is or with its first type. -/
structure KeptIn (e e' : Entity) : Prop where
  /-- The class keeps its name. -/
  className : ∀ name, e.className = some name → e'.className = some name
  /-- No field is lost. -/
  length_le : e.fields.length ≤ e'.fields.length
  /-- All fields but the last are the same. -/
  front : ∀ i, i + 1 < e.fields.length → e'.fields[i]? = e.fields[i]?
  /-- The last field is the same, or it has got its first type. -/
  last : ∀ f, e.fields.getLast? = some f →
    ∃ f', e'.fields[e.fields.length - 1]? = some f' ∧ f.Completes f'

section KeptIn

variable {e e' e'' : Entity}

lemma KeptIn.refl (e : Entity) : e.KeptIn e :=
  ⟨fun _ h => h, le_rfl, fun _ _ => rfl,
    fun f h => ⟨f, by rw [← List.getLast?_eq_getElem?, h], .same⟩⟩

/-- The last field of the first entity may be followed by others in the second one; then it
stays. -/
lemma KeptIn.trans (h : e.KeptIn e') (h' : e'.KeptIn e'') : e.KeptIn e'' := by
  have hlength := h.length_le
  refine ⟨fun name hname => h'.className name (h.className name hname),
    hlength.trans h'.length_le, fun i hi => ?_, fun f hf => ?_⟩
  · rw [h'.front i (by omega), h.front i hi]
  · have hpos : 0 < e.fields.length := List.length_pos_iff.mpr fun hnil => by simp [hnil] at hf
    obtain ⟨g, hg, hfg⟩ := h.last f hf
    by_cases hmore : e.fields.length < e'.fields.length
    · exact ⟨g, by rw [h'.front _ (by omega), hg], hfg⟩
    · have hsame : e.fields.length = e'.fields.length := by omega
      rw [hsame] at hg ⊢
      obtain ⟨f', hf', hgf'⟩ := h'.last g (by rw [List.getLast?_eq_getElem?, hg])
      exact ⟨f', hf', hfg.trans hgf'⟩

/-- More fields at the end. -/
lemma keptIn_of_fields {name : Option Text} {fields more : List Field}
    (h : fields <+: more) : KeptIn ⟨name, fields⟩ ⟨name, more⟩ := by
  obtain ⟨rest, rfl⟩ := h
  refine ⟨fun _ h => h, by simp, fun i hi => ?_, fun f hf => ⟨f, ?_, .same⟩⟩
  · exact List.getElem?_append_left (by simpa using Nat.lt_of_succ_lt hi)
  · have hpos : 0 < fields.length := List.length_pos_iff.mpr fun hnil => by simp [hnil] at hf
    show (fields ++ rest)[fields.length - 1]? = some f
    rw [List.getElem?_append_left (by omega), ← List.getLast?_eq_getElem?]
    exact hf

/-- The last field gets its first type. -/
lemma keptIn_of_typed {name : Option Text} {fields : List Field} {f : Field}
    (h : f.declared = none) (type : Text) :
    KeptIn ⟨name, fields ++ [f]⟩ ⟨name, fields ++ [f.withType type]⟩ := by
  refine ⟨fun _ h => h, by simp, fun i hi => ?_, fun g hg => ⟨f.withType type, by simp, ?_⟩⟩
  · have hfront : i < fields.length := by simpa using hi
    rw [List.getElem?_append_left hfront, List.getElem?_append_left hfront]
  · obtain rfl : f = g := by simpa using hg
    exact .typed h

end KeptIn

/-! ### One line -/

namespace Scan

variable {s s' : Scan}

/-- What one line can do to a scan. -/
inductive Step (s : Scan) : Scan → Prop
  /-- It names the class, which has no name yet. -/
  | named (name : Text) (h : s.entity.className = none) :
      Step s { s with entity := { s.entity with className := some name } }
  /-- It changes at most the comment that is open. -/
  | commented (comment : Option (List Text)) : Step s { s with comment }
  /-- It ends a comment that documents a column, and so adds a field that waits for its type. -/
  | noted (column label : Text) :
      Step s ⟨⟨s.entity.className, s.entity.fields ++ [.ofColumn column label]⟩, none, true⟩
  /-- It declares the type that the last field waits for. -/
  | typed (type : Text) (h : s.awaiting = true) :
      Step s { s with
        entity := { s.entity with fields := typeLast type s.entity.fields }, awaiting := false }

/-- The end of a comment. -/
lemma step_close (s : Scan) (lines : List Text) : s.Step (s.close lines) := by
  unfold close
  split
  next => exact .commented none
  next column label _ => exact .noted column label

/-- The opening of a comment. -/
lemma step_openComment (s : Scan) (rest : Text) : s.Step (s.openComment rest) := by
  unfold openComment
  split
  next => exact s.step_close _
  next => exact .commented _

/-- A line inside a comment. -/
lemma step_continueComment (s : Scan) (lines : List Text) (line : Text) :
    s.Step (s.continueComment lines line) := by
  unfold continueComment
  split
  next => exact s.step_close _
  next =>
    split
    next => exact .commented _
    next => exact .commented s.comment

/-- A line outside of comments. -/
lemma step_code (s : Scan) (line : Text) : s.Step (s.code line) := by
  unfold code
  split
  next hawaiting =>
    split
    next d _ => exact .typed d.type hawaiting
    next => exact .commented s.comment
  next => exact .commented s.comment

/-- A line that is not the header of the class. -/
lemma step_body (s : Scan) (line : Text) : s.Step (s.body line) := by
  unfold body
  split
  next rest _ => exact s.step_openComment rest
  next =>
    split
    next lines _ => exact s.step_continueComment lines line
    next => exact s.step_code line

/-- **Every line makes a step.** -/
lemma step_line (s : Scan) (raw : Text) : s.Step (s.line raw) := by
  unfold line
  dsimp only
  split
  next name hnone _ => exact .named name hnone
  next => exact s.step_body (trim raw)

/-- If a field waits for its type, it is the last one, and it has no type. -/
def Ready (s : Scan) : Prop :=
  s.awaiting = true → ∃ f, s.entity.fields.getLast? = some f ∧ f.declared = none

/-- A step leaves no field waiting that has a type. -/
lemma Step.ready (h : s.Step s') (hready : s.Ready) : s'.Ready := by
  cases h with
  | named => exact hready
  | commented => exact hready
  | noted column label => exact fun _ => ⟨.ofColumn column label, by simp, rfl⟩
  | typed => exact fun hawaiting => by cases hawaiting

/-- **A step revises nothing** that was extracted before. -/
lemma Step.keptIn (h : s.Step s') (hready : s.Ready) : s.entity.KeptIn s'.entity := by
  cases h with
  | named name hnone =>
    refine ⟨fun other hother => ?_, le_rfl, fun _ _ => rfl, (KeptIn.refl s.entity).last⟩
    rw [hnone] at hother
    cases hother
  | commented => exact .refl s.entity
  | noted => exact keptIn_of_fields (List.prefix_append _ _)
  | typed type hawaiting =>
    obtain ⟨f, hlast, hnone⟩ := hready hawaiting
    obtain ⟨front, hfields⟩ := List.getLast?_eq_some_iff.mp hlast
    have hentity : s.entity = ⟨s.entity.className, front ++ [f]⟩ := by rw [← hfields]
    simp only [hfields, typeLast_append]
    rw [hentity]
    exact keptIn_of_typed hnone type

/-! ### All lines -/

/-- Before the first line no field waits. -/
lemma ready_start : start.Ready := fun h => by cases h

/-- **No field waits that has a type**, whatever lines are read. -/
lemma ready_foldl (lines : List Text) {s : Scan} (h : s.Ready) : (lines.foldl line s).Ready := by
  induction lines generalizing s with
  | nil => exact h
  | cons raw lines ih => exact ih ((s.step_line raw).ready h)

/-- **Nothing that was extracted is revised**, whatever lines are read. -/
lemma keptIn_foldl (lines : List Text) {s : Scan} (h : s.Ready) :
    s.entity.KeptIn (lines.foldl line s).entity := by
  induction lines generalizing s with
  | nil => exact .refl s.entity
  | cons raw lines ih =>
    have hstep := s.step_line raw
    exact (hstep.keptIn h).trans (ih (hstep.ready h))

end Scan

/-- **More text at the end of a source revises nothing.**  The class keeps its name, and the fields
stay as they are, the last one up to its first type.  At every point of a scan, a field that waits
for its type is the last one and has none. -/
theorem ofSource_append_keeps (a b : Text) :
    (ofSource (a ++ ['\n'])).KeptIn (ofSource (a ++ ['\n'] ++ b)) ∧
      ∀ lines : List Text, (lines.foldl Scan.line .start).Ready := by
  have hready (lines : List Text) : (lines.foldl Scan.line .start).Ready :=
    Scan.ready_foldl lines Scan.ready_start
  refine ⟨?_, hready⟩
  have hlines : lines (a ++ ['\n'] ++ b) = lines (a ++ ['\n']) ++ lines b := by
    rw [List.append_assoc, List.singleton_append, lines_append_lines]
  rw [ofSource, ofSource, hlines, List.foldl_append]
  exact Scan.keptIn_foldl _ (hready _)

end Entity

end RuleSheet
