import RuleSheet.Proofs.Conversion.Comments
import RuleSheet.Proofs.Conversion.Sources
import RuleSheet.Proofs.TypeIndex

/-!
# Sources that can be read

If every configured source can be read, a configured entity is always found: by its identifier or by
one that agrees with it, at the first question or after any others, and whatever else the converter
is used for in between.  So no line is left to do because such an entity was missing.

## Main definitions

* `RuleSheet.Catalog.Available` — every configured source can be read.
* `RuleSheet.Catalog.Configured` — an identifier that is configured, or agrees with one that is.
* `RuleSheet.Catalog.Answering` — a catalog that remembers no failure for such an identifier.
* `RuleSheet.Obstacle.Spares` — a reason other than that a configured entity is missing.
* `RuleSheet.Converter.Use` — what a converter can be used for.

## Main results

* `RuleSheet.Catalog.Answering.get` — a question is answered, and the catalog stays answering.
* `RuleSheet.Lexicon.Lockstep.answering` — so does everything that is done with a lexicon.
* `RuleSheet.spares_classify` — no line is left to do because a configured entity is missing.
* `RuleSheet.Converter.answering_useAll` — a converter stays answering whatever it is used for.
* `RuleSheet.Converter.exists_of_mem_todos` — the items of a report come from the lines that were
  read.
-/

set_option autoImplicit false

namespace RuleSheet

/-! ### Catalogs -/

namespace Catalog

/-- Every configured source can be read. -/
def Available (tree : FileTree) (sources : Dictionary Text) : Prop :=
  ∀ id path, sources.find? id = some path → ∃ e, Entity.extract tree path = .ok e

/-- An identifier that is configured, or agrees with one that is. -/
def Configured (sources : Dictionary Text) (id : Text) : Prop :=
  ∃ owner, (sources.find? owner).isSome = true ∧ Names owner id

/-- A catalog over the sources that remembers no failure for a configured identifier. -/
structure Answering (sources : Dictionary Text) (c : Catalog) : Prop where
  /-- The sources are the configured ones. -/
  sources_eq : c.sources = sources
  /-- No failure is remembered. -/
  remembers : ∀ id, Configured sources id → c.loaded.find? id ≠ some none

variable {tree : FileTree} {sources : Dictionary Text} {c : Catalog}

/-- A catalog that has not been asked remembers nothing. -/
lemma answering_ofSources (sources : Dictionary Text) : Answering sources (ofSources sources) :=
  ⟨rfl, fun _ _ h => by cases h⟩

/-- A configured identifier has a source file. -/
lemma Configured.isSome_sourcePath? {id : Text} (hid : Configured c.sources id) :
    (c.sourcePath? id).isSome = true := by
  obtain ⟨owner, howner, hnames⟩ := hid
  obtain ⟨path, hpath⟩ := Option.isSome_iff_exists.mp howner
  rw [sourcePath?, Option.orElse_eq_orElse, Option.orElse_eq_or, Option.isSome_or]
  rcases hnames with rfl | hagree
  · rw [howner]
    rfl
  · cases hfirst : c.sources.first? fun other _ => Label.agree other id with
    | some entry => simp
    | none =>
      rw [Dictionary.not_of_first?_eq_none hfirst hpath] at hagree
      cases hagree

/-- A configured identifier has an entity, if all sources can be read. -/
lemma Available.isSome_load? (available : Available tree c.sources) {id : Text}
    (hid : Configured c.sources id) : (c.load? tree id).isSome = true := by
  obtain ⟨path, hpath⟩ := Option.isSome_iff_exists.mp hid.isSome_sourcePath?
  have hvalue := mem_values_of_sourcePath? hpath
  obtain ⟨⟨owner, _⟩, hentry, rfl⟩ := List.mem_map.mp hvalue
  obtain ⟨e, he⟩ := available owner _ ((Dictionary.find?_eq_some_iff _ _ _).mpr hentry)
  simp [load?, hpath, he, Except.toOption]

/-- **A question keeps a catalog answering**, and is answered if it is for a configured
identifier. -/
lemma Answering.get (h : Answering sources c) (available : Available tree sources) (id : Text) :
    Answering sources (c.get tree id).2 ∧
      (Configured sources id → (c.get tree id).1.isSome = true) := by
  obtain ⟨rfl, hremembers⟩ := h
  cases hfind : c.loaded.find? id with
  | some answer =>
    rw [get_of_find? hfind]
    refine ⟨⟨rfl, hremembers⟩, fun hid => ?_⟩
    cases answer with
    | some e => rfl
    | none => exact absurd hfind (hremembers id hid)
  | none =>
    have hlookUp : Configured c.sources id → (c.lookUp tree id).isSome = true := by
      intro hid
      rw [lookUp, Option.orElse_eq_orElse, Option.orElse_eq_or, Option.isSome_or,
        available.isSome_load? hid, Bool.or_true]
    rw [get_of_find?_eq_none hfind]
    refine ⟨⟨rfl, fun j hj hnone => ?_⟩, hlookUp⟩
    by_cases hsame : j = id
    · subst hsame
      rw [Dictionary.find?_insert_self] at hnone
      have hsome := hlookUp hj
      rw [Option.some.inj hnone] at hsome
      cases hsome
    · rw [Dictionary.find?_insert_of_ne _ hsame] at hnone
      exact hremembers j hj hnone

end Catalog

/-! ### Lexicons -/

/-- A reason other than that a configured entity is missing. -/
def Obstacle.Spares (sources : Dictionary Text) : Obstacle → Prop
  | .entityNotFound id => ¬ Catalog.Configured sources id
  | _ => True

namespace Lexicon

variable {tree : FileTree} {sources : Dictionary Text} {l : Lexicon}

/-- A lexicon with an answering catalog is coupled with itself. -/
def answeringCoupling (available : Catalog.Available tree sources) : Coupling tree tree where
  Rel l l' := l = l' ∧ l.catalog.Answering sources
  get h id := by
    obtain ⟨rfl, hanswering⟩ := h
    exact ⟨rfl, rfl, (hanswering.get available id).1⟩
  owner h id e := by rw [h.1]
  record h _ _ := by
    obtain ⟨rfl, hanswering⟩ := h
    exact ⟨rfl, hanswering⟩

/-- **What is done with a lexicon keeps its catalog answering.** -/
lemma Lockstep.answering {available : Catalog.Available tree sources} {α : Type}
    {f : FileTree → Lexicon → α × Lexicon} (hf : Lockstep (answeringCoupling available) f)
    (h : l.catalog.Answering sources) : (f tree l).2.catalog.Answering sources :=
  (hf l l ⟨rfl, h⟩).2.2

variable (available : Catalog.Available tree sources) (h : l.catalog.Answering sources)

include available h

/-- The field of a configured entity is not missing because of the entity. -/
lemma spares_of_field {id label : Text} {reason : Obstacle}
    (herror : (l.field tree id label).1 = .error reason) : reason.Spares sources := by
  rcases error_of_field herror with ⟨rfl, hnone⟩ | rfl
  · intro hid
    have hsome := (h.get available id).2 hid
    rw [hnone] at hsome
    cases hsome
  · trivial

/-- Nor is the answer to any other question. -/
lemma spares_of_answer {q : Query} {reason : Obstacle}
    (herror : (l.answer tree q).1 = .error reason) : reason.Spares sources := by
  cases q with
  | operand text =>
    obtain ⟨id, label, -, hfield⟩ := error_of_resolve herror
    exact spares_of_field available h hfield
  | reference r =>
    obtain ⟨id, label, -, hfield⟩ := error_of_reference herror
    exact spares_of_field available h hfield
  | field id label =>
    obtain ⟨_, _, heq, hfield⟩ := error_of_reference (r := .field id label) herror
    exact spares_of_field available h hfield

/-- A question keeps the catalog answering. -/
lemma answering_answer (q : Query) : (l.answer tree q).2.catalog.Answering sources := by
  cases q with
  | operand text => exact (lockstep_resolve (answeringCoupling available) text).answering h
  | reference r => exact (lockstep_reference (answeringCoupling available) r).answering h
  | field id label => exact (lockstep_field (answeringCoupling available) id label).answering h

end Lexicon

/-! ### Lines -/

/-- A clause that is not left to do because a configured entity is missing. -/
def Clause.Spares (sources : Dictionary Text) : Clause → Prop
  | .statement (.todo _ reason) => reason.Spares sources
  | _ => True

section

variable {tree : FileTree} {sources : Dictionary Text} (available : Catalog.Available tree sources)

include available

/-- **No line is left to do because a configured entity is missing.** -/
lemma spares_classify (helpers : Helpers) (line : Text) {l : Lexicon}
    (h : l.catalog.Answering sources) : (classify tree helpers line l).1.Spares sources := by
  unfold classify
  rcases recognize line with _ | ⟨name, s⟩
  · trivial
  · have houtcome := s.outcome_clause tree helpers line l
    dsimp only
    generalize (s.clause tree helpers line l).1 = made at houtcome
    cases houtcome with
    | opening _ => trivial
    | continuation _ => trivial
    | @made st hst =>
      cases st with
      | todo kept reason => cases hst
      | setField setter value label => trivial
      | setVariable name value => trivial
      | setFlag name value => trivial
    | unsupported _ => trivial
    | missed _ hbefore herror =>
      rcases hbefore with rfl | ⟨id, label, rfl⟩
      · exact Lexicon.spares_of_field available h herror
      · have hafter :=
          (Lexicon.lockstep_field (Lexicon.answeringCoupling available) id label).answering h
        exact Lexicon.spares_of_field available hafter herror

/-- Nor is any line of a sheet. -/
lemma Converter.spares_readLines (helpers : Helpers) (lines : List Text) :
    ∀ (number : Nat) {l : Lexicon}, l.catalog.Answering sources →
      ∀ line, some line ∈ (readLines tree helpers number lines l).1 →
        line.clause.Spares sources := by
  induction lines with
  | nil => exact fun number l h line hline => by cases hline
  | cons raw rest ih =>
    intro number l h line hline
    rw [readLines_cons] at hline
    rcases List.mem_cons.mp hline with hfirst | hrest
    · unfold readLine at hfirst
      cases hnormal : Line.normalize raw with
      | none =>
        rw [hnormal] at hfirst
        cases hfirst
      | some text =>
        rw [hnormal] at hfirst
        obtain rfl := Option.some.inj hfirst
        exact spares_classify available helpers text h
    · have hnext := (lockstep_readLine (Lexicon.answeringCoupling available) helpers number
        raw).answering h
      exact ih (number + 1) hnext line hrest

end

/-! ### The items of a report -/

/-- The statements of an assembly are made of the lines that were put in. -/
lemma Assembly.exists_makes_of_mem_foldl (scope : BlockScope) (policy : Policy) {s : Statement}
    {read : List (Option SheetLine)}
    (hkeeps : ∀ line, some line ∈ read → line.clause.Keeps line.text) :
    ∀ a : Assembly, s ∈ (read.foldl (step scope policy) a).statements →
      s ∈ a.statements ∨ ∃ line, some line ∈ read ∧ line.Makes s := by
  induction read with
  | nil => exact fun a hs => .inl hs
  | cons first rest ih =>
    intro a hs
    obtain ⟨made, hmade, hmakes⟩ := exists_statements_step scope policy a first
      fun line hline => hkeeps line (by simp [Option.mem_def.mp hline])
    rcases ih (fun line hline => hkeeps line (List.mem_cons_of_mem _ hline)) _ hs with
      hs | ⟨line, hline, hs⟩
    · rw [hmade, List.mem_append] at hs
      refine hs.imp_right fun hs => ?_
      obtain ⟨line, hline, hs⟩ := hmakes s hs
      exact ⟨line, by simp [Option.mem_def.mp hline], hs⟩
    · exact .inr ⟨line, List.mem_cons_of_mem _ hline, hs⟩

namespace Converter

/-- An item of a statement has the reason of the statement. -/
lemma reason_of_mem_todoItems {line : Nat} {s : Statement} {item : TodoItem}
    (h : item ∈ todoItems line s) :
    ∃ kept reason, s = .todo kept reason ∧ item.code = reason.code ∧
      item.reason = reason.message := by
  cases s with
  | todo kept reason =>
    obtain rfl := List.mem_singleton.mp h
    exact ⟨kept, reason, rfl, rfl, rfl⟩
  | setField setter value label => cases h
  | setVariable name value => cases h
  | setFlag name value => cases h

/-- An item of a piece is that of one of its statements. -/
lemma exists_of_mem_pieceTodos {p : Piece} {item : TodoItem} (h : item ∈ p.todos) :
    ∃ line, ∃ s ∈ p.statements, item ∈ todoItems line s := by
  cases p with
  | block b =>
    obtain ⟨s, hs, hitem⟩ := List.mem_flatMap.mp h
    exact ⟨b.line, s, hs, hitem⟩
  | alone line s => exact ⟨line, s, List.mem_singleton_self s, h⟩

variable (tree : FileTree) (c : Converter) (lines : List Text)

/-- A statement of a sheet in block mode is made of a line that was read. -/
lemma exists_makes_of_mem_ofLines {p : Piece}
    (hp : p ∈ (Assembly.ofLines c.options.scope c.options.policy
      (readLines tree c.options.helpers 1 lines c.lexicon).1).1) {s : Statement}
    (hs : s ∈ p.statements) :
    ∃ line, some line ∈ (readLines tree c.options.helpers 1 lines c.lexicon).1 ∧ line.Makes s := by
  have hkeeps : ∀ line, some line ∈ (readLines tree c.options.helpers 1 lines c.lexicon).1 →
      line.clause.Keeps line.text := by
    intro line hline
    obtain ⟨i, hi⟩ := List.mem_iff_getElem?.mp hline
    exact keeps_read hi
  rw [Assembly.ofLines_eq_close _ _ (readLines_ascending tree c.options.helpers lines 1 c.lexicon)]
    at hp
  have hmem := List.mem_flatMap.mpr ⟨p, hp, hs⟩
  rw [Assembly.flatMap_close] at hmem
  exact (Assembly.exists_makes_of_mem_foldl _ _ hkeeps _ hmem).resolve_left (by
    simp [Assembly.start, Assembly.statements])

/-- **The items of a report come from the lines that were read**, in either mode. -/
lemma exists_of_mem_todos {item : TodoItem} (h : item ∈ (c.run tree lines).1.report.todos) :
    ∃ line kept reason, some line ∈ (readLines tree c.options.helpers 1 lines c.lexicon).1 ∧
      line.Makes (.todo kept reason) ∧ item.code = reason.code ∧ item.reason = reason.message := by
  unfold run at h
  split at h
  next =>
    have hall : (c.convertBlocks tree lines).1.report.todos = _ :=
      (units_writePieces tree c.options c.defined _ _).2
    rw [hall] at h
    obtain ⟨p, hp, hitem⟩ := List.mem_flatMap.mp h
    obtain ⟨number, s, hs, hitem⟩ := exists_of_mem_pieceTodos hitem
    obtain ⟨kept, reason, rfl, hcode, hreason⟩ := reason_of_mem_todoItems hitem
    obtain ⟨line, hline, hmakes⟩ := exists_makes_of_mem_ofLines tree c lines hp hs
    exact ⟨line, kept, reason, hline, hmakes, hcode, hreason⟩
  next =>
    rw [convertLines_eq] at h
    obtain ⟨w, hw, hitem⟩ := List.mem_flatMap.mp h
    obtain ⟨⟨number, s⟩, hentry, rfl⟩ := List.mem_map.mp hw
    obtain ⟨read, hread, hown⟩ := List.mem_filterMap.mp hentry
    obtain ⟨line, rfl, hstatement⟩ := Option.bind_eq_some_iff.mp hown
    obtain ⟨s', hs', heq⟩ := Option.map_eq_some_iff.mp hstatement
    obtain ⟨rfl, rfl⟩ := Prod.mk.inj heq
    obtain ⟨kept, reason, rfl, hcode, hreason⟩ := reason_of_mem_todoItems hitem
    exact ⟨line, kept, reason, hread, makes_of_lineStatement? hs', hcode, hreason⟩

/-- No item of a report says that a configured entity is missing. -/
lemma spares_of_mem_todos {sources : Dictionary Text} (available : Catalog.Available tree sources)
    (hanswering : c.lexicon.catalog.Answering sources) {item : TodoItem}
    (h : item ∈ (c.run tree lines).1.report.todos) :
    ∃ reason : Obstacle, item.code = reason.code ∧ item.reason = reason.message ∧
      reason.Spares sources := by
  obtain ⟨line, kept, reason, hline, hmakes, hcode, hreason⟩ := exists_of_mem_todos tree c lines h
  refine ⟨reason, hcode, hreason, ?_⟩
  rcases hmakes with hclause | ⟨text, hunrecognized⟩
  · have hspares := spares_readLines available c.options.helpers lines 1 hanswering line hline
    rw [hclause] at hspares
    exact hspares
  · obtain ⟨-, rfl⟩ := Statement.todo.inj hunrecognized
    trivial

/-! ### Whatever a converter is used for -/

/-- What a converter can be used for. -/
inductive Use where
  /-- An entity is looked up. -/
  | entity (id : Text)
  /-- A question is asked. -/
  | query (q : Lexicon.Query)
  /-- A line is converted on its own. -/
  | line (raw : Text)
  /-- A sheet is converted. -/
  | sheet (lines : List Text)

/-- The converter after a use. -/
def use (c : Converter) : Use → Converter
  | .entity id =>
    { c with lexicon := { c.lexicon with catalog := (c.lexicon.catalog.get tree id).2 } }
  | .query q => { c with lexicon := (c.lexicon.answer tree q).2 }
  | .line raw => (c.convertLine tree raw).2
  | .sheet lines => (c.run tree lines).2

/-- The converter after several uses. -/
def useAll (c : Converter) (uses : List Use) : Converter := uses.foldl (use tree) c

section

variable {tree : FileTree} {sources : Dictionary Text} (available : Catalog.Available tree sources)

include available

/-- **A use keeps the catalog answering.** -/
lemma answering_use {c : Converter} (h : c.lexicon.catalog.Answering sources) (u : Use) :
    (c.use tree u).lexicon.catalog.Answering sources := by
  cases u with
  | entity id => exact (h.get available id).1
  | query q => exact Lexicon.answering_answer available h q
  | line raw =>
    exact (lockstep_readLine (Lexicon.answeringCoupling available) c.options.helpers 1
      raw).answering h
  | sheet lines =>
    have hread := (lockstep_readLines (Lexicon.answeringCoupling available) c.options.helpers lines
      1).answering h
    have hwrite : ∀ pieces, Lexicon.Lockstep (Lexicon.answeringCoupling available) fun t =>
        writePieces t c.options c.defined pieces := fun pieces =>
      lockstep_writePieces _ _ _ fun _ l l' hrel => by rw [hrel.1]
    show (c.run tree lines).2.lexicon.catalog.Answering sources
    unfold run
    split
    next => exact (hwrite _).answering hread
    next => exact hread

/-- So do several uses. -/
lemma answering_useAll (uses : List Use) : ∀ {c : Converter},
    c.lexicon.catalog.Answering sources →
      (c.useAll tree uses).lexicon.catalog.Answering sources := by
  induction uses with
  | nil => exact fun h => h
  | cons u uses ih => exact fun h => ih (answering_use available h u)

end

end Converter

end RuleSheet
