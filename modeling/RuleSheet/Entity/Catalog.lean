import RuleSheet.Entity.Source
import RuleSheet.Files.Source

/-!
# The entity catalog

Rule lines name entities by identifiers.  The catalog knows which source file belongs to which
identifier, extracts an entity when it is first asked for, and remembers the answer, found or not.

## Main definitions

* `RuleSheet.Entity.extract` — the entity of a source file.
* `RuleSheet.Catalog` — configured sources and remembered answers.
* `RuleSheet.Catalog.get` — the entity of an identifier, with the catalog after the question.

## Design

An identifier is looked up as it is written, and then by its key, so that `手袋(L01)` finds what
is configured as `手袋(Ｌ０１)`.  Of several identifiers that agree with it the smallest wins.
-/

set_option autoImplicit false

namespace RuleSheet

/-- The entity of a source file.  If the source has no public class, the file name stands in for
the class name. -/
def Entity.extract (tree : FileTree) (path : Text) : Except SourceFailure Entity := do
  let entity := Entity.ofSource (← tree.readSource .entity path)
  match entity.className with
  | some _ => return entity
  | none => return { entity with className := Path.stem? path }

/-- Configured sources and remembered answers. -/
structure Catalog where
  /-- The source file of each configured identifier. -/
  sources : Dictionary Text
  /-- The answer for each identifier that was asked for or registered. -/
  loaded : Dictionary (Option Entity)

namespace Catalog

/-- A catalog that has not been asked yet. -/
def ofSources (sources : Dictionary Text) : Catalog := ⟨sources, .empty⟩

/-- The catalog with an entity registered under an identifier. -/
def withEntity (c : Catalog) (id : Text) (e : Entity) : Catalog :=
  { c with loaded := c.loaded.insert id (some e) }

/-- The source file for an identifier: its own, or that of the smallest identifier that agrees
with it. -/
def sourcePath? (c : Catalog) (id : Text) : Option Text :=
  c.sources.find? id <|> (c.sources.first? fun other _ => Label.agree other id).map (·.2)

/-- The entity remembered under the smallest identifier that agrees with the given one. -/
def remembered? (c : Catalog) (id : Text) : Option Entity :=
  (c.loaded.first? fun other answer => answer.isSome && Label.agree other id).bind (·.2)

/-- The entity of the source file for an identifier; none if it has no file or the file cannot be
read. -/
def load? (tree : FileTree) (c : Catalog) (id : Text) : Option Entity := do
  (Entity.extract tree (← c.sourcePath? id)).toOption

/-- The entity of an identifier that was not asked for before. -/
def lookUp (tree : FileTree) (c : Catalog) (id : Text) : Option Entity :=
  c.remembered? id <|> c.load? tree id

/-- The entity of an identifier, and the catalog after the question. -/
def get (tree : FileTree) (c : Catalog) (id : Text) : Option Entity × Catalog :=
  match c.loaded.find? id with
  | some answer => (answer, c)
  | none =>
    let answer := c.lookUp tree id
    (answer, { c with loaded := c.loaded.insert id answer })

/-- The number of identifiers with a known entity. -/
def loadedCount (c : Catalog) : Nat := (c.loaded.values.filter Option.isSome).length

end Catalog

end RuleSheet
