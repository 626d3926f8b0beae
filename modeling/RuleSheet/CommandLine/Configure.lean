import RuleSheet.CommandLine.Settings
import RuleSheet.Console.Basic

/-!
# Settings from the command line

The commands that show the settings, write a settings file, and check that the settings can be used.

## Main definitions

* `RuleSheet.CommandLine.showSettings`, `initSettings` — showing and writing.
* `RuleSheet.CommandLine.Settings.problems` — why the settings cannot be used.
* `RuleSheet.CommandLine.validateSettings` — checking.
-/

set_option autoImplicit false

namespace RuleSheet.CommandLine

open Text

/-! ### Showing and writing -/

/-- Shows the settings. -/
def showSettings (c : Console) (s : Settings) : Text :=
  c.info (match s.source with
    | some path => "Configuration from " ++ path
    | none => "No configuration file found; showing defaults") ++ c.data s.document

/-- Writes a settings file, over an existing one only if forced. -/
def initSettings (c : Console) (tree : FileTree) (path : Text) (force : Bool) :
    Except Failure (Text × FileTree) := do
  if tree.hasEntry path && !force then
    throw (.settings (path ++ " already exists (use --force to overwrite)"))
  let tree ← (tree.makeFolders ((Path.parent? path).getD [])).mapError .file
  let tree ← (tree.write path Settings.starter).mapError .file
  return (c.success ("✓ Created " ++ path) ++
    c.info "Add entity_files entries for every entity your rules reference.", tree)

/-! ### Checking -/

namespace Settings

/-- The files that the settings name, with the keys that name them. -/
def references (s : Settings) : List (Text × Text) :=
  (s.inputFile.map fun path => ("converter.input_file".toList, path)).toList ++
    (s.options.definitionsFile.map fun path =>
      ("converter.definitions_file".toList, path)).toList ++
    s.options.entityFiles.entries.map fun (id, path) => ("converter.entity_files." ++ id, path)

/-- The files that are named and not there. -/
def missing (tree : FileTree) (s : Settings) : List Text :=
  (s.references.filter fun (_, path) => !tree.hasEntry path).map
    fun (key, path) => key ++ ": " ++ path ++ " does not exist"

/-- The entity sources that are there, with what is extracted from them. -/
def extracted (tree : FileTree) (s : Settings) :
    List (Text × Text × Except SourceFailure Entity) :=
  (s.options.entityFiles.entries.filter fun (_, path) => tree.hasEntry path).map
    fun (id, path) => (id, path, Entity.extract tree path)

/-- The entity sources that cannot be read. -/
def unreadable (tree : FileTree) (s : Settings) : List Text :=
  (s.extracted tree).filterMap fun (id, _, e) =>
    match e with
    | .ok _ => none
    | .error f => some (id ++ ": " ++ f.message)

/-- The variable definitions if they are there and cannot be read. -/
def unreadableDefinitions (tree : FileTree) (s : Settings) : List Text :=
  match s.options.definitionsFile with
  | none => []
  | some path =>
    if !tree.hasEntry path then []
    else match Variables.load tree path with
      | .ok _ => []
      | .error f => [f.message]

/-- Why the settings cannot be used. -/
def problems (tree : FileTree) (s : Settings) : List Text :=
  s.missing tree ++ s.unreadable tree ++ s.unreadableDefinitions tree

end Settings

/-- What is said about an entity source that is there. -/
def extractedMessage (c : Console) (id path : Text) : Except SourceFailure Entity → Text
  | .error _ => []
  | .ok e =>
    if e.fields = [] then c.warning (id ++ ": no commented fields in " ++ path)
    else c.debug (id ++ ": " ++ Text.ofNat e.fields.length ++ " field(s)")

/-- What is said about settings before the verdict on them. -/
def validateRemarks (c : Console) (tree : FileTree) (s : Settings) : Text :=
  ((s.extracted tree).flatMap fun (id, path, e) => extractedMessage c id path e) ++
    if s.options.postprocess && s.options.definitionsFile.isNone then
      c.warning ("postprocess is enabled without a definitions_file; " ++
        "only entity fields get typed comparisons")
    else []

/-- Checks the settings.  The text is what is written to the console in either case. -/
def validateSettings (c : Console) (tree : FileTree) (s : Settings) :
    Text × Except Failure Unit :=
  let remarks := validateRemarks c tree s
  match s.problems tree with
  | [] => (remarks ++ c.success "✓ Configuration is valid", .ok ())
  | problems =>
    (remarks ++ problems.flatMap (fun problem => c.error ("✗ " ++ problem)),
      .error (.settings (Text.ofNat problems.length ++ " problem(s) found")))

end RuleSheet.CommandLine
