import RuleSheet.Dictionary
import RuleSheet.Files.Path

/-!
# File trees

The files below a working directory, as a value.  Reading and writing are functions on it, so what
a run reads and what it leaves behind can be said without an outside world.

## Main definitions

* `RuleSheet.FileTree` — files and folders by their path from the working directory.
* `RuleSheet.FileTree.read`, `write`, `makeFolders` — the operations that runs perform.
* `RuleSheet.FileFailure` — why one of them fails, with its wording.
-/

set_option autoImplicit false

namespace RuleSheet

open Text

/-- Why a file operation fails. -/
inductive FileFailure where
  /-- There is nothing at the path. -/
  | notFound
  /-- Something is at the path already. -/
  | alreadyExists
  /-- The path goes through a file. -/
  | notAFolder
  /-- There is a folder at the path. -/
  | isAFolder
  /-- Something else than a file is at the path. -/
  | notAFile
  /-- The content is not a text. -/
  | notText
  /-- Another cause, in its own words. -/
  | other (message : Text)
  deriving DecidableEq, Repr

/-- The wording of a failure. -/
def FileFailure.message : FileFailure → Text
  | .notFound => "No such file or directory (os error 2)"
  | .alreadyExists => "File exists (os error 17)"
  | .notAFolder => "Not a directory (os error 20)"
  | .isAFolder => "Is a directory (os error 21)"
  | .notAFile => "the source path is neither a regular file nor a symlink to a regular file"
  | .notText => "stream did not contain valid UTF-8"
  | .other message => message

/-- What a file holds. -/
inductive Content where
  /-- A text. -/
  | text (t : Text)
  /-- Bytes that are not the encoding of a text. -/
  | binary (bytes : List UInt8)
  deriving DecidableEq, Repr

/-- The content with the given bytes. -/
def Content.ofBytes (bytes : List UInt8) : Content :=
  match String.fromUTF8? (ByteArray.mk bytes.toArray) with
  | some s => .text s.toList
  | none => .binary bytes

/-- A file or a folder. -/
inductive FileEntry where
  /-- A file. -/
  | file (content : Content)
  /-- A folder. -/
  | folder
  deriving DecidableEq, Repr

/-- The files and folders that a run can see, by their path from the working directory or from the
root.  A folder that holds something need not be listed. -/
structure FileTree where
  /-- The listed files and folders. -/
  listed : Dictionary FileEntry

namespace FileTree

/-- A working directory without files. -/
def empty : FileTree := ⟨.empty⟩

instance : Inhabited FileTree := ⟨empty⟩

/-- Whether a place is the working directory or one of the folders around it. -/
def isAround (place : Text) : Bool := place = [] || (place.splitOn '/').all (· = "..")

/-- Whether a folder is at the place. -/
def hasFolder (tree : FileTree) (place : Text) : Bool :=
  isAround place || place = ['/'] || tree.listed.find? place = some .folder ||
    tree.listed.entries.any fun (other, _) => startsWith (place ++ ['/']) other

/-- The file at the path. -/
def file? (tree : FileTree) (path : Text) : Option Content :=
  match tree.listed.find? path with
  | some (.file content) => some content
  | _ => none

/-- The path of an entry of a folder. -/
def child (folder name : Text) : Text :=
  if folder = [] ∨ folder = ['/'] then folder ++ name else folder ++ '/' :: name

/-- The folder around a place. -/
def outer (place : Text) : Text :=
  if isAround place then child place ".." else (Path.parent? place).getD ['/']

/-- The place that one piece of a path leads to. -/
def step (place piece : Text) : Text :=
  if piece = [] ∨ piece = ['.'] then place
  else if piece = ".." then outer place
  else child place piece

/-- The place where a path starts. -/
def startOf (path : Text) : Text := if Path.isAbsolute path then ['/'] else []

/-- The place that a path leads to if all folders on the way are there. -/
def placeOf (path : Text) : Text := (path.splitOn '/').foldl step (startOf path)

/-- Follows the pieces of a path from a place.  Everything but the last piece has to lead through
folders; the last piece may name nothing yet. -/
def follow (tree : FileTree) (place : Text) : List Text → Except FileFailure Text
  | [] => .ok place
  | piece :: rest =>
    if (tree.file? place).isSome then .error .notAFolder
    else if !tree.hasFolder place then .error .notFound
    else tree.follow (step place piece) rest

/-- The place that pieces of a path lead to. -/
def locatePieces (tree : FileTree) (path : Text) (pieces : List Text) : Except FileFailure Text :=
  if path = [] then .error .notFound
  else tree.follow (startOf path) pieces

/-- The place that a path leads to. -/
def locate (tree : FileTree) (path : Text) : Except FileFailure Text :=
  tree.locatePieces path (path.splitOn '/')

/-- Whether something is at the path. -/
def hasEntry (tree : FileTree) (path : Text) : Bool :=
  match tree.locate path with
  | .ok place => (tree.file? place).isSome || tree.hasFolder place
  | .error _ => false

/-- Whether the path leads to a folder. -/
def isFolder (tree : FileTree) (path : Text) : Bool :=
  match tree.locate path with
  | .ok place => tree.hasFolder place
  | .error _ => false

/-- The content of a file. -/
def contentAt (tree : FileTree) (path : Text) : Except FileFailure Content := do
  let place ← tree.locate path
  match tree.file? place with
  | some content => return content
  | none => if tree.hasFolder place then throw .isAFolder else throw .notFound

/-- The text of a file. -/
def read (tree : FileTree) (path : Text) : Except FileFailure Text := do
  match ← tree.contentAt path with
  | .text t => return t
  | .binary _ => throw .notText

/-- The tree with a file written.  A path that ends with a slash means a folder. -/
def writeContent (tree : FileTree) (path : Text) (content : Content) :
    Except FileFailure FileTree := do
  if path.getLast? = some '/' then
    let _ ← tree.locatePieces path ((path.splitOn '/').filter (· ≠ []))
    throw .isAFolder
  let place ← tree.locate path
  if tree.hasFolder place then throw .isAFolder
  return ⟨tree.listed.insert place (.file content)⟩

/-- The tree with a text written to a file. -/
def write (tree : FileTree) (path text : Text) : Except FileFailure FileTree :=
  tree.writeContent path (.text text)

/-- The tree with one more folder, whose parent has to be there. -/
def makeFolder (tree : FileTree) (path : Text) : Except FileFailure FileTree := do
  let place ← tree.locate path
  if (tree.file? place).isSome || tree.hasFolder place then throw .alreadyExists
  return ⟨tree.listed.insert place .folder⟩

/-- The tree with a folder and the folders above it, as far as they are missing.  `bound` limits
how many levels are created. -/
def makeFoldersWithin (bound : Nat) (tree : FileTree) (path : Text) :
    Except FileFailure FileTree :=
  if path = [] then .ok tree
  else match tree.makeFolder path with
    | .ok tree => .ok tree
    | .error .notFound =>
      match bound, Path.parent? path with
      | bound + 1, some outer => do
        let tree ← makeFoldersWithin bound tree outer
        match tree.makeFolder path with
        | .ok tree => return tree
        | .error failure => if tree.isFolder path then return tree else throw failure
      | _, _ => .error .notFound
    | .error failure => if tree.isFolder path then .ok tree else .error failure

/-- The tree with a folder and the folders above it, as far as they are missing. -/
def makeFolders (tree : FileTree) (path : Text) : Except FileFailure FileTree :=
  makeFoldersWithin path.length tree path

/-- The tree with a copy of a file. -/
def copy (tree : FileTree) (source target : Text) : Except FileFailure FileTree := do
  if tree.isFolder source then throw .notAFile
  tree.writeContent target (← tree.contentAt source)

/-- The tree with what was found at a path, whatever is known about the folders on the way. -/
def withFound (tree : FileTree) (path : Text) (entry : FileEntry) : FileTree :=
  ⟨tree.listed.insert (placeOf path) entry⟩

/-- The files that are in the second tree and not, or not with this content, in the first. -/
def changes (before after : FileTree) : List (Text × Content) :=
  after.listed.entries.filterMap fun (place, entry) =>
    match entry with
    | .folder => none
    | .file content => if before.file? place = some content then none else some (place, content)

/-- The files below a folder, each by the pieces of its path from there. -/
def filesBelow (tree : FileTree) (path : Text) : List (List Text) :=
  match tree.locate path with
  | .error _ => []
  | .ok place =>
    tree.listed.entries.filterMap fun (other, entry) =>
      match entry with
      | .folder => none
      | .file _ => (after? (child place []) other).map (List.splitOn '/')

end FileTree

end RuleSheet
