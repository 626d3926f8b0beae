import RuleSheet.CommandLine.Run

/-!
# The program

The command line on the files of a machine: what a run looks at is read, the run is made, and what
it changes is written.
-/

set_option autoImplicit false

namespace RuleSheet.Program

open CommandLine

/-- The error code for a folder in the place of a file. -/
def folderCode : UInt32 := 21

/-- The tree with what is on the machine at a path. -/
def look (tree : FileTree) (path : Text) : IO FileTree := do
  match ← (IO.FS.readBinFile (String.ofList path)).toBaseIO with
  | .ok bytes => return tree.withFound path (.file (.ofBytes bytes.toList))
  | .error (.inappropriateType _ code _) =>
    return if code = folderCode then tree.withFound path .folder else tree
  | .error _ => return tree

/-- The bytes of a content. -/
def bytesOf : Content → ByteArray
  | .text t => (String.ofList t).toUTF8
  | .binary bytes => ⟨bytes.toArray⟩

/-- Writes a file of the machine. -/
def save (place : Text) (content : Content) : IO Unit := do
  match Path.parent? place with
  | some [] | none => pure ()
  | some folder => IO.FS.createDirAll (String.ofList folder)
  IO.FS.writeBinFile (String.ofList place) (bytesOf content)

/-- All that is left of a stream. -/
partial def drain (stream : IO.FS.Stream) (read : ByteArray) : IO ByteArray := do
  let chunk ← stream.read 65536
  if chunk.isEmpty then return read else drain stream (read ++ chunk)

/-- What is piped in. -/
def piped : IO (Option Content) := do
  let stdin ← IO.getStdin
  if ← stdin.isTty then return none
  return some (.ofBytes (← drain stdin .empty).toList)

/-- The environment of a run. -/
def environment : IO Environment := do
  let stdout ← IO.getStdout
  let values ← match ← IO.getEnv "RULEGEN_CONFIG" with
    | some path => pure (Dictionary.empty.insert "RULEGEN_CONFIG" path.toList)
    | none => pure .empty
  return { values, terminal := ← stdout.isTty }

/-- The environment and the files that an invocation meets. -/
def prepare (e : Environment) (i : Invocation) : IO (Environment × FileTree) := do
  let tree ← i.settingsFiles.foldlM look .empty
  match Settings.load tree i.config with
  | .error _ => return (e, tree)
  | .ok s =>
    let tree ← (commandFiles s i.command).foldlM look tree
    let stdin ← if readsStdin s i.command then piped else pure none
    return ({ e with stdin }, tree)

/-- Makes a run, and gives its exit code. -/
def perform (args : List Text) : IO UInt32 := do
  let e ← environment
  let (e, tree) ← match Invocation.parse e.config args with
    | .ok i => prepare e i
    | .error _ => pure (e, .empty)
  let o := CommandLine.run e tree args
  for (place, content) in tree.changes o.tree do
    save place content
  IO.print (String.ofList o.stdout)
  IO.eprint (String.ofList o.stderr)
  return UInt32.ofNat o.exitCode

end RuleSheet.Program

/-- The entry point. -/
def main (args : List String) : IO UInt32 := RuleSheet.Program.perform (args.map String.toList)
