import Stencil.CommandLine.Outcome

set_option autoImplicit false

namespace Stencil.CommandLine

def readErrorOf : IO.Error → ReadError
  | .noFileOrDirectory .. => .missing
  | .inappropriateType .. => .isFolder
  | e => .other (toString e)

def loadFile (path : String) : IO (Except ReadError FileTree) := do
  try
    return .ok (.file (← IO.FS.readBinFile path).toList)
  catch e =>
    return .error (readErrorOf e)

-- A name that is no text is listed with marks in it, and nothing is found under what is listed.
def isReachable (entry : IO.FS.DirEntry) : IO Bool :=
  return !entry.fileName.contains Text.replacement || (← entry.path.pathExists)

mutual

partial def loadEntry (entry : IO.FS.DirEntry) : IO (FileName × FileTree) := do
  let name := FileName.ofText entry.fileName
  if ← entry.path.isDir then
    -- A folder that cannot be listed has nothing to run in it.
    let entries ← try entry.path.readDir catch _ => pure #[]
    return (name, .folder (← loadEntries entries))
  else if (Fixture.fixtureName? name).isSome then
    return (name, .file (← IO.FS.readBinFile entry.path).toList)
  else
    return (name, .file [])

partial def loadEntries (entries : Array IO.FS.DirEntry) : IO (List (FileName × FileTree)) := do
  (← entries.toList.filterM isReachable).mapM loadEntry

end

def loadFolder (path : String) : IO (Except ReadError FileTree) := do
  match ← (IO.FS.realPath path).toBaseIO with
  | .error e => return .error (readErrorOf e)
  | .ok place =>
    match (← place.metadata).type with
    | .dir =>
      let entries ← try place.readDir catch _ => pure #[]
      return .ok (.folder (← loadEntries entries))
    | .file => loadFile path
    | _ => return .error .notFolder

def Command.load : Command → String → IO (Except ReadError FileTree)
  | .run _ => loadFile
  | .test _ => loadFolder

/-- Grants more rounds until they are enough; a script without an end is never done with. -/
partial def outcomeFrom (limit : Nat) (disk : Disk) (arguments : List String) : IO Outcome :=
  match performWithin limit disk arguments with
  | some outcome => return outcome
  | none => outcomeFrom (2 * limit) disk arguments

def outcomeNow (arguments : List String) : IO Outcome := do
  let loaded ← match Invocation.read arguments with
    | .error _ => pure []
    | .ok invocation =>
      invocation.command.paths.mapM fun path => return (path, ← invocation.command.load path)
  outcomeFrom roundLimit (fun path => (loaded.lookup path).getD (.error .missing)) arguments

end Stencil.CommandLine

def main (arguments : List String) : IO UInt32 := do
  let outcome ← Stencil.CommandLine.outcomeNow arguments
  (← IO.getStdout).write outcome.stdout.toByteArray
  (← IO.getStderr).putStr outcome.stderr
  return outcome.exitCode.toUInt32
