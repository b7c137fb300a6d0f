import PackageFinder.Command.Execute

/-!
# The program

Reads the variables and the files that can matter, carries out the command, and writes what it
says.  There is no network here: every request finds it unreachable.  Nor is there a language of
filters for the log: what is shown is what the arguments ask for.
-/

namespace PackageFinder

/-- Why a file cannot be read, by the error that reading it gives. -/
def FileError.ofIO (e : IO.Error) : FileError :=
  match e with
  | .noFileOrDirectory .. => .notFound
  | .inappropriateType _ 20 _ => .notDirectory
  | .inappropriateType _ 21 _ => .isDirectory
  | .permissionDenied _ number reason => .refused reason number.toNat
  | e => .refused (toString e) 0

/-- Whether something stands at a path, be it readable or not. -/
def leadsSomewhere (path : String) : IO Bool := do
  try
    discard <| IO.FS.realPath path
    return true
  catch _ => return false

/-- What stands at a path. -/
def readFileNode (path : String) : IO (Except FileError FileNode) := do
  try
    return .ok (.file (← IO.FS.readBinFile path).toList)
  catch e =>
    match FileError.ofIO e with
    | .isDirectory => return .ok .directory
    | .refused reason number =>
      let cause := FileError.refused reason number
      return if ← leadsSomewhere path then .ok (.unreadable cause) else .error cause
    | cause => return .error cause

/-- The files at some paths; there are no others. -/
def readFiles (paths : List String) : IO Files := do
  let nodes ← paths.mapM fun path => return (path, ← readFileNode path)
  return fun path => (nodes.lookup path).getD (.error .notFound)

/-- The variables that can matter. -/
def readEnvironment : IO Environment := do
  let values ← Environment.names.mapM fun name => return (name, ← IO.getEnv name)
  return fun name => (values.lookup name).join

/-- The settings file that the arguments name. -/
def Command.explicitPath (arguments : List String) : List String :=
  match Command.Request.ofArguments arguments with
  | .ok (.search s) => s.config.toList
  | _ => []

end PackageFinder

open PackageFinder

/-- Carries out the command. -/
def main (arguments : List String) : IO UInt32 := do
  let env ← readEnvironment
  let configDirectory := env.configDirectory?
  let paths := Command.explicitPath arguments ++ Settings.candidates env configDirectory
  let files ← readFiles paths
  let (outcome, events) :=
    Command.execute { files, env, configDirectory } (·.network (·.unanswered)) arguments
  let seen := outcome.appearance (Command.shownEntries (fun _ => none) env arguments) events
  (← IO.getStdout).putStr seen.output
  (← IO.getStderr).putStr seen.errors
  return UInt32.ofNat seen.code
