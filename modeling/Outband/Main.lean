import Outband.CommandLine.Run
/-! The program: the machine it runs on is looked at first, then the command line is run on that
picture and what it prints is printed. The password database is not looked at. -/

open Outband

/-- The variables of the environment that count. -/
def surroundingVariables : IO Environment := do
  let names := Config.variableNames ++ [CommandLine.searchVariable]
  names.filterMapM fun name => return (← IO.getEnv name).map (name, ·)

/-- The picture with the file at a path. What cannot be read is pictured as a directory. -/
def lookAt (files : Files) (path : String) : IO Files := do
  let parent := String.intercalate "/" (Path.pieces path).dropLast
  let above := if Path.isAbsolute path then "/" ++ parent else parent
  try
    let content ← IO.FS.readBinFile path
    return ((files.createDirectory above).2.write path content.toList).toOption.getD files
  catch
    | .noFileOrDirectory .. => return files
    | _ => return (files.createDirectory path).2

/-- The settings files that a command line may name, and those that it does not have to. -/
def settingsFiles (env : Environment) (words : List String) : List String :=
  let given := match CommandLine.parse (env.lookup Config.fileVariable) words with
    | .ok line => line.config.toList
    | .error _ => []
  given ++ Config.standardFiles env none

/-- No program is started from here. -/
def noTool : Ipmi.Tool Unit := fun _ state => (.error "Operation not permitted (os error 1)", state)

def main (words : List String) : IO UInt32 := do
  let env ← surroundingVariables
  let here := Path.pieces (← IO.currentDir).toString
  let files ← (settingsFiles env words).foldlM lookAt { here := here }
  let (conclusion, scene) :=
    CommandLine.run .plain noTool env none words { world := { files := files, tool := () } }
  match conclusion with
  | .exits exit =>
    IO.sleep scene.now.toUInt32
    IO.print exit.out
    IO.eprint exit.err
    return exit.code.toUInt32
  | .serves address _ =>
    IO.eprint (CommandLine.errorLine ("cannot listen on " ++ address))
    return 1
