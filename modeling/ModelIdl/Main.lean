import ModelIdl.Command.Run

/-!
# ModelIdl.Main

The program: it looks up the variables and the file that a command line needs, and shows the outcome.
-/

open ModelIdl

/-- What stands at a path in the file system. What is there but cannot be read as a file counts as a
directory. -/
def contentAt (path : String) : IO FileContent := do
  try
    return .bytes (← IO.FS.readBinFile path)
  catch
    | .noFileOrDirectory .. => return .nothing
    | .inappropriateType (some _) .. => return .behindFile
    | .invalidArgument .. => return .nameTooLong
    | _ => return .directory

/-- The values of the environment that settings fall back to. -/
def variableValues : IO (List (String × String)) := do
  let names := Setting.all.filterMap Setting.envVar?
  let values ← names.mapM fun name => return (name, ← IO.getEnv name)
  return values.filterMap fun (name, value) => value.map (name, ·)

def main (words : List String) : IO UInt32 := do
  let environment ← variableValues
  let files ← match CommandLine.read (List.lookup · environment) words with
    | .ok (.run _ command) =>
      match command.file? with
      | some file => pure [(file, ← contentAt file)]
      | none => pure []
    | _ => pure []
  let outcome := CommandLine.run (List.lookup · environment)
    (fun path => (List.lookup path files).getD .nothing) words
  IO.print outcome.output
  IO.eprint outcome.log
  return outcome.exit.toUInt32
