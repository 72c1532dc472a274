import RepoSearch.Cli.Run
/-! The command line. It reads the configuration file that the arguments name from the real
disk, runs the program against a world holding it, prints what the run prints, and exits with
its status. A configuration template that the run writes is written back; the database and the
working copies live in memory for the length of the run, and no git remote is reachable. -/
namespace RepoSearch.Launch

open RepoSearch.Cli

/-- The configuration file a command line names, when it runs a command. -/
def configPathOf (args : List String) : Option String :=
  match parseArgs args with
  | .run inv => some (if inv.configPath.isEmpty then "config.json" else inv.configPath)
  | .exit _ _ => none

/-- A world with the working directory and home, and the node found at one path. -/
def worldWith (cwd home : String) (found : Option (List String × Node)) : World :=
  let disk := ([resolvePath [] cwd, resolvePath [] home]).foldl
    (fun (d : Disk) p => (d.makeDirs p).toOption.getD d) {}
  let disk := match found with
    | some (path, node) => ((disk.makeDirs path.dropLast).toOption.getD disk).put path node
    | none => disk
  { disk, host := { author := ⟨"coderank", "coderank@localhost"⟩, clock := 0 }, cwd, home }

/-- The file a run wrote at a path that held nothing before. -/
def written (before after : World) (path : List String) : Option (List UInt8) :=
  match before.disk.node? path, after.disk.node? path with
  | none, some (.file bytes) => some bytes
  | _, _ => none

def pathText (path : List String) : String := "/" ++ "/".intercalate path

end RepoSearch.Launch

def main (args : List String) : IO UInt32 := do
  let cwd := (← IO.getEnv "PWD").getD "/"
  let home := (← IO.getEnv "HOME").getD "/"
  let path := (RepoSearch.Launch.configPathOf args).map (RepoSearch.Cli.resolvePath (RepoSearch.Cli.resolvePath [] cwd))
  let found ← match path with
    | none => pure none
    | some p =>
      try
        let bytes ← IO.FS.readBinFile (RepoSearch.Launch.pathText p)
        pure (some (p, RepoSearch.Cli.Node.file bytes.toList))
      catch _ =>
        try
          let _ ← IO.FS.Handle.mk (RepoSearch.Launch.pathText p) .read
          pure (some (p, RepoSearch.Cli.Node.directory))
        catch _ => pure none
  let before := RepoSearch.Launch.worldWith cwd home found
  let (after, result) := RepoSearch.Cli.runProgram before args
  if let some p := path then
    if let some bytes := RepoSearch.Launch.written before after p then
      IO.FS.writeBinFile (RepoSearch.Launch.pathText p) ⟨bytes.toArray⟩
  let out ← IO.getStdout
  out.putStr result.stdout
  out.flush
  let err ← IO.getStderr
  err.putStr result.stderr
  err.flush
  pure result.status.toUInt32
