import RepoSearch.Cli.Parse
import RepoSearch.Cli.Disk
import RepoSearch.Config.Encode
import RepoSearch.Index.Json
import RepoSearch.Search.Engine
import RepoSearch.Search.Context
import RepoSearch.Source.Git
import RepoSearch.Store.Json
/-! Running the program against a world: a disk, the git remotes it can reach, a working
directory and a home directory.

A run reads its configuration (a missing file gives the defaults, and writes a template when
it is `config.json`; an unreadable file fails; a file that is not a configuration gives the
defaults), checks it, opens the database, makes the checkout directory, and carries out the
command. Its output is pretty JSON, or a context block; a failure prints `Error:` with the
message and the chain of its causes and exits with 1. The database keeps what the run wrote,
even when the run fails later. -/
namespace RepoSearch.Cli

open RepoSearch.Config RepoSearch.Store RepoSearch.Index RepoSearch.Source RepoSearch.Search
open RepoSearch.Embedding RepoSearch.Files

/-- What a run sees and leaves behind. -/
structure World where
  disk : Disk
  host : Git.GitHost
  /-- The working directory. -/
  cwd : String
  /-- The home directory. -/
  home : String

/-- What a run prints and its exit status. -/
structure RunResult where
  status : Nat
  stdout : String
  stderr : String

/-- A failure: its message and the messages of its causes, outermost first. -/
structure Failure where
  message : String
  causes : List String := []

/-- A cause's text, continuation lines indented by `pad`. -/
def indentLines (pad text : String) : String := ("\n" ++ pad).intercalate (text.splitOn "\n")

/-- How a failure is printed: the message, then its causes, numbered when there are several. -/
def Failure.text (f : Failure) : String :=
  "Error: " ++ f.message ++
    (match f.causes with
     | [] => ""
     | [c] => "\n\nCaused by:\n    " ++ indentLines "    " c
     | cs => "\n\nCaused by:" ++ String.join ((List.range cs.length).zip cs |>.map fun (n, c) =>
         "\n    " ++ toString n ++ ": " ++ indentLines "       " c)) ++ "\n"

/-- The causes under a storage failure: the database's message and its result code. -/
def storageCauses (message : String) : List String :=
  if message == "FOREIGN KEY constraint failed" then
    [message, "Error code 787: A foreign key constraint failed"]
  else [message, "Error code 1: SQL error or missing database"]

/-- A failure of the indexer or the query engine, with its causes. -/
def indexFailure (e : IndexError) : Failure :=
  match e with
  | .storage m => { message := e.message, causes := storageCauses m }
  | .pattern m | .json m | .io m => { message := e.message, causes := [m] }
  | _ => { message := e.message }

/-- A date in the proleptic Gregorian calendar from a count of days since 1970-01-01. -/
def civilDate (days : Nat) : Nat × Nat × Nat :=
  let z := days + 719468
  let era := z / 146097
  let doe := z % 146097
  let yoe := (doe - doe / 1460 + doe / 36524 - doe / 146096) / 365
  let doy := doe - (365 * yoe + yoe / 4 - yoe / 100)
  let mp := (5 * doy + 2) / 153
  let d := doy - (153 * mp + 2) / 5 + 1
  let m := if mp < 10 then mp + 3 else mp - 9
  (yoe + era * 400 + (if m ≤ 2 then 1 else 0), m, d)

def twoDigits (n : Nat) : String := if n < 10 then "0" ++ toString n else toString n

/-- A time given in seconds since the epoch, in RFC 3339 form. -/
def epochText (seconds : Nat) : String :=
  let (y, m, d) := civilDate (seconds / 86400)
  let s := seconds % 86400
  toString y ++ "-" ++ twoDigits m ++ "-" ++ twoDigits d ++ "T" ++ twoDigits (s / 3600) ++ ":" ++
    twoDigits (s / 60 % 60) ++ ":" ++ twoDigits (s % 60) ++ "Z"

def stampJson (stamp : Nat) : Json := .str (epochText stamp)

def databasePath (w : World) (dbPath : String) : Option (List String) :=
  if dbPath.isEmpty || dbPath == ":memory:" then none else some (resolvePath (resolvePath [] w.cwd) dbPath)

/-- Open the database for vectors of a width: the store it holds, made if missing. -/
def openDatabase (w : World) (dbPath : String) (dims : Nat) : Except Failure (World × ChunkStore) :=
  let cannotOpen : Failure :=
    { message := "failed to open database: " ++ dbPath,
      causes := ["unable to open database file: " ++ dbPath, "Error code 14: Unable to open the database file"] }
  match databasePath w dbPath with
  | none => .ok (w, ChunkStore.empty dims)
  | some path =>
    if (w.disk.parentProblem path).isSome then .error cannotOpen
    else
      match w.disk.node? path with
      | none => .ok ({ w with disk := w.disk.put path (.database (ChunkStore.empty dims)) }, ChunkStore.empty dims)
      | some .directory => .error cannotOpen
      | some (.database s) => .ok (w, s.reopen dims)
      | some (.file bytes) =>
        if bytes.isEmpty then .ok ({ w with disk := w.disk.put path (.database (ChunkStore.empty dims)) }, ChunkStore.empty dims)
        else .error { message := "failed to open database: " ++ dbPath,
                      causes := ["file is not a database", "Error code 26: File opened that is not a database file"] }

def loadConfig (w : World) (configPath : String) : Except Failure (World × Settings) :=
  let pathText := if configPath.isEmpty then "config.json" else configPath
  let path := resolvePath (resolvePath [] w.cwd) pathText
  match w.disk.node? path with
  | none =>
    let written := if pathText == "config.json" then
        (w.disk.writeFile path (({} : Settings).fileText.toUTF8.toList)).toOption.getD w.disk
      else w.disk
    .ok ({ w with disk := written }, {})
  | some _ =>
    match w.disk.readText path with
    | .ok text => .ok (w, Settings.ofText text)
    | .error e => .error { message := "failed to read config: " ++ pathText, causes := [e.message] }

def checkoutDirOf (w : World) (c : Settings) : String :=
  c.source.checkoutDir.getD (w.home ++ "/.cache/coderank/checkouts")

/-- Carry out on the disk what a fetch did to a working copy: make it, or check a commit out
into it and clean it. -/
def applyEffect (cwd : List String) (d : Disk) : DiskEffect → Disk
  | .init root => (d.makeDirs (resolvePath cwd root ++ [".git"])).toOption.getD d
  | .checkout root tree =>
    let path := resolvePath cwd root
    let d := (d.makeDirs (path ++ [".git"])).toOption.getD d
    (d.clearBelow path [".git"]).writeTree path tree

/-- Put the store back into its database file, and the working copies on the disk. -/
def persist (w : World) (dbPath : String) (ix : Indexer (GitSource Git.GitHost)) : World :=
  let disk := match databasePath w dbPath with
    | some path => w.disk.put path (.database ix.store)
    | none => w.disk
  { w with disk := ix.source.effects.foldl (applyEffect (resolvePath [] w.cwd)) disk }

def reportJson (r : IndexReport) : Json :=
  match r.toJson with
  | .obj ms => .obj (ms ++ [("duration_ms", .nat 0)])
  | j => j

/-- The output of JSON: pretty, with a newline. -/
def jsonOutput (j : Json) : String := Json.pretty j ++ "\n"

/-- Carry out a command with a ready indexer: the indexer afterwards and the output. -/
def perform (cfg : Settings) (ix : Indexer (GitSource Git.GitHost)) :
    Command → Indexer (GitSource Git.GitHost) × Except Failure String
  | .index repository gitRef force =>
    if force then
      match ix.index repository gitRef with
      | (ix, .ok r) => (ix, .ok (jsonOutput (reportJson r)))
      | (ix, .error e) => (ix, .error (indexFailure e))
    else
      match ix.ensureIndexed repository gitRef with
      | (ix, .ok (some r)) => (ix, .ok (jsonOutput (reportJson r)))
      | (ix, .ok none) => (ix, .ok (jsonOutput ((ix.state repository).toJson stampJson)))
      | (ix, .error e) => (ix, .error (indexFailure e))
  | .search repository query limit gitRef context maxChars =>
    let synced := match gitRef with
      | some r => match ix.ensureIndexed repository r with
        | (ix, .ok _) => (ix, Except.ok ())
        | (ix, .error e) => (ix, .error (indexFailure e))
      | none => (ix, .ok ())
    match synced with
    | (ix, .error f) => (ix, .error f)
    | (ix, .ok ()) =>
      let engine := QueryEngine.new cfg.search cfg.indexing.manifestFiles
      let vector := ix.embedder.queryVector? cfg.model.embedTimeoutMs query
      match engine.search ix.store repository query vector (limit.getD cfg.search.defaultLimit) with
      | .error m => (ix, .error (indexFailure (.storage m)))
      | .ok results =>
        (ix, .ok (if context then renderContext results maxChars
                  else jsonOutput (.arr (results.map SearchResult.toJson))))
  | .status repository gitRef =>
    let record := ix.state repository
    let (ix, needs) := ix.needsUpdate repository gitRef
    (ix, .ok (jsonOutput (.obj (record.jsonMembers stampJson ++ [("needs_update", .bool needs)]))))
  | .stats repository =>
    match ix.stats repository with
    | .ok s => (ix, .ok (jsonOutput (s.toJson stampJson)))
    | .error e => (ix, .error (indexFailure e))
  | .list => (ix, .ok (jsonOutput (.arr (ix.store.listRepositories.map (·.toJson stampJson)))))

/-- Carry out an invocation: the world afterwards and the output, or the failure. -/
def execute (w : World) (inv : Invocation) : World × Except Failure String :=
  match loadConfig w inv.configPath with
  | .error f => (w, .error f)
  | .ok (w, cfg) =>
    match cfg.validate with
    | some problem => (w, .error { message := problem })
    | none =>
      let dims := cfg.model.dimensions
      match openDatabase w cfg.dbPath dims with
      | .error f => (w, .error f)
      | .ok (w, store) =>
        let dirText := checkoutDirOf w cfg
        match w.disk.makeDirs (resolvePath (resolvePath [] w.cwd) dirText) with
        | .error e => (w, .error { message := "failed to create " ++ dirText, causes := [e.message] })
        | .ok disk =>
          let w := { w with disk }
          let source : GitSource Git.GitHost :=
            { urlTemplate := cfg.source.remoteUrlTemplate, checkoutDir := dirText, git := w.host }
          let config : IndexerConfig :=
            { indexing := cfg.indexing, fetchTimeoutMs := cfg.source.fetchTimeoutSecs * 1000,
              embedTimeoutMs := cfg.model.embedTimeoutMs, maxEmbedChars := cfg.model.maxEmbedChars }
          match Indexer.create .crates store source (.hashing dims) config with
          | .error e => (w, .error (indexFailure e))
          | .ok ix =>
            let (ix, out) := perform cfg ix inv.command
            (persist w cfg.dbPath ix, out)

/-- Run the program with some arguments (without the program name). -/
def runProgram (w : World) (args : List String) : World × RunResult :=
  match parseArgs args with
  | .exit 0 text => (w, { status := 0, stdout := text, stderr := "" })
  | .exit code text => (w, { status := code, stdout := "", stderr := text })
  | .run inv =>
    match execute w inv with
    | (w, .ok out) => (w, { status := 0, stdout := out, stderr := "" })
    | (w, .error f) => (w, { status := 1, stdout := "", stderr := f.text })

end RepoSearch.Cli
