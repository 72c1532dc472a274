import RepoSearch.Cli.Grammar
/-! The commands of the program and their grammar.

The program takes a configuration path (`-c`, `--config`, by default `config.json`) and one
subcommand: `index` a repository at a ref, `search` it, show its `status`, its `stats`, or
`list` every repository. -/
namespace RepoSearch.Cli

/-- What the program is asked to do. -/
inductive Command where
  /-- Index a repository if its remote commit changed, or whatever it is with `force`. -/
  | index (repository gitRef : String) (force : Bool)
  /-- Search a repository, first bringing it up to date when a ref is given. -/
  | search (repository query : String) (limit : Option Nat) (gitRef : Option String)
      (context : Bool) (maxChars : Nat)
  | status (repository gitRef : String)
  | stats (repository : String)
  | list

/-- A parsed command line. -/
structure Invocation where
  configPath : String
  command : Command

def programName : String := "coderank"

def programVersion : String := "0.1.0"

/-- The repository argument of the commands that take one. -/
def repositoryArgument (help : String) : ArgumentSpec :=
  { id := "repository", valueName := "REPOSITORY", help }

def refOption (help : String) (default : Option String) : OptionSpec :=
  { id := "git_ref", long := "ref", valueName := some "GIT_REF", help, default }

/-- The `help` subcommand, which shows the help page of the subcommands it names. -/
def helpCommandSpec : CommandSpec where
  name := programName ++ " help"
  about := "Print this message or the help of the given subcommand(s)"
  arguments := [{ id := "subcommand", valueName := "COMMAND", required := false, many := true,
                  help := "Print help for the subcommand(s)" }]
  options := []

/-- The subcommands: name, description, options and arguments. -/
def subcommandSpecs : List CommandSpec :=
  [{ name := programName ++ " index", about := "Index a repository if its remote commit changed",
     arguments := [repositoryArgument "Repository name, e.g. owner/name"],
     options := [refOption "" (some "HEAD"),
       { id := "force", long := "force", help := "Re-index even when the stored commit is current" },
       helpOption] },
   { name := programName ++ " search", about := "Search a repository's index",
     arguments := [repositoryArgument "", { id := "query", valueName := "QUERY" }],
     options := [{ id := "limit", short := some 'n', long := "limit", valueName := some "LIMIT", numeric := true },
       refOption "Bring the index up to date before searching" none,
       { id := "context", long := "context", help := "Print a prompt-ready context block instead of JSON" },
       { id := "max_chars", long := "max-chars", valueName := some "MAX_CHARS",
         help := "Character budget for --context output", default := some "12000",
         numeric := true },
       helpOption] },
   { name := programName ++ " status", about := "Show index state and whether the repository needs re-indexing",
     arguments := [repositoryArgument ""], options := [refOption "" (some "HEAD"), helpOption] },
   { name := programName ++ " stats", about := "Chunk counts by kind and language for the current snapshot",
     arguments := [repositoryArgument ""], options := [helpOption] },
   { name := programName ++ " list", about := "List all known repositories", options := [helpOption] },
   helpCommandSpec]

def CommandSpec.shortName (c : CommandSpec) : String := (c.name.splitOn " ").getLast?.getD c.name

def programSpec : CommandSpec :=
  { name := programName,
    about := "Repository code-search engine with incremental chunk indexing with lexical, vector and structural fusion",
    options := [{ id := "config", short := some 'c', long := "config", valueName := some "CONFIG",
                  help := "Path to the JSON config file", default := some "config.json" },
                helpOption, versionOption],
    subcommands := subcommandSpecs.map (fun c => (c.shortName, c.about)) }

def subcommandSpec? (name : String) : Option CommandSpec :=
  subcommandSpecs.find? (fun c => c.shortName == name)

end RepoSearch.Cli
