/-! Why a repository's source could not be read. -/
namespace RepoSearch.Source

/-- A failure of a source provider. -/
inductive SourceError where
  | gitNotFound
  /-- A version-control command exited unsuccessfully. -/
  | commandFailed (command message : String)
  | refNotFound (repository gitRef : String)
  | unavailable (reason : String)
  | io (message : String)
  deriving Repr, DecidableEq

def SourceError.message : SourceError → String
  | .gitNotFound => "git not found in PATH"
  | .commandFailed command message => "\x60" ++ command ++ "\x60 failed: " ++ message
  | .refNotFound repository gitRef => "ref " ++ gitRef ++ " not found in " ++ repository
  | .unavailable reason => "repository unavailable: " ++ reason
  | .io message => "io error: " ++ message

end RepoSearch.Source
