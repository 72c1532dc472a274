/-! Why an embedding could not be computed. -/
namespace RepoSearch.Embedding

/-- A failure of an embedding provider. -/
inductive EmbedError where
  | inferenceFailed (reason : String)
  | modelLoadFailed (reason : String)
  | tokenizerFailed (reason : String)
  /-- The provider did not answer within the deadline, in milliseconds. -/
  | timeout (ms : Nat)
  | taskFailed (reason : String)
  deriving Repr, DecidableEq

def EmbedError.message : EmbedError → String
  | .inferenceFailed r => "inference failed: " ++ r
  | .modelLoadFailed r => "model load failed: " ++ r
  | .tokenizerFailed r => "tokenizer error: " ++ r
  | .timeout ms => "embedding timed out after " ++ toString ms ++ " ms"
  | .taskFailed r => "embedding task failed: " ++ r

end RepoSearch.Embedding
