import RepoSearch.Embedding.Mock
import RepoSearch.Embedding.Error
import RepoSearch.Text.Slice
/-! Embedding providers: the hashing embedder, one that always fails, and the hashing
embedder answering after a delay. A call made with a deadline times out when the provider
needs at least that long. A text is cut to a number of characters before it is embedded. -/
namespace RepoSearch.Embedding

open RepoSearch.Text

/-- A text cut to at most `n` characters: the text up to the byte offset at which its character
number `n` (from 0) starts, or the whole text when it has no such character. -/
def truncateAtChar (text : String) (n : Nat) : String :=
  match (charIndices text)[n]? with
  | some (offset, _) => bytePrefix text offset
  | none => text

/-- An embedding provider. -/
inductive Embedder where
  /-- Feature hashing of the text's tokens. -/
  | hashing (dimensions : Nat)
  /-- A provider whose every call fails. -/
  | offline (dimensions : Nat)
  /-- Feature hashing, answering after `delayMs` milliseconds. -/
  | delayed (dimensions : Nat) (delayMs : Nat)

namespace Embedder

def dimensions : Embedder → Nat
  | hashing d | offline d | delayed d _ => d

def embed : Embedder → String → Except EmbedError Vector
  | hashing d, text => .ok (mockEmbed d text)
  | offline _, _ => .error (.inferenceFailed "embedding provider offline")
  | delayed d _, text => .ok (mockEmbed d text)

/-- Embed a text within a deadline of `timeoutMs` milliseconds. -/
def embedWithin (e : Embedder) (timeoutMs : Nat) (text : String) : Except EmbedError Vector :=
  match e with
  | delayed _ delay => if timeoutMs ≤ delay then .error (.timeout timeoutMs) else e.embed text
  | _ => e.embed text

/-- The vector of a search query, when the provider gives a usable one in time. -/
def queryVector? (e : Embedder) (timeoutMs : Nat) (query : String) : Option Vector :=
  match e.embedWithin timeoutMs query with
  | .ok v => if isUsable v then some v else none
  | .error _ => none

end Embedder

end RepoSearch.Embedding
