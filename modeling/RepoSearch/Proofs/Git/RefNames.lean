import RepoSearch.Git.Host
import RepoSearch.Proofs.Text.Split
/-! Ref names as a client reads them: the bytes of a text, what a well-formed name may hold, and
which full names answer to a short name in a listing of refs. -/
namespace RepoSearch.Git

/-! ### The bytes of a text -/

section Name

variable {name : String}

end Name

/-! ### The names that answer to a short name -/

section Tail

variable {short full : String}

/-- Whether a full ref name is the short name or ends in `/` and the short name, compared byte by
byte: the names a listing of refs for the short name shows. -/
def tailMatches (short full : String) : Bool :=
  ("/" ++ short).toUTF8.toList.isSuffixOf ("/" ++ full).toUTF8.toList

end Tail

end RepoSearch.Git
