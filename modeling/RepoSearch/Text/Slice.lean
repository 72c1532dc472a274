/-! Small operations on text measured in characters: taking a prefix, locating characters by
byte offset, and finding where a piece of text first occurs. -/
namespace RepoSearch.Text

def truncateChars (s : String) (n : Nat) : String :=
  String.ofList (s.toList.take n)

/-- Each character of a text with the byte offset at which it starts. -/
def charIndices (s : String) : List (Nat × Char) :=
  (s.toList.scanl (fun n c => n + c.utf8Size) 0).zip s.toList

/-- The text before a byte offset: its characters that start below the offset. Where a character
starts at the offset, these are exactly the text's bytes before it. -/
def bytePrefix (s : String) (offset : Nat) : String :=
  String.ofList ((charIndices s).filterMap fun p => if p.1 < offset then some p.2 else none)

/-- The first character position at which `needle` occurs in `hay`. -/
def findSublist? (hay needle : List Char) : Option Nat :=
  go hay 0
where
  go : List Char → Nat → Option Nat
    | [], i => if needle.isEmpty then some i else none
    | c :: rest, i => if needle.isPrefixOf (c :: rest) then some i else go rest (i + 1)

/-- The first character position at which `needle` occurs in `hay`. -/
def findText? (hay needle : String) : Option Nat :=
  findSublist? hay.toList needle.toList

/-- Every occurrence of `pattern` replaced, occurrences taken from the left without overlapping;
`skip` characters that belong to an occurrence already replaced are dropped first. -/
def replaceChars (pattern replacement : List Char) : Nat → List Char → List Char
  | _, [] => []
  | skip + 1, _ :: rest => replaceChars pattern replacement skip rest
  | 0, c :: rest =>
    if !pattern.isEmpty && pattern.isPrefixOf (c :: rest) then
      replacement ++ replaceChars pattern replacement (pattern.length - 1) rest
    else c :: replaceChars pattern replacement 0 rest

/-- Every occurrence of a non-empty `pattern` in a text replaced, from the left and without
overlapping. -/
def replaceText (s pattern replacement : String) : String :=
  String.ofList (replaceChars pattern.toList replacement.toList 0 s.toList)

def containsText (hay needle : String) : Bool :=
  (findText? hay needle).isSome

/-- The lines of a text: split at each line feed, a carriage return just before the line feed
dropped with it, and no empty last line after a final line feed. -/
def textLines (s : String) : List String :=
  let pieces := s.toList.splitOn '\n'
  let ended := pieces.dropLast.map (fun l =>
    String.ofList (if l.getLast? == some '\r' then l.dropLast else l))
  match pieces.getLast? with
  | some [] => ended
  | some last => ended ++ [String.ofList last]
  | none => ended

/-- The text before and after the first occurrence of a character. -/
def splitOnce? (s : String) (c : Char) : Option (String × String) :=
  let cs := s.toList
  match cs.findIdx? (· == c) with
  | some i => some (String.ofList (cs.take i), String.ofList (cs.drop (i + 1)))
  | none => none

end RepoSearch.Text
