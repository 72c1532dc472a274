/-! Blank characters (the Unicode property White_Space) and the operations built on them:
trimming both ends, splitting into blank-separated words, and collapsing blank runs. -/
namespace RepoSearch.Text

/-- The White_Space code points: tab to carriage return, space, next line, no-break space,
ogham space, the spaces U+2000 to U+200A, line and paragraph separators, narrow no-break
space, medium mathematical space and ideographic space. -/
def isBlank (c : Char) : Bool :=
  let n := c.toNat
  (9 ≤ n && n ≤ 13) || n == 32 || n == 0x85 || n == 0xA0 || n == 0x1680 ||
    (0x2000 ≤ n && n ≤ 0x200A) || n == 0x2028 || n == 0x2029 || n == 0x202F ||
    n == 0x205F || n == 0x3000

/-- The characters with the blanks at both ends removed. -/
def trimBlankList (cs : List Char) : List Char :=
  ((cs.dropWhile isBlank).reverse.dropWhile isBlank).reverse

def trimBlank (s : String) : String :=
  String.ofList (trimBlankList s.toList)

def trimBlankEnd (s : String) : String :=
  String.ofList (s.toList.reverse.dropWhile isBlank).reverse

def isBlankText (s : String) : Bool :=
  s.toList.all isBlank

/-- Split characters at every character satisfying `p`; the separators are dropped and
every piece is kept, empty ones included. -/
def splitWhere (p : Char → Bool) : List Char → List (List Char)
  | [] => [[]]
  | c :: rest =>
    match splitWhere p rest with
    | [] => [[]]
    | piece :: pieces => if p c then [] :: piece :: pieces else (c :: piece) :: pieces

/-- The maximal runs of characters not satisfying `p`. -/
def runsOutside (p : Char → Bool) (cs : List Char) : List (List Char) :=
  (splitWhere p cs).filter (fun piece => !piece.isEmpty)

def words (s : String) : List String :=
  (runsOutside isBlank s.toList).map String.ofList

def collapseBlank (s : String) : String :=
  " ".intercalate (words s)

end RepoSearch.Text
