import RepoSearch.Json.Value
import RepoSearch.Number.Decimal
/-! JSON text. Strings escape the quote, the backslash and control characters (the usual
short escapes where they exist, `\u00xx` otherwise) and keep all other characters as they
are; numbers are written in shortest form, and numbers that are not finite as `null`.
The compact form has no blanks; the pretty form indents by two spaces per level. -/
namespace RepoSearch.Json

open RepoSearch.Number

def hexDigit (n : Nat) : Char :=
  if n < 10 then Char.ofNat (48 + n) else Char.ofNat (87 + n)

/-- The escaped form of one character inside a string. -/
def escapeChar (c : Char) : String :=
  match c with
  | '"' => "\\\""
  | '\\' => "\\\\"
  | '\n' => "\\n"
  | '\r' => "\\r"
  | '\t' => "\\t"
  | c =>
    if c.toNat == 8 then "\\b"
    else if c.toNat == 12 then "\\f"
    else if c.toNat < 32 then
      "\\u00" ++ String.ofList [hexDigit (c.toNat / 16), hexDigit (c.toNat % 16)]
    else String.singleton c

def quote (s : String) : String :=
  "\"" ++ String.join (s.toList.map escapeChar) ++ "\""

def numberText : Json → String
  | .int i => toString i
  | .double x => if x.isFinite then doubleText x else "null"
  | .single x => if x.isFinite then singleText x else "null"
  | _ => ""

mutual
def compact : Json → String
  | .null => "null"
  | .bool b => if b then "true" else "false"
  | .int i => numberText (.int i)
  | .double x => numberText (.double x)
  | .single x => numberText (.single x)
  | .str s => quote s
  | .arr items => "[" ++ compactItems items ++ "]"
  | .obj ms => "\x7b" ++ compactMembers ms ++ "\x7d"

def compactItems : List Json → String
  | [] => ""
  | [v] => compact v
  | v :: rest => compact v ++ "," ++ compactItems rest

def compactMembers : List (String × Json) → String
  | [] => ""
  | [(k, v)] => quote k ++ ":" ++ compact v
  | (k, v) :: rest => quote k ++ ":" ++ compact v ++ "," ++ compactMembers rest
end

def indent (depth : Nat) : String := String.ofList (List.replicate (2 * depth) ' ')

mutual
/-- Pretty text of a value whose first line is already indented by `depth` levels. -/
def prettyAt (depth : Nat) : Json → String
  | .arr [] => "[]"
  | .obj [] => "\x7b\x7d"
  | .arr items => "[\n" ++ prettyItems (depth + 1) items ++ "\n" ++ indent depth ++ "]"
  | .obj ms => "\x7b\n" ++ prettyMembers (depth + 1) ms ++ "\n" ++ indent depth ++ "\x7d"
  | v => compact v

def prettyItems (depth : Nat) : List Json → String
  | [] => ""
  | [v] => indent depth ++ prettyAt depth v
  | v :: rest => indent depth ++ prettyAt depth v ++ ",\n" ++ prettyItems depth rest

def prettyMembers (depth : Nat) : List (String × Json) → String
  | [] => ""
  | [(k, v)] => indent depth ++ quote k ++ ": " ++ prettyAt depth v
  | (k, v) :: rest =>
    indent depth ++ quote k ++ ": " ++ prettyAt depth v ++ ",\n" ++ prettyMembers depth rest
end

/-- Pretty text of a value, indented by two spaces per level. -/
def pretty (j : Json) : String := prettyAt 0 j

end RepoSearch.Json
