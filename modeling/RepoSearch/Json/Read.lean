import RepoSearch.Json.Value
import RepoSearch.Number.Binary
/-! Reading JSON text. Whole numbers without fraction or exponent that fit in 64 bits are
integers and all other numbers doubles, rounded to nearest; a double too large is an
error. Strings take the standard escapes, including surrogate pairs. Nesting deeper than
128 levels is refused. Errors name the place of the fault as line and column. -/
namespace RepoSearch.Json

open RepoSearch.Number

/-- What went wrong while reading JSON text. -/
inductive SyntaxError where
  | eofValue | eofString | eofObject | eofList
  | expectedValue | expectedColon | expectedObjectCommaOrEnd | expectedListCommaOrEnd
  | keyMustBeString | invalidNumber | numberOutOfRange | invalidEscape
  | controlCharacter | loneSurrogate | trailingCharacters | trailingComma | recursionLimit
  deriving Repr, Inhabited, DecidableEq

def SyntaxError.text : SyntaxError → String
  | .eofValue => "EOF while parsing a value"
  | .eofString => "EOF while parsing a string"
  | .eofObject => "EOF while parsing an object"
  | .eofList => "EOF while parsing a list"
  | .expectedValue => "expected value"
  | .expectedColon => "expected `:`"
  | .expectedObjectCommaOrEnd => "expected `,` or `\x7d`"
  | .expectedListCommaOrEnd => "expected `,` or `]`"
  | .keyMustBeString => "key must be a string"
  | .invalidNumber => "invalid number"
  | .numberOutOfRange => "number out of range"
  | .invalidEscape => "invalid escape"
  | .controlCharacter => "control character (\\u0000-\\u001F) found while parsing a string"
  | .loneSurrogate => "lone leading surrogate in hex escape"
  | .trailingCharacters => "trailing characters"
  | .trailingComma => "trailing comma"
  | .recursionLimit => "recursion limit exceeded"

/-- A syntax error at a character position of the text. -/
structure ReadError where
  error : SyntaxError
  pos : Nat
  deriving Repr, Inhabited

/-- The message of a read error: the wording, then line and column of the place, the
column counting the characters before it on its line. -/
def ReadError.message (e : ReadError) (text : Array Char) : String :=
  let before := (text.toList.take e.pos)
  let line := before.count '\n' + 1
  let column := (before.reverse.takeWhile (· != '\n')).length
  e.error.text ++ " at line " ++ toString line ++ " column " ++ toString column

def isSpace (c : Char) : Bool := c == ' ' || c == '\t' || c == '\n' || c == '\r'

/-- The position of the first non-space character from `pos`. -/
def skipSpace (text : Array Char) (pos : Nat) : Nat :=
  pos + ((text.toList.drop pos).takeWhile isSpace).length

def hexValue (c : Char) : Option Nat :=
  if '0' ≤ c && c ≤ '9' then some (c.toNat - 48)
  else if 'a' ≤ c && c ≤ 'f' then some (c.toNat - 87)
  else if 'A' ≤ c && c ≤ 'F' then some (c.toNat - 55)
  else none

def readHex4 (text : Array Char) (pos : Nat) : Except ReadError (Nat × Nat) :=
  let digits := (List.range 4).map fun i => text[pos + i]?
  if digits.any Option.isNone then .error ⟨.eofString, text.size⟩
  else
    match digits.mapM (fun d => d.bind hexValue) with
    | some [a, b, c, d] => .ok (((a * 16 + b) * 16 + c) * 16 + d, pos + 4)
    | _ => .error ⟨.invalidEscape, pos + 4⟩

/-- The characters of a string body from `pos` (after the opening quote) up to the
closing quote; `fuel` bounds the number of characters. -/
def readStringBody (text : Array Char) : Nat → Nat → List Char → Except ReadError (String × Nat)
  | 0, pos, _ => .error ⟨.eofString, pos⟩
  | fuel + 1, pos, acc =>
    match text[pos]? with
    | none => .error ⟨.eofString, pos⟩
    | some '"' => .ok (String.ofList acc.reverse, pos + 1)
    | some '\\' =>
      match text[pos + 1]? with
      | none => .error ⟨.eofString, pos + 1⟩
      | some e =>
        let simple := match e with
          | '"' => some '"' | '\\' => some '\\' | '/' => some '/'
          | 'b' => some (Char.ofNat 8) | 'f' => some (Char.ofNat 12)
          | 'n' => some '\n' | 'r' => some '\r' | 't' => some '\t'
          | _ => none
        match simple with
        | some c => readStringBody text fuel (pos + 2) (c :: acc)
        | none =>
          if e != 'u' then .error ⟨.invalidEscape, pos + 2⟩
          else do
            let (u, next) ← readHex4 text (pos + 2)
            if 0xD800 ≤ u && u < 0xDC00 then
              if text[next]? == some '\\' && text[next + 1]? == some 'u' then
                let (low, after) ← readHex4 text (next + 2)
                if 0xDC00 ≤ low && low < 0xE000 then
                  let c := Char.ofNat (0x10000 + (u - 0xD800) * 0x400 + (low - 0xDC00))
                  readStringBody text fuel after (c :: acc)
                else .error ⟨.loneSurrogate, after⟩
              else .error ⟨.loneSurrogate, next⟩
            else if 0xDC00 ≤ u && u < 0xE000 then .error ⟨.loneSurrogate, next⟩
            else readStringBody text fuel next (Char.ofNat u :: acc)
    | some c =>
      if c.toNat < 32 then .error ⟨.controlCharacter, pos + 1⟩
      else readStringBody text fuel (pos + 1) (c :: acc)

def digitsAt (text : Array Char) (pos : Nat) : List Char :=
  (text.toList.drop pos).takeWhile Char.isDigit

def digitsValue (ds : List Char) : Nat :=
  ds.foldl (fun acc d => acc * 10 + (d.toNat - 48)) 0

def readNumber (text : Array Char) (pos : Nat) : Except ReadError (Json × Nat) := do
  let negative := text[pos]? == some '-'
  let p := if negative then pos + 1 else pos
  let whole := digitsAt text p
  if whole.isEmpty then throw ⟨.invalidNumber, p + 1⟩
  if whole.head? == some '0' && whole.length > 1 then throw ⟨.invalidNumber, p + 2⟩
  let p := p + whole.length
  let (frac, p) ←
    if text[p]? == some '.' then
      let f := digitsAt text (p + 1)
      if f.isEmpty then throw ⟨.invalidNumber, p + 2⟩ else pure (some f, p + 1 + f.length)
    else pure (none, p)
  let (exp, p) ←
    if text[p]? == some 'e' || text[p]? == some 'E' then
      let signNeg := text[p + 1]? == some '-'
      let q := if text[p + 1]? == some '-' || text[p + 1]? == some '+' then p + 2 else p + 1
      let e := digitsAt text q
      if e.isEmpty then throw ⟨.invalidNumber, q + 1⟩
      else
        let v : Int := digitsValue e
        pure (some (if signNeg then -v else v), q + e.length)
    else pure (none, p)
  let mantissa := digitsValue (whole ++ frac.getD [])
  match frac, exp with
  | none, none =>
    if negative then
      if mantissa ≤ Nat.pow 2 63 then pure (.int (-(mantissa : Int)), p)
      else pure (.double (doubleOfDecimal true mantissa 0), p)
    else if mantissa < Nat.pow 2 64 then pure (.int mantissa, p)
    else pure (.double (doubleOfDecimal false mantissa 0), p)
  | _, _ =>
    let e10 : Int := exp.getD 0 - (frac.getD []).length
    let x := doubleOfDecimal negative mantissa e10
    if x.isInf then throw ⟨.numberOutOfRange, p⟩ else pure (.double x, p)

def spells (text : Array Char) (pos : Nat) (word : String) : Bool :=
  (word.toList.zipIdx).all fun (c, i) => text[pos + i]? == some c

mutual
/-- A value at `pos` (after whitespace), with at most `depth` more levels of nesting. -/
def readValue (text : Array Char) : Nat → Nat → Except ReadError (Json × Nat)
  | 0, pos => .error ⟨.recursionLimit, pos⟩
  | depth + 1, pos =>
    let pos := skipSpace text pos
    match text[pos]? with
    | none => .error ⟨.eofValue, pos⟩
    | some 'n' => if spells text pos "null" then .ok (.null, pos + 4) else .error ⟨.expectedValue, pos + 1⟩
    | some 't' => if spells text pos "true" then .ok (.bool true, pos + 4) else .error ⟨.expectedValue, pos + 1⟩
    | some 'f' => if spells text pos "false" then .ok (.bool false, pos + 5) else .error ⟨.expectedValue, pos + 1⟩
    | some '"' => do
      let (s, next) ← readStringBody text (text.size + 1) (pos + 1) []
      pure (.str s, next)
    | some '[' =>
      let p := skipSpace text (pos + 1)
      if text[p]? == some ']' then .ok (.arr [], p + 1)
      else do
        let (items, next) ← readItems text depth (text.size + 1) p []
        pure (.arr items, next)
    | some '{' =>
      let p := skipSpace text (pos + 1)
      if text[p]? == some '}' then .ok (.obj [], p + 1)
      else do
        let (ms, next) ← readMembers text depth (text.size + 1) p []
        pure (.obj ms, next)
    | some c =>
      if c == '-' || c.isDigit then readNumber text pos else .error ⟨.expectedValue, pos + 1⟩

/-- Array items from `pos`, each followed by a comma or the closing bracket. -/
def readItems (text : Array Char) (depth : Nat) : Nat → Nat → List Json → Except ReadError (List Json × Nat)
  | 0, pos, _ => .error ⟨.eofList, pos⟩
  | fuel + 1, pos, acc => do
    let (v, next) ← readValue text depth pos
    let p := skipSpace text next
    match text[p]? with
    | some ',' =>
      let q := skipSpace text (p + 1)
      if text[q]? == some ']' then throw ⟨.trailingComma, q + 1⟩
      readItems text depth fuel (p + 1) (v :: acc)
    | some ']' => pure ((v :: acc).reverse, p + 1)
    | some _ => throw ⟨.expectedListCommaOrEnd, p + 1⟩
    | none => throw ⟨.eofList, p⟩

/-- Object members from `pos`, each followed by a comma or the closing brace. -/
def readMembers (text : Array Char) (depth : Nat) :
    Nat → Nat → List (String × Json) → Except ReadError (List (String × Json) × Nat)
  | 0, pos, _ => .error ⟨.eofObject, pos⟩
  | fuel + 1, pos, acc => do
    let p := skipSpace text pos
    match text[p]? with
    | some '"' =>
      let (key, next) ← readStringBody text (text.size + 1) (p + 1) []
      let p := skipSpace text next
      match text[p]? with
      | some ':' =>
        let (v, next) ← readValue text depth (p + 1)
        let p := skipSpace text next
        match text[p]? with
        | some ',' =>
          let q := skipSpace text (p + 1)
          if text[q]? == some '\x7d' then throw ⟨.trailingComma, q + 1⟩
          readMembers text depth fuel (p + 1) ((key, v) :: acc)
        | some '\x7d' => pure (((key, v) :: acc).reverse, p + 1)
        | some _ => throw ⟨.expectedObjectCommaOrEnd, p + 1⟩
        | none => throw ⟨.eofObject, p⟩
      | some _ => throw ⟨.expectedColon, p + 1⟩
      | none => throw ⟨.eofObject, p⟩
    | some _ => throw ⟨.keyMustBeString, p + 1⟩
    | none => throw ⟨.eofObject, p⟩
end

/-- Read a whole text as one JSON value; only whitespace may follow it. -/
def parse (s : String) : Except String Json :=
  let text := s.toList.toArray
  match readValue text 129 0 with
  | .error e => .error (e.message text)
  | .ok (v, next) =>
    let p := skipSpace text next
    if p < text.size then .error (ReadError.message ⟨.trailingCharacters, p + 1⟩ text) else .ok v

end RepoSearch.Json
