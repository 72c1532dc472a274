import RepoSearch.Json.Value
import RepoSearch.Number.Decimal
/-! Reading typed values out of JSON, with the error wording of self-describing data
formats: `invalid type: <what was found>, expected <what was wanted>`, `invalid value`,
`missing field` and `duplicate field`. Records come from objects (members in any order,
unknown members ignored) or from arrays (fields in declaration order). -/
namespace RepoSearch.Json

open RepoSearch.Number

/-- A character in the debug form of text: quotes, backslashes and control characters
escaped. -/
def debugChar (c : Char) : String :=
  match c with
  | '"' => "\\\""
  | '\\' => "\\\\"
  | '\n' => "\\n"
  | '\r' => "\\r"
  | '\t' => "\\t"
  | c =>
    if c.toNat == 0 then "\\0"
    else if c.toNat < 32 || c.toNat == 127 then
      "\\u\x7b" ++ String.ofList (Nat.toDigits 16 c.toNat) ++ "\x7d"
    else String.singleton c

def unexpected : Json → String
  | .null => "unit value"
  | .bool b => "boolean `" ++ (if b then "true" else "false") ++ "`"
  | .int i => "integer `" ++ toString i ++ "`"
  | .double x =>
    let t := doublePlainText x
    "floating point `" ++ (if t.toList.contains '.' then t else t ++ ".0") ++ "`"
  | .single x =>
    let t := doublePlainText x.toFloat
    "floating point `" ++ (if t.toList.contains '.' then t else t ++ ".0") ++ "`"
  | .str s => "string \"" ++ String.join (s.toList.map debugChar) ++ "\""
  | .arr _ => "sequence"
  | .obj _ => "map"

def invalidType {α : Type} (found : Json) (expected : String) : Except String α :=
  .error ("invalid type: " ++ unexpected found ++ ", expected " ++ expected)

def readString : Json → Except String String
  | .str s => .ok s
  | j => invalidType j "a string"

/-- A double; whole numbers are converted. -/
def readDouble : Json → Except String Float
  | .int i => .ok (Float.ofInt i)
  | .double x => .ok x
  | .single x => .ok x.toFloat
  | j => invalidType j "f64"

/-- A single; doubles and whole numbers are rounded to it. -/
def readSingle : Json → Except String Float32
  | .int i => .ok (Float.ofInt i).toFloat32
  | .double x => .ok x.toFloat32
  | .single x => .ok x
  | j => invalidType j "f32"

/-- A natural number below 2^64; `expected` names the wanted type. -/
def readNat (expected : String) : Json → Except String Nat
  | .int i =>
    if i < 0 then .error ("invalid value: integer `" ++ toString i ++ "`, expected " ++ expected)
    else .ok i.toNat
  | j => invalidType j expected

def readStrings : Json → Except String (List String)
  | .arr items => items.mapM readString
  | j => invalidType j "a sequence"

/-- A text or nothing: `null` is nothing. -/
def readOptString : Json → Except String (Option String)
  | .null => .ok none
  | j => (readString j).map some

/-- A field of a record: its name, whether it has a default, and how its value is checked. -/
structure FieldSpec where
  name : String
  hasDefault : Bool
  check : Json → Except String Unit

/-- Check the members of an object in order: each known field is read when met, a known
field met twice is refused when `strict`, and afterwards each field without default must
have been given. Returns the value given for each field. -/
def checkMembers (fields : List FieldSpec) (strict : Bool) (ms : List (String × Json)) :
    Except String (List (String × Json)) := do
  let given ← ms.foldlM (fun (acc : List (String × Json)) (k, v) => do
    match fields.find? (fun f => f.name == k) with
    | none => pure acc
    | some f =>
      if strict && acc.any (fun e => e.1 == k) then
        throw ("duplicate field `" ++ k ++ "`")
      f.check v
      pure (acc ++ [(k, v)])) []
  for f in fields do
    if !f.hasDefault && !given.any (fun e => e.1 == f.name) then
      throw ("missing field `" ++ f.name ++ "`")
  pure given

/-- Check the items of an array as the fields in order; a missing item takes its field's
default, or is refused when the field has none; surplus items are refused. -/
def checkItems (record : String) (fields : List FieldSpec) (items : List Json) :
    Except String (List (String × Json)) := do
  let pairs := fields.zipIdx
  let mut given : List (String × Json) := []
  for (f, i) in pairs do
    match items[i]? with
    | some v => do f.check v; given := given ++ [(f.name, v)]
    | none =>
      if !f.hasDefault then
        throw ("invalid length " ++ toString i ++ ", expected " ++ record ++ " with " ++
          toString fields.length ++ " elements")
  if items.length > fields.length then
    throw ("invalid length " ++ toString items.length ++ ", expected fewer elements in array")
  pure given

/-- Check a record given as an object or an array, and return the value given for each
field; `record` names the record in errors. -/
def checkRecord (record : String) (fields : List FieldSpec) (strict : Bool) :
    Json → Except String (List (String × Json))
  | .obj ms => checkMembers fields strict ms
  | .arr items => checkItems record fields items
  | j => invalidType j record

/-- The given value of a field, read, or its default. -/
def fieldOr {α : Type} (given : List (String × Json)) (name : String) (read : Json → Except String α)
    (default : α) : Except String α :=
  match given.find? (fun e => e.1 == name) with
  | some (_, v) => read v
  | none => .ok default

def FieldSpec.of {α : Type} (name : String) (hasDefault : Bool) (read : Json → Except String α) :
    FieldSpec :=
  ⟨name, hasDefault, fun j => (read j).map (fun _ => ())⟩

end RepoSearch.Json
