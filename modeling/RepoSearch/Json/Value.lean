/-! JSON values. Numbers keep the form they were read or made in: whole numbers as
integers, others as doubles, and singles for values that are single precision. An object
is a list of members in order; when a key repeats, the last member counts. -/
namespace RepoSearch

/-- A JSON value. -/
inductive Json where
  | null
  | bool (b : Bool)
  /-- A whole number. -/
  | int (i : Int)
  /-- A double. -/
  | double (x : Float)
  /-- A single-precision number. -/
  | single (x : Float32)
  | str (s : String)
  | arr (items : List Json)
  | obj (members : List (String × Json))
  deriving Inhabited

namespace Json

def nat (n : Nat) : Json := int n

/-- The value of a key of an object: the last member with that key. -/
def get? (j : Json) (key : String) : Option Json :=
  match j with
  | obj ms => (ms.reverse.find? (fun m => m.1 == key)).map Prod.snd
  | _ => none

def getD (j : Json) (key : String) : Json := (j.get? key).getD null

/-- An optional value: `null` when absent. -/
def ofOption {α : Type} (f : α → Json) : Option α → Json
  | some a => f a
  | none => null

def strs (xs : List String) : Json := arr (xs.map str)

/-- The keys of an object, each once, in order of last appearance. -/
def keysOf (ms : List (String × Json)) : List String :=
  ms.foldl (fun acc m => if acc.contains m.1 then acc else acc ++ [m.1]) []

mutual
/-- Merge `patch` into `base`: objects merge key by key, anything else replaces. -/
def merge : Json → Json → Json
  | obj base, obj patch => obj (mergeMembers base patch)
  | _, patch => patch

/-- Members of `base` with the members of `patch` merged in; new keys go last. -/
def mergeMembers (base : List (String × Json)) : List (String × Json) → List (String × Json)
  | [] => base
  | (k, v) :: rest =>
    let merged :=
      match base.find? (fun m => m.1 == k) with
      | some (_, old) => base.map (fun m => if m.1 == k then (k, merge old v) else m)
      | none => base ++ [(k, v)]
    mergeMembers merged rest
end

/-- Insert a member into members sorted by key, replacing a member of the same key. -/
def insertMember (m : String × Json) : List (String × Json) → List (String × Json)
  | [] => [m]
  | n :: rest =>
    if m.1 == n.1 then m :: rest
    else if m.1 < n.1 then m :: n :: rest
    else n :: insertMember m rest

mutual
/-- The value with every object's members sorted by key, a repeated key keeping its last
value: the value as a map-backed reader would hold it. -/
def canonical : Json → Json
  | arr items => arr (canonicalItems items)
  | obj members => obj (canonicalMembers [] members)
  | j => j

def canonicalItems : List Json → List Json
  | [] => []
  | j :: rest => canonical j :: canonicalItems rest

/-- Members inserted one by one, in order, into sorted members. -/
def canonicalMembers (acc : List (String × Json)) : List (String × Json) → List (String × Json)
  | [] => acc
  | (k, v) :: rest => canonicalMembers (insertMember (k, canonical v) acc) rest
end

end Json

end RepoSearch
