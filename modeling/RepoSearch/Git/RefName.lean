import RepoSearch.Git.Object
/-! Ref names and how a short name picks a ref.

A ref name is `/`-separated components. It is refused when a component is empty, starts with
`.` or ends with `.lock`, when it holds `..`, `@{`, a control byte, a space or one of
`: ? [ \ ^ ~` and DEL, when it ends with `.`, or when it is `@` alone; one `*` is allowed
where a pattern is. A short name stands for the first of `N`, `refs/N`, `refs/tags/N`,
`refs/heads/N`, `refs/remotes/N` and `refs/remotes/N/HEAD` that exists. -/
namespace RepoSearch.Git

/-- How a byte may appear in a ref name. -/
inductive RefByte where
  | plain
  | separator
  | dot
  | brace
  | forbidden
  | star

def refByte (b : UInt8) : RefByte :=
  if b == 47 then .separator
  else if b == 46 then .dot
  else if b == 123 then .brace
  else if b == 42 then .star
  else if b < 32 || b == 32 || b == 58 || b == 63 || b == 91 || b == 92 || b == 94 || b == 126 ||
      b == 127 then .forbidden
  else .plain

/-- Whether one component is acceptable; `star` says whether a `*` is still allowed, and the
answer carries whether it still is after the component. -/
def componentOk (bytes : List UInt8) (star : Bool) : Option Bool :=
  let step := fun (acc : Option (Bool × UInt8)) (b : UInt8) =>
    match acc with
    | none => none
    | some (star, last) =>
      match refByte b with
      | .dot => if last == 46 then none else some (star, b)
      | .brace => if last == 64 then none else some (star, b)
      | .forbidden => none
      | .star => if star then some (false, b) else none
      | _ => some (star, b)
  match bytes.foldl step (some (star, 0)) with
  | none => none
  | some (star, _) =>
    if bytes.isEmpty || bytes.head? == some 46 || (".lock".toUTF8.toList.isSuffixOf bytes) then none
    else some star

/-- Whether a ref name is well formed; `pattern` allows one `*`. One component suffices. -/
def refNameOk (name : String) (pattern : Bool) : Bool :=
  let bytes := name.toUTF8.toList
  if name == "@" then false
  else
    let parts := bytes.splitOn 47
    let ok := parts.foldl (fun (acc : Option Bool) part =>
      match acc with
      | none => none
      | some star => componentOk part star) (some pattern)
    ok.isSome && bytes.getLast? != some 46

/-- The source side of a fetch refspec: a ref to look up, or an object named outright. -/
structure FetchSource where
  name : String
  exact : Bool

/-- The source a fetch refspec asks for: a leading `+` dropped, the text after the last `:`
being the destination; an empty source means `HEAD`, and so does `@`. Nothing when the
refspec is invalid. -/
def parseFetchSpec (spec : String) : Option FetchSource :=
  let chars := if spec.startsWith "+" then spec.toList.drop 1 else spec.toList
  let (src, dst) : String × Option String :=
    match (List.range chars.length).reverse.find? (fun k => chars[k]? == some ':') with
    | some k => (String.ofList (chars.take k), some (String.ofList (chars.drop (k + 1))))
    | none => (String.ofList chars, none)
  let dstGlob := match dst with | some d => d.any (· == '*') | none => false
  let srcGlob := src.any (· == '*')
  if srcGlob != dstGlob then none
  else
    let srcOk := src.isEmpty || isObjectName src || refNameOk src srcGlob
    let dstOk := match dst with
      | none => true
      | some d => d.isEmpty || refNameOk d dstGlob
    if !(srcOk && dstOk) then none
    else if src.isEmpty || src == "@" then some { name := "HEAD", exact := false }
    else some { name := src, exact := isObjectName src }

/-- The full names a short name may stand for, most preferred first. -/
def refCandidates (short : String) : List String :=
  [short, "refs/" ++ short, "refs/tags/" ++ short, "refs/heads/" ++ short,
    "refs/remotes/" ++ short, "refs/remotes/" ++ short ++ "/HEAD"]

/-- The score of the first of `names` that is `full`, the first name scoring `top` and each
later one a point less; 0 when none is. -/
def scoreAmong (full : String) : Nat → List String → Nat
  | _, [] => 0
  | top, name :: rest =>
    match name == full with
    | true => top
    | false => scoreAmong full (top - 1) rest

/-- How well a short name matches a full ref name: 6 for the most preferred reading, down to
1, and 0 for none. -/
def refMatchScore (short full : String) : Nat := scoreAmong full 6 (refCandidates short)

/-- The best ref so far, with its score, after looking at one more: the new one only when it
reads strictly better. -/
def pickStep {α : Type} (short : String) (acc : Option (String × α) × Nat) (r : String × α) :
    Option (String × α) × Nat :=
  let score := refMatchScore short r.1
  if acc.2 < score then (some r, score) else acc

/-- The ref a short name picks among some, the best reading winning and the first on a tie. -/
def pickRef {α : Type} (short : String) (refs : List (String × α)) : Option (String × α) :=
  (refs.foldl (pickStep short) (none, 0)).1

end RepoSearch.Git
