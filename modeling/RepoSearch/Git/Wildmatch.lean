/-! Git's wildcard match over bytes, without the pathname rule: `*` matches any run of bytes,
`/` included, `?` any one byte, `[...]` one byte of a set, and `\` quotes the next byte.

A set may be negated by `!` or `^` right after `[`; a `]` first in the set is literal; `a-z`
is a range, unless `-` comes first or right before the closing `]`; `[:alpha:]` and its kin
name ASCII classes. A set with no closing `]`, or an unknown class name, makes the whole
match fail. A `*` followed by more pattern only tries non-empty rests of the text. -/
namespace RepoSearch.Git

/-- Whether a byte is in a named ASCII class; nothing when the name is unknown. -/
def inNamedClass (name : List UInt8) (b : UInt8) : Option Bool :=
  let n := b.toNat
  let upper := 65 ≤ n && n ≤ 90
  let lower := 97 ≤ n && n ≤ 122
  let digit := 48 ≤ n && n ≤ 57
  let alpha := upper || lower
  let graph := 33 ≤ n && n ≤ 126
  match String.fromUTF8? ⟨name.toArray⟩ with
  | some "alnum" => some (alpha || digit)
  | some "alpha" => some alpha
  | some "blank" => some (n == 32 || n == 9)
  | some "cntrl" => some (n < 32 || n == 127)
  | some "digit" => some digit
  | some "graph" => some graph
  | some "lower" => some lower
  | some "print" => some (32 ≤ n && n ≤ 126)
  | some "punct" => some (graph && !alpha && !digit)
  | some "space" => some (n == 32 || n == 9 || n == 10 || n == 13)
  | some "upper" => some upper
  | some "xdigit" => some (digit || (65 ≤ n && n ≤ 70) || (97 ≤ n && n ≤ 102))
  | _ => none

/-- The bytes before the first `]` and those after it, if there is one. -/
def splitAtClose : List UInt8 → Option (List UInt8 × List UInt8)
  | [] => none
  | 93 :: rest => some ([], rest)
  | b :: rest => (splitAtClose rest).map (fun (inner, after) => (b :: inner, after))

mutual

/-- Scan a set from its current byte `p.head`: whether byte `t` is in it, and the pattern
after the closing `]`; nothing when the set is malformed. `prev` is the byte before, 0 when
it cannot start a range. -/
def scanSet (t : UInt8) : Nat → UInt8 → Bool → List UInt8 → Option (Bool × List UInt8)
  | 0, _, _, _ => none
  | _ + 1, _, _, [] => none
  | fuel + 1, _, matched, 92 :: rest =>
    match rest with
    | [] => none
    | c :: rest => nextInSet t fuel c (matched || t == c) rest
  | fuel + 1, prev, matched, 45 :: c :: rest =>
    if prev != 0 && c != 93 then
      if c == 92 then
        match rest with
        | [] => none
        | hi :: rest => nextInSet t fuel 0 (matched || (prev ≤ t && t ≤ hi)) rest
      else nextInSet t fuel 0 (matched || (prev ≤ t && t ≤ c)) rest
    else nextInSet t fuel 45 (matched || t == 45) (c :: rest)
  | fuel + 1, _, matched, 91 :: 58 :: rest =>
    match splitAtClose rest with
    | none => none
    | some (inner, after) =>
      if inner.getLast? == some 58 then
        match inNamedClass inner.dropLast t with
        | none => none
        | some hit => nextInSet t fuel 0 (matched || hit) after
      else nextInSet t fuel 91 (matched || t == 91) (58 :: rest)
  | fuel + 1, _, matched, c :: rest => nextInSet t fuel c (matched || t == c) rest

/-- Move past a byte of a set: a `]` next closes it, anything else is scanned. -/
def nextInSet (t : UInt8) : Nat → UInt8 → Bool → List UInt8 → Option (Bool × List UInt8)
  | 0, _, _, _ => none
  | _ + 1, _, matched, 93 :: after => some (matched, after)
  | fuel + 1, prev, matched, p => scanSet t fuel prev matched p

end

/-- Whether a set starting right after `[` holds byte `t`, with the pattern after it;
nothing when the set is malformed. -/
def matchSet (t : UInt8) (p : List UInt8) : Option (Bool × List UInt8) :=
  let (negated, body) := match p with
    | 33 :: rest => (true, rest)
    | 94 :: rest => (true, rest)
    | _ => (false, p)
  (scanSet t (2 * body.length + 2) 0 false body).map (fun (hit, after) => (hit != negated, after))

/-- The match of a pattern against a text, both as bytes; `fuel` bounds the pattern's
length. -/
def wildmatchBytes : Nat → List UInt8 → List UInt8 → Bool
  | 0, _, _ => false
  | _ + 1, [], t => t.isEmpty
  | fuel + 1, 42 :: p, t =>
    let rest := p.dropWhile (· == 42)
    rest.isEmpty ||
      (List.range t.length).any (fun k => wildmatchBytes fuel rest (t.drop k))
  | _ + 1, _, [] => false
  | fuel + 1, 63 :: p, _ :: t => wildmatchBytes fuel p t
  | fuel + 1, 92 :: p, b :: t =>
    match p with
    | c :: p => c == b && wildmatchBytes fuel p t
    | [] => false
  | fuel + 1, 91 :: p, b :: t =>
    match matchSet b p with
    | some (true, after) => wildmatchBytes fuel after t
    | _ => false
  | fuel + 1, c :: p, b :: t => c == b && wildmatchBytes fuel p t

def wildmatch (pattern text : String) : Bool :=
  let p := pattern.toUTF8.toList
  wildmatchBytes (p.length + 1) p text.toUTF8.toList

end RepoSearch.Git
