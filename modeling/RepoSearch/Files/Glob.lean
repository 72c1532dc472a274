import RepoSearch.Pattern.Basic
/-! Shell-style globs over whole paths, matched byte by byte against the path's UTF-8 form.
`?` is any one byte and `*` any run of bytes, the separator included; `**` as a whole
component spans any number of directories (`**/` at the start, `/**` at the end, `/**/`
inside); `[...]` is a class, negated by a leading `!` or `^`, with ranges; `{a,b}` is a
choice, possibly nested, whose empty branches are dropped; a backslash escapes the next
character. Matching is case-sensitive and anchored at both ends. -/
namespace RepoSearch.Files

open RepoSearch.Pattern

/-- Why a glob is malformed. -/
inductive GlobError where
  | unclosedClass
  | invalidRange (lo hi : Char)
  | unopenedAlternates
  | unclosedAlternates
  | danglingEscape
  deriving Repr, DecidableEq

def GlobError.text : GlobError → String
  | .unclosedClass => "unclosed character class; missing ']'"
  | .invalidRange lo hi =>
    "invalid range; '" ++ String.singleton lo ++ "' > '" ++ String.singleton hi ++ "'"
  | .unopenedAlternates => "unopened alternate group; missing '\x7b' (maybe escape '\x7d' with '[\x7d]'?)"
  | .unclosedAlternates => "unclosed alternate group; missing '\x7d' (maybe escape '\x7b' with '[\x7b]'?)"
  | .danglingEscape => "dangling '\\'"

def GlobError.message (glob : String) (e : GlobError) : String :=
  "error parsing glob '" ++ glob ++ "': " ++ e.text

/-- A piece of a parsed glob. -/
inductive GlobToken where
  | literal (c : Char)
  | anyChar
  | anyRun
  /-- `**/` at the start: nothing, a separator, or anything ending in a separator. -/
  | recursivePrefix
  /-- `/**` at the end: a separator and anything after it. -/
  | recursiveSuffix
  /-- `/**/` inside: one separator, or a separator, anything and a separator. -/
  | recursiveMiddle
  | charClass (negated : Bool) (ranges : List (Char × Char))
  | choice (branches : List (List GlobToken))
  deriving Inhabited

/-- Stretch the last range of a class to end at `c`; a range may not run backwards. -/
def extendLast (ranges : List (Char × Char)) (c : Char) : Except GlobError (List (Char × Char)) :=
  match ranges.getLast? with
  | some (lo, _) => if c < lo then .error (.invalidRange lo c) else .ok (ranges.dropLast ++ [(lo, c)])
  | none => .ok [(c, c)]

/-- Read a class body after `[` and its negation mark, giving the ranges and what follows the
closing `]`. A `]` or `-` first in the body is a member, a `-` last is a member, and a
`-` after a range stretches that range. -/
def parseClassBody : List Char → List (Char × Char) → Bool → Bool →
    Except GlobError (List (Char × Char) × List Char)
  | [], _, _, _ => .error .unclosedClass
  | c :: rest, ranges, first, inRange =>
    if c == ']' then
      if first then parseClassBody rest (ranges ++ [(']', ']')]) false inRange
      else .ok (if inRange then ranges ++ [('-', '-')] else ranges, rest)
    else if c == '-' then
      if first then parseClassBody rest (ranges ++ [('-', '-')]) false inRange
      else if inRange then
        match extendLast ranges '-' with
        | .error e => .error e
        | .ok ranges => parseClassBody rest ranges false false
      else parseClassBody rest ranges false true
    else if inRange then
      match extendLast ranges c with
      | .error e => .error e
      | .ok ranges => parseClassBody rest ranges false false
    else parseClassBody rest (ranges ++ [(c, c)]) false false

/-- The parser's state: the branches being read, innermost last, and for each open choice,
innermost first, the number of branches that were open before it. -/
structure GlobState where
  branches : List (List GlobToken) := [[]]
  openChoices : List Nat := []

namespace GlobState

def current (st : GlobState) : List GlobToken :=
  st.branches.getLast?.getD []

def setCurrent (st : GlobState) (ts : List GlobToken) : GlobState :=
  { st with branches := st.branches.dropLast ++ [ts] }

def push (st : GlobState) (t : GlobToken) : GlobState :=
  st.setCurrent (st.current ++ [t])

def inChoice (st : GlobState) : Bool := !st.openChoices.isEmpty

def openChoice (st : GlobState) : GlobState :=
  { branches := st.branches ++ [[]], openChoices := st.branches.length :: st.openChoices }

def nextBranch (st : GlobState) : GlobState :=
  { st with branches := st.branches ++ [[]] }

/-- Close the innermost choice, turning its branches into one token. -/
def closeChoice (st : GlobState) : Except GlobError GlobState :=
  match st.openChoices with
  | [] => .error .unopenedAlternates
  | start :: outer =>
    let inner := st.branches.drop start
    let st' : GlobState := { branches := st.branches.take start, openChoices := outer }
    .ok (st'.push (.choice inner))

/-- Two `**` after a separator: replace the separator token by the recursive token that
the position calls for; an existing recursive prefix or suffix absorbs it. -/
def recursive (st : GlobState) (isSuffix : Bool) : GlobState :=
  let ts := st.current
  let kept := ts.dropLast
  match ts.getLast? with
  | some .recursivePrefix => st.setCurrent (kept ++ [.recursivePrefix])
  | some .recursiveSuffix => st.setCurrent (kept ++ [.recursiveSuffix])
  | _ => st.setCurrent (kept ++ [if isSuffix then .recursiveSuffix else .recursiveMiddle])

end GlobState

/-- Two plain `*` tokens, for a `**` that is not a whole component. -/
def GlobState.twoRuns (st : GlobState) : GlobState := (st.push .anyRun).push .anyRun

/-- Read a `**` whose second star has been consumed; `prev` is the character before the
first star and `after` what follows the second. Gives the new state, the rest of the glob
and the character before that rest. -/
def readDoubleStar (st : GlobState) (prev : Option Char) (after : List Char) :
    GlobState × List Char × Option Char :=
  if st.current.isEmpty then
    match after with
    | d :: more =>
      if d != '/' then (st.twoRuns, after, some '*') else (st.push .recursivePrefix, more, some d)
    | [] => (st.push .recursivePrefix, [], some '*')
  else if prev != some '/' && (!st.inChoice || (prev != some ',' && prev != some '\x7b')) then
    (st.twoRuns, after, some '*')
  else
    match after with
    | [] => (st.recursive true, [], some '*')
    | d :: more =>
      if (d == ',' || d == '\x7d') && st.inChoice then (st.recursive true, after, some '*')
      else if d == '/' then (st.recursive false, more, some d)
      else (st.twoRuns, after, some '*')

/-- Read the glob's characters; `prev` is the character before them. -/
def parseGlobFrom (st : GlobState) (prev : Option Char) : List Char → Nat → Except GlobError GlobState
  | _, 0 => .ok st
  | [], _ + 1 => .ok st
  | c :: rest, fuel + 1 =>
    if c == '?' then parseGlobFrom (st.push .anyChar) (some c) rest fuel
    else if c == '*' then
      match rest with
      | '*' :: after =>
        let (st, more, before) := readDoubleStar st prev after
        parseGlobFrom st before more fuel
      | _ => parseGlobFrom (st.push .anyRun) (some c) rest fuel
    else if c == '[' then
      let (negated, body) := match rest with
        | '!' :: more => (true, more)
        | '^' :: more => (true, more)
        | more => (false, more)
      match parseClassBody body [] true false with
      | .error e => .error e
      | .ok (ranges, after) => parseGlobFrom (st.push (.charClass negated ranges)) (some ']') after fuel
    else if c == '\x7b' then parseGlobFrom st.openChoice (some c) rest fuel
    else if c == '\x7d' then
      match st.closeChoice with
      | .error e => .error e
      | .ok st => parseGlobFrom st (some c) rest fuel
    else if c == ',' then
      parseGlobFrom (if st.inChoice then st.nextBranch else st.push (.literal c)) (some c) rest fuel
    else if c == '\\' then
      match rest with
      | d :: more => parseGlobFrom (st.push (.literal d)) (some d) more fuel
      | [] => .error .danglingEscape
    else parseGlobFrom (st.push (.literal c)) (some c) rest fuel

/-- Parse a glob into tokens, or say why it is malformed. -/
def parseGlob (glob : String) : Except GlobError (List GlobToken) :=
  match parseGlobFrom {} none glob.toList (glob.length + 1) with
  | .error e => .error e
  | .ok st => if st.inChoice then .error .unclosedAlternates else .ok st.current

/-- The UTF-8 bytes of a character, each as the character of that code. -/
def charBytes (c : Char) : List Char :=
  (String.singleton c).toUTF8.toList.map (fun b => Char.ofNat b.toNat)

/-- The bytes a class range stands for: its ends are spelled as byte sequences, and the
last byte of the low end and the first of the high end bound a byte range. -/
def classByteSet (lo hi : Char) : CharSet :=
  if lo == hi then CharSet.oneOf (charBytes lo)
  else
    let a := charBytes lo
    let b := charBytes hi
    match a.getLast?, b.head? with
    | some x, some y =>
      CharSet.union (CharSet.oneOf (a.dropLast ++ b.drop 1))
        (if x ≤ y then CharSet.range x y else CharSet.complement CharSet.any)
    | _, _ => CharSet.oneOf (a ++ b)

def classSet : List (Char × Char) → CharSet
  | [] => CharSet.complement CharSet.any
  | (lo, hi) :: rest => CharSet.union (classByteSet lo hi) (classSet rest)

mutual
/-- Whether tokens stand for nothing at all: only choices whose branches all stand for
nothing. Such branches are dropped from their choice. -/
def tokensBlank : List GlobToken → Bool
  | [] => true
  | .choice bs :: ts => branchesBlank bs && tokensBlank ts
  | _ :: _ => false

def branchesBlank : List (List GlobToken) → Bool
  | [] => true
  | b :: bs => tokensBlank b && branchesBlank bs
end

/-- Any one byte; with `literalSeparator`, any byte but the separator. -/
def globAny (literalSeparator : Bool) : CharSet :=
  if literalSeparator then CharSet.complement (CharSet.single '/') else CharSet.any

mutual
def tokenPattern (literalSeparator : Bool) : GlobToken → Regex
  | .literal c => Regex.all ((charBytes c).map (fun b => Regex.one (CharSet.single b)))
  | .anyChar => Regex.one (globAny literalSeparator)
  | .anyRun => Regex.many (globAny literalSeparator)
  | .recursivePrefix =>
    Regex.first [Regex.optional (Regex.lit "/"), Regex.all [Regex.many CharSet.any, Regex.lit "/"]]
  | .recursiveSuffix => Regex.all [Regex.lit "/", Regex.many CharSet.any]
  | .recursiveMiddle =>
    Regex.first [Regex.lit "/", Regex.all [Regex.lit "/", Regex.many CharSet.any, Regex.lit "/"]]
  | .charClass negated ranges =>
    Regex.one (if negated then CharSet.complement (classSet ranges) else classSet ranges)
  | .choice branches =>
    match branchPatterns literalSeparator branches with
    | [] => Regex.empty
    | ps => Regex.first ps

def tokensPattern (literalSeparator : Bool) : List GlobToken → Regex
  | [] => Regex.empty
  | t :: ts => Regex.seq (tokenPattern literalSeparator t) (tokensPattern literalSeparator ts)

/-- The patterns of a choice's branches, leaving out those that stand for nothing. -/
def branchPatterns (literalSeparator : Bool) : List (List GlobToken) → List Regex
  | [] => []
  | b :: bs =>
    if tokensBlank b then branchPatterns literalSeparator bs
    else tokensPattern literalSeparator b :: branchPatterns literalSeparator bs
end

/-- The literal file name a glob of the form `**/name` asks for, when the name is plain text
without a separator. -/
def basenameLiteral? : List GlobToken → Option String
  | .recursivePrefix :: rest@(_ :: _) =>
    rest.foldr (fun t acc => match t, acc with
      | .literal c, some s => if c == '/' then none else some (String.singleton c ++ s)
      | _, _ => none) (some "")
  | _ => none

/-- A compiled glob. -/
structure Glob where
  tokens : List GlobToken
  pattern : Regex

/-- Compile a glob, or give the message saying why it is malformed. With
`literalSeparator`, `?` and `*` do not match the separator. -/
def Glob.compileWith (literalSeparator : Bool) (glob : String) : Except String Glob :=
  match parseGlob glob with
  | .error e => .error (e.message glob)
  | .ok tokens =>
    let body := match tokens with
      | [.recursivePrefix] => Regex.many CharSet.any
      | ts => tokensPattern literalSeparator ts
    .ok ⟨tokens, Regex.all [Regex.textStart, body, Regex.textEnd]⟩

/-- Compile a glob whose wildcards also match the separator. -/
def Glob.compile (glob : String) : Except String Glob := Glob.compileWith false glob

/-- The file name of a path as a glob sees it: what follows the last separator, and
nothing for a path ending in a dot. -/
def globBaseName (path : String) : String :=
  if path.isEmpty || path.endsWith "." then ""
  else ((path.splitOn "/").getLast?).getD path

/-- Whether a path matches the glob as a whole. A glob `**/name` compares `name` with the
path's file name, so it never matches a path ending in a dot. -/
def Glob.matches (g : Glob) (path : String) : Bool :=
  match basenameLiteral? g.tokens with
  | some name => let base := globBaseName path; !base.isEmpty && base == name
  | none =>
    let bytes := path.toUTF8.toList.map (fun b => Char.ofNat b.toNat)
    (g.pattern.matchAt bytes.toArray 0).isSome

/-- Compile every glob; the first malformed one gives the message. -/
def Glob.compileAll (globs : List String) : Except String (List Glob) :=
  globs.mapM Glob.compile

def matchesAny (globs : List Glob) (path : String) : Bool :=
  globs.any (fun g => g.matches path)

end RepoSearch.Files
