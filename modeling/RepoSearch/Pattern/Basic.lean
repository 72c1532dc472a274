import RepoSearch.Text.Blank
import RepoSearch.Text.WordChar
/-! Text patterns: character sets, repetition of one set, sequence, ordered choice, named
groups and the anchors for text start, text end and word boundary. Matching is by
backtracking in priority order, so the match found is the first one in the order that the
pattern's choices and repetitions prefer: the leftmost-first rule of common pattern
engines. Repetition applies to a single character set, so every match attempt is finite. -/
namespace RepoSearch.Pattern

open RepoSearch.Text

/-- A set of characters. -/
inductive CharSet where
  /-- Every character. -/
  | any
  /-- Every character but the line feed. -/
  | notNewline
  /-- One character. -/
  | single (c : Char)
  /-- The characters from `lo` to `hi`. -/
  | range (lo hi : Char)
  /-- Blank characters (White_Space). -/
  | blank
  /-- Word characters. -/
  | word
  /-- Characters in either set. -/
  | union (a b : CharSet)
  /-- Characters not in the set. -/
  | complement (a : CharSet)

namespace CharSet

def test : CharSet → Char → Bool
  | any, _ => true
  | notNewline, c => c != '\n'
  | single d, c => c == d
  | range lo hi, c => lo ≤ c && c ≤ hi
  | blank, c => isBlank c
  | word, c => isWordChar c
  | union a b, c => a.test c || b.test c
  | complement a, c => !a.test c

def oneOf : List Char → CharSet
  | [] => complement any
  | [c] => single c
  | c :: cs => union (single c) (oneOf cs)

def noneOf (cs : List Char) : CharSet := complement (oneOf cs)

/-- A character together with the characters it matches when case is ignored: the other
ASCII case of a letter, the long s for `s` and the Kelvin sign for `k`. -/
def caseless (c : Char) : CharSet :=
  let lower := c.toLower
  let upper := c.toUpper
  if lower == 's' then oneOf ['s', 'S', Char.ofNat 0x17F]
  else if lower == 'k' then oneOf ['k', 'K', Char.ofNat 0x212A]
  else if lower == upper then single c
  else oneOf [lower, upper]

end CharSet

/-- A pattern over text. -/
inductive Regex where
  /-- Matches the empty text. -/
  | empty
  /-- Between `min` and `max` characters of a set (no bound when `max` is `none`); a greedy
  repetition prefers more characters, a lazy one fewer. -/
  | rep (s : CharSet) (min : Nat) (max : Option Nat) (greedy : Bool)
  /-- One pattern followed by another. -/
  | seq (a b : Regex)
  /-- Either pattern, the first preferred. -/
  | alt (a b : Regex)
  /-- A pattern whose matched span is recorded under a name. -/
  | group (name : String) (a : Regex)
  /-- The start of the text. -/
  | textStart
  /-- The end of the text. -/
  | textEnd
  /-- A place between a word character and a character that is not one (or a text end). -/
  | wordBoundary

namespace Regex

def one (s : CharSet) : Regex := rep s 1 (some 1) true

/-- Zero or more characters of the set, as many as possible. -/
def many (s : CharSet) : Regex := rep s 0 none true

/-- One or more characters of the set, as many as possible. -/
def many1 (s : CharSet) : Regex := rep s 1 none true

/-- Zero or more characters of the set, as few as possible. -/
def fewest (s : CharSet) : Regex := rep s 0 none false

def all : List Regex → Regex
  | [] => empty
  | [p] => p
  | p :: ps => seq p (all ps)

/-- The first of the patterns that matches, in order of preference. -/
def first : List Regex → Regex
  | [] => rep (CharSet.complement CharSet.any) 1 (some 1) true
  | [p] => p
  | p :: ps => alt p (first ps)

def optional (p : Regex) : Regex := alt p empty

def lit (s : String) : Regex := all (s.toList.map (fun c => one (CharSet.single c)))

def litCaseless (s : String) : Regex := all (s.toList.map (fun c => one (CharSet.caseless c)))

end Regex

/-- Named spans recorded by a match, as character positions `[start, stop)`; a later
record of a name hides an earlier one. -/
abbrev Spans := List (String × Nat × Nat)

def Spans.get? (spans : Spans) (name : String) : Option (Nat × Nat) :=
  (spans.find? (fun e => e.1 == name)).map Prod.snd

/-- How many characters from `pos` on belong to `s`, counting at most `bound` of them. -/
def runLength (s : CharSet) (text : Array Char) (pos : Nat) : Nat → Nat
  | 0 => 0
  | bound + 1 =>
    match text[pos]? with
    | some c => if s.test c then runLength s text (pos + 1) bound + 1 else 0
    | none => 0

/-- Whether position `pos` of the text lies between a word character and a character that
is not one, the ends of the text counting as non-word. -/
def atWordBoundary (text : Array Char) (pos : Nat) : Bool :=
  let before := match pos with
    | 0 => false
    | p + 1 => (text[p]?.map isWordChar).getD false
  let after := (text[pos]?.map isWordChar).getD false
  before != after

/-- Match `p` at `pos` and hand each way it can end, in order of preference, to the
continuation `k`, until `k` accepts one. -/
def matchWith {α : Type} (text : Array Char) : Regex → Nat → Spans → (Nat → Spans → Option α) →
    Option α
  | .empty, pos, spans, k => k pos spans
  | .rep s lo hi greedy, pos, spans, k =>
    let room := text.size - pos
    let n := runLength s text pos (match hi with | some m => min m room | none => room)
    if n < lo then none
    else
      let counts := (List.range (n - lo + 1)).map (· + lo)
      let ordered := if greedy then counts.reverse else counts
      ordered.findSome? (fun i => k (pos + i) spans)
  | .seq a b, pos, spans, k =>
    matchWith text a pos spans (fun pos' spans' => matchWith text b pos' spans' k)
  | .alt a b, pos, spans, k =>
    match matchWith text a pos spans k with
    | some r => some r
    | none => matchWith text b pos spans k
  | .group name a, pos, spans, k =>
    matchWith text a pos spans (fun pos' spans' => k pos' ((name, pos, pos') :: spans'))
  | .textStart, pos, spans, k => if pos = 0 then k pos spans else none
  | .textEnd, pos, spans, k => if pos = text.size then k pos spans else none
  | .wordBoundary, pos, spans, k => if atWordBoundary text pos then k pos spans else none

/-- A match: where it starts and stops (character positions) and its named spans. -/
structure Match where
  start : Nat
  stop : Nat
  spans : Spans

/-- The preferred match of `p` starting exactly at `pos`. -/
def Regex.matchAt (p : Regex) (text : Array Char) (pos : Nat) : Option Match :=
  matchWith text p pos [] (fun stop spans => some ⟨pos, stop, spans⟩)

/-- The leftmost match of `p` starting at `pos` or later, the preferred one at that place. -/
def Regex.searchFrom (p : Regex) (text : Array Char) (pos : Nat) : Option Match :=
  ((List.range (text.size + 1 - pos)).map (· + pos)).findSome? (p.matchAt text)

/-- The successive non-overlapping matches, each searched from where the last one stopped
(one character further after an empty match). -/
def matchesFrom (p : Regex) (text : Array Char) : Nat → Nat → List Match
  | 0, _ => []
  | fuel + 1, pos =>
    match p.searchFrom text pos with
    | none => []
    | some m =>
      let next := if m.stop = m.start then m.stop + 1 else m.stop
      m :: matchesFrom p text fuel next

/-- All successive non-overlapping matches in the text. -/
def Regex.matches (p : Regex) (text : Array Char) : List Match :=
  matchesFrom p text (text.size + 1) 0

def Regex.find? (p : Regex) (text : Array Char) : Option Match :=
  p.searchFrom text 0

/-- Whether the pattern matches somewhere in the text. -/
def Regex.test (p : Regex) (text : Array Char) : Bool :=
  (p.find? text).isSome

def slice (text : Array Char) (start stop : Nat) : String :=
  String.ofList ((text.toList.drop start).take (stop - start))

def Regex.replaceAll (p : Regex) (text : Array Char) (replacement : String) : String :=
  let ms := p.matches text
  let (out, last) := ms.foldl
    (fun (acc : String × Nat) m => (acc.1 ++ slice text acc.2 m.start ++ replacement, m.stop))
    ("", 0)
  out ++ slice text last text.size

end RepoSearch.Pattern
