import RepoSearch.Text.Alphanumeric
import RepoSearch.Text.Blank
import RepoSearch.Text.Lowercase
/-! Terms of text: the maximal runs of letters and numbers, lowercased. Term counts are
kept as a list sorted by term, and a query's terms are its distinct tokens that are not
stopwords, in the order first seen. -/
namespace RepoSearch.Lexicon

open RepoSearch.Text

/-- The tokens of a text: maximal runs of letters and numbers, each fully lowercased. -/
def tokenize (text : String) : List String :=
  (runsOutside (fun c => !isAlphanumeric c) text.toList).map (fun run => lowerFull (String.ofList run))

/-- Counts of terms, ascending by term, each term once. -/
abbrev TermCounts := List (String × Nat)

namespace TermCounts

/-- Add one occurrence of a term, keeping the terms in ascending order. -/
def bump (term : String) : TermCounts → TermCounts
  | [] => [(term, 1)]
  | (t, n) :: rest =>
    if term = t then (t, n + 1) :: rest
    else if term < t then (term, 1) :: (t, n) :: rest
    else (t, n) :: bump term rest

def count (counts : TermCounts) (term : String) : Nat :=
  match counts.find? (fun e => e.1 == term) with
  | some (_, n) => n
  | none => 0

def mentions (counts : TermCounts) (term : String) : Bool :=
  counts.any (fun e => e.1 == term)

def total (counts : TermCounts) : Nat :=
  counts.foldl (fun n c => n + c.2) 0

end TermCounts

def termFrequencies (text : String) : TermCounts :=
  (tokenize text).foldl (fun acc t => acc.bump t) []

/-- Common English words left out of queries, in ascending order. -/
def stopwords : List String :=
  ["a", "an", "and", "are", "as", "at", "be", "but", "by", "can", "do", "does", "for", "from",
    "has", "have", "how", "i", "in", "into", "is", "it", "its", "me", "my", "of", "on", "or",
    "our", "should", "so", "that", "the", "their", "then", "there", "these", "this", "to", "was",
    "we", "what", "when", "where", "which", "who", "why", "will", "with", "would", "you", "your"]

/-- The place a window search closes on, in a list sorted ascending under `f`, which compares
an element with the key. While the window of `size` elements from `base` holds more than one, its
middle element is probed and the upper part kept unless that element is above the key. The
window never stops early, so the probes depend on the length alone. -/
def searchWindow {α : Type} (xs : List α) (f : α → Ordering) (base size : Nat)
    (nonempty : 0 < size) (within : base + size ≤ xs.length) : Fin xs.length :=
  if more : 1 < size then
    have probe : base + size / 2 < xs.length := by omega
    searchWindow xs f (if f xs[base + size / 2] = .gt then base else base + size / 2)
      (size - size / 2) (by omega) (by split <;> omega)
  else ⟨base, by omega⟩
termination_by size

/-- Binary search of a list sorted ascending under `f`: `.ok i` when the place the window closes
on compares equal, else `.error` with the place where the key would go. -/
def binarySearchBy {α : Type} (xs : List α) (f : α → Ordering) : Except Nat Nat :=
  if nonempty : 0 < xs.length then
    let i := searchWindow xs f 0 xs.length nonempty (by omega)
    match f (xs.get i) with
    | .eq => .ok i
    | .lt => .error (i + 1)
    | .gt => .error i
  else .error 0

/-- Binary search for a key in a list sorted ascending. -/
def binarySearch {α : Type} [Ord α] (xs : List α) (key : α) : Except Nat Nat :=
  binarySearchBy xs (fun x => compare x key)

/-- Whether a token is a stopword: a binary search of the sorted stopwords finds it. -/
def isStopword (token : String) : Bool :=
  (binarySearch stopwords token).isOk

/-- A query's terms after one more token: the token is added unless it is a stopword or already
a term. -/
def addQueryTerm (terms : List String) (token : String) : List String :=
  if isStopword token || terms.contains token then terms else terms ++ [token]

/-- The distinct tokens of a query that are not stopwords, in the order first seen. -/
def queryTerms (query : String) : List String :=
  (tokenize query).foldl addQueryTerm []

end RepoSearch.Lexicon
