/-! Suggesting what was probably meant by a mistyped name, by Jaro similarity.

Two characters match when equal, unmatched before, and at most `max(|a|, |b|) / 2 - 1` apart;
with `m` matches and `t` half the number of matched pairs out of order, the similarity is
`(m/|a| + m/|b| + (m - t)/m) / 3`, and 0 without matches. Names more similar than 0.7 are
suggested, the most similar last. -/
namespace RepoSearch.Cli

/-- Match the characters of `a` against those of `b`: which of each are matched, and how
many. -/
def jaroMatches (a b : Array Char) : Array Bool × Array Bool × Nat :=
  let range := max a.size b.size / 2 - 1
  (List.range a.size).foldl (fun (acc : Array Bool × Array Bool × Nat) i =>
    let (af, bf, m) := acc
    let hi := min b.size (i + range + 1)
    match (List.range hi).find? (fun j => i - range ≤ j && a[i]? == b[j]? && !(bf.getD j true)) with
    | some j => (af.setIfInBounds i true, bf.setIfInBounds j true, m + 1)
    | none => acc) (Array.replicate a.size false, Array.replicate b.size false, 0)

/-- The Jaro similarity of two texts, from 0 (nothing in common) to 1 (equal). -/
def jaro (x y : String) : Float :=
  let a := x.toList.toArray
  let b := y.toList.toArray
  if a.size == 0 && b.size == 0 then 1.0
  else if a.size == 0 || b.size == 0 then 0.0
  else
    let (af, bf, m) := jaroMatches a b
    if m == 0 then 0.0
    else
      let fromA := (List.range a.size).filterMap (fun i => if af.getD i false then a[i]? else none)
      let fromB := (List.range b.size).filterMap (fun j => if bf.getD j false then b[j]? else none)
      let t := ((fromA.zip fromB).filter (fun p => p.1 != p.2)).length / 2
      (m.toFloat / a.size.toFloat + m.toFloat / b.size.toFloat + (m - t).toFloat / m.toFloat) / 3.0

/-- The candidates more than 0.7 similar to a name, least similar first; equally similar
ones keep their order. -/
def similarNames (name : String) (candidates : List String) : List String :=
  let scored := (candidates.map (fun c => (jaro name c, c))).filter (fun p => p.1 > 0.7)
  (scored.mergeSort (fun p q => !(q.1 < p.1))).map Prod.snd

end RepoSearch.Cli
