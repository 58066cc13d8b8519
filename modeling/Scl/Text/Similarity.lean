/-! # Similar words

How similar two words are, as a number from 0 to 1. Characters that the words share count, as long
as they stand at nearly the same places, and shared characters in another order count less.
-/

namespace Scl.Text

/-- How far apart the places of a shared character may be. -/
def similarityReach (a b : List Char) : Nat :=
  max a.length b.length / 2 - 1

/-- The places of `b` that characters of `a` are paired with, in the order of `a` and each with
its character. A character takes the first free place in reach where it stands too. -/
def pairedPlaces (a b : List Char) : List (Char × Nat) :=
  let reach := similarityReach a b
  a.zipIdx.foldl (fun paired (c, place) =>
    let free (other : Char × Nat) : Bool :=
      other.1 == c && place ≤ other.2 + reach && other.2 ≤ place + reach &&
        !paired.contains other
    match b.zipIdx.find? free with
    | some other => paired ++ [other]
    | none => paired) []

/-- The number of shared characters that stand in another order, two of them counting as one
exchange. -/
def exchanges (paired : List (Char × Nat)) (b : List Char) : Nat :=
  let inOrder := b.zipIdx.filter paired.contains
  ((paired.zip inOrder).filter fun (left, right) => left.1 != right.1).length / 2

/-- The similarity of two words: the mean of the shares of each word that is shared, and of the
share of that which needs no exchange. -/
def similarity (a b : String) : Float :=
  let a := a.toList
  let b := b.toList
  if a.isEmpty && b.isEmpty then 1
  else
    let paired := pairedPlaces a b
    let shared := paired.length
    if shared = 0 then 0
    else
      (shared.toFloat / a.length.toFloat + shared.toFloat / b.length.toFloat +
        (shared - exchanges paired b).toFloat / shared.toFloat) / 3

/-- The similarity that a word has to exceed to be suggested in place of another. -/
def similarEnough : Float := 0.7

/-- Whether a candidate of some similarity is better than the best one so far, if there is one. Of
two equally similar candidates the later one is better. -/
def isBetter (likeness : Float) : Option Float → Bool
  | some best => best ≤ likeness
  | none => similarEnough < likeness

/-- The candidate most similar to a word, the last of several, if one is similar enough. -/
def mostSimilar? {α : Type} (name : α → String) (word : String) (candidates : List α) : Option α :=
  let scored := candidates.map fun candidate => (candidate, similarity word (name candidate))
  let best := scored.foldl (fun best other =>
    bif isBetter other.2 (best.map Prod.snd) then some other else best) none
  best.map Prod.fst

end Scl.Text
