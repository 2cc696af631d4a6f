/-!
# Similarity of texts

The measure of Jaro, which counts equal characters at near places, and its refinement by Winkler,
which favours a common beginning.
-/

namespace Sections

def takePlace (c : Char) (low high index : Nat) :
    List (Char × Bool) → Option (Nat × List (Char × Bool))
  | [] => none
  | place :: places =>
    if low ≤ index ∧ index ≤ high ∧ !place.2 ∧ place.1 = c then some (index, (c, true) :: places)
    else (takePlace c low high (index + 1) places).map fun (found, places) =>
      (found, place :: places)

/--
Pairs each character in turn with a free equal one at most `range` places away; gives the
places taken, in the order of the characters that took them.
-/
def pairPlaces (range index : Nat) : List Char → List (Char × Bool) → List Nat
  | [], _ => []
  | c :: cs, places =>
    match takePlace c (index - range) (index + range) 0 places with
    | some (found, places) => found :: pairPlaces range (index + 1) cs places
    | none => pairPlaces range (index + 1) cs places

def jaro (as bs : List Char) : Float :=
  if as.isEmpty && bs.isEmpty then 1
  else
    let range := max as.length bs.length / 2 - 1
    let taken := pairPlaces range 0 as (bs.map (·, false))
    let matched := taken.length
    if matched = 0 then 0
    else
      let ordered := taken.mergeSort.map (bs[·]?)
      let disordered := ((taken.map (bs[·]?)).zip ordered).countP fun pair => pair.1 != pair.2
      let count := matched.toFloat
      (count / as.length.toFloat + count / bs.length.toFloat +
        (count - (disordered / 2).toFloat) / count) / 3

def commonStart : List Char → List Char → Nat
  | a :: as, b :: bs => if a = b then commonStart as bs + 1 else 0
  | _, _ => 0

def jaroWinkler (as bs : List Char) : Float :=
  let similarity := jaro as bs
  if similarity > 0.7 then
    similarity + 0.1 * (min (commonStart as bs) 4).toFloat * (1 - similarity)
  else similarity

end Sections
