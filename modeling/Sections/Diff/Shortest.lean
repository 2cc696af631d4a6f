import Sections.Diff.Script

/-!
# Shortest edit scripts

A shortest script keeps a longest common subsequence.  It is found by divide and conquer: the paths
from both ends of the edit graph are extended step by step until they meet, and the lists are split
where they do.
-/

namespace Sections

variable {α : Type} [DecidableEq α]

/-- Furthest reaching places of the paths on each diagonal, from one end of the edit graph. -/
structure Reach where
  bias : Nat
  places : Array Nat

namespace Reach

def get (reach : Reach) (diagonal : Int) : Nat :=
  reach.places.getD (diagonal + reach.bias).toNat 0

def set (reach : Reach) (diagonal : Int) (place : Nat) : Reach :=
  { reach with places := reach.places.setIfInBounds (diagonal + reach.bias).toNat place }

def diagonals (steps : Nat) : List Int :=
  (List.range (steps + 1)).map fun (index : Nat) => (steps : Int) - 2 * (index : Int)

def enter (reach : Reach) (steps : Nat) (diagonal : Int) : Nat :=
  if diagonal = -(steps : Int)
      ∨ (diagonal ≠ steps ∧ reach.get (diagonal - 1) < reach.get (diagonal + 1)) then
    reach.get (diagonal + 1)
  else reach.get (diagonal - 1) + 1

end Reach

def snakeLength (as bs : Array α) (x y fuel : Nat) : Nat :=
  match fuel with
  | 0 => 0
  | fuel + 1 =>
    match as[x]?, bs[y]? with
    | some a, some b => if a = b then snakeLength as bs (x + 1) (y + 1) fuel + 1 else 0
    | _, _ => 0

/--
Extends the paths of one direction by a step on every diagonal, and tells where they meet
the paths of the other direction, which have taken `otherSteps` steps.  The place of
meeting is given before and after the equal items that were passed.
-/
def extendPaths (as bs : Array α) (steps : Nat) (otherSteps : Option Nat) (other : Reach) :
    List Int → Reach → Reach × Option (Nat × Nat × Nat)
  | [], reach => (reach, none)
  | diagonal :: rest, reach =>
    let x := reach.enter steps diagonal
    let y := (x : Int) - diagonal
    let passed := if 0 ≤ y then snakeLength as bs x y.toNat as.size else 0
    let reach := reach.set diagonal (x + passed)
    let opposite := diagonal - ((as.size : Int) - bs.size)
    let met := otherSteps.any fun otherSteps =>
      opposite.natAbs ≤ otherSteps && as.size ≤ x + passed + other.get (-opposite)
    if met then (reach, some (x, y.toNat, passed))
    else extendPaths as bs steps otherSteps other rest reach

def findSplit (as bs reversedAs reversedBs : Array α) (fuel steps : Nat)
    (forward backward : Reach) :
    Option (Nat × Nat) :=
  match fuel with
  | 0 => none
  | fuel + 1 =>
    let odd := (as.size + bs.size) % 2 = 1
    let forwardLimit := if odd ∧ 0 < steps then some (steps - 1) else none
    match extendPaths as bs steps forwardLimit backward (Reach.diagonals steps) forward with
    | (_, some (x, y, _)) => some (x, y)
    | (forward, none) =>
      let backwardLimit := if odd then none else some steps
      match extendPaths reversedAs reversedBs steps backwardLimit forward (Reach.diagonals steps)
        backward with
      | (_, some (x, y, passed)) => some (as.size - (x + passed), bs.size - (y + passed))
      | (backward, none) =>
        findSplit as bs reversedAs reversedBs fuel (steps + 1) forward backward

def splitPoint (as bs : List α) : Option (Nat × Nat) :=
  let most := (as.length + bs.length + 1) / 2 + 1
  let start : Reach := ⟨most + 1, Array.replicate (2 * most + 3) 0⟩
  findSplit as.toArray bs.toArray as.reverse.toArray bs.reverse.toArray most 0 start start

def keepEnds (between : List α → List α → EditScript α) (old new : List α) : EditScript α :=
  let front := commonPrefix old new
  let old := old.drop front.length
  let new := new.drop front.length
  let back := commonSuffix old new
  let old := old.take (old.length - back.length)
  let new := new.take (new.length - back.length)
  .run .keep front ++ between old new ++ .run .keep back

def divide (fuel : Nat) (old new : List α) : EditScript α :=
  match fuel with
  | 0 => .replaceAll old new
  | fuel + 1 =>
    keepEnds (fun old new =>
      if old.isEmpty ∨ new.isEmpty then .replaceAll old new
      else match splitPoint old new with
        | some (x, y) =>
          divide fuel (old.take x) (new.take y) ++ divide fuel (old.drop x) (new.drop y)
        | none => .replaceAll old new) old new

/-- A shortest script.  Each split leaves less to divide, so the fuel lasts. -/
def shortestScript (old new : List α) : EditScript α := divide (old.length + new.length) old new

end Sections
