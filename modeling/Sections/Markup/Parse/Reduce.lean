import Sections.Markup.Parse.NextToken

/-!
# Reductions

A reduction replaces the topmost trees of a reading by the one they make up.  Where the stack has
several ways down, this yields several readings.
-/

namespace Sections

namespace Readings

def reduced (rs : Readings) (reduction : Reduction) (spot : Spot) (trees : List SyntaxTree) :
    SyntaxTree × List SyntaxTree :=
  let (parts, extras) := SyntaxTree.splitExtras trees
  (.node (.symbol reduction.symbol) (rs.isVisible reduction.symbol) reduction.names spot parts,
    extras)

def bestReduced? (rs : Readings) (reduction : Reduction) (spot : Spot) :
    List (List SyntaxTree) → Option (SyntaxTree × List SyntaxTree)
  | [] => none
  | first :: others =>
    some (others.foldl (fun best trees =>
      let next := rs.reduced reduction spot trees
      if best.1.isBetter next.1 then next else best) (rs.reduced reduction spot first))

def addReduced (rs : Readings) (number : Nat) (reduction : Reduction) (base : Stack.Base) :
    Readings :=
  let under := rs.stack.vertex base.vertex
  match rs.bestReduced? reduction under.spot base.contents with
  | none => rs
  | some (tree, extras) =>
    let reading := rs.reading number
    let rs := rs.add { vertex := base.vertex, firm := reading.firm, line? := reading.line? }
      (tree.addWeight reduction.weight :: extras) (rs.after under.state reduction.symbol)
    let last := rs.size - 1
    match rs.agreeing? last 0 (some number) with
    | some other => rs.join other last
    | none => rs

def reduce (rs : Readings) (number : Nat) (reduction : Reduction) : Readings :=
  (rs.stack.bases (rs.reading number).vertex reduction.count).foldl
    (fun rs base => rs.addReduced number reduction base) rs

/--
Makes reductions of a reading.  Also gives the first of the readings that the last
fruitful one has added.
-/
def reduceAll (rs : Readings) (number : Nat) (reductions : List Reduction) :
    Readings × Option Nat :=
  reductions.foldl (fun (rs, added?) reduction =>
    let first := rs.size
    let rs := rs.reduce number reduction
    (rs, if first < rs.size then some first else added?)) (rs, none)

def accept (rs : Readings) (number : Nat) (textEnd : SyntaxTree) : Readings :=
  let rs := rs.push number textEnd Automaton.startState
  let roots := (rs.stack.contents (rs.reading number).vertex).filterMap fun trees =>
    match SyntaxTree.splitExtras trees with
    | (front, extras) =>
      front.getLast?.map fun root =>
        .node root.label root.piece.isVisible root.piece.names root.piece.start
          (front.dropLast ++ root.parts ++ extras)
  let best := roots.foldl (fun best? root =>
    match best? with
    | none => some root
    | some best => if best.isBetter root then some root else some best) rs.finished?
  { rs.finish number with finished? := best }

end Readings

end Sections
