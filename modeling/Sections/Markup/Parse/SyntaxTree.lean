import Sections.Markup.Line.Reader
import Sections.Markup.Source

/-!
# Syntax trees

What has been read of a text is a tree whose leaves are tokens.  A tree that holds text which fits
nowhere has a cost; of two ways to read a text the cheaper one is kept.
-/

namespace Sections

inductive Label where
  | symbol (code : Nat)
  | skipped
  | misfit
  deriving DecidableEq, Repr, Inhabited

namespace Label

def precedes : Label → Label → Bool
  | symbol code, symbol other => code < other
  | symbol _, _ => true
  | skipped, misfit => true
  | _, _ => false

def isMisfit : Label → Bool
  | symbol _ => false
  | skipped | misfit => true

end Label

structure Piece where
  label : Label
  before : Spot
  start : Spot
  stop : Spot
  names : List (Option String) := []
  isVisible : Bool
  isExtra : Bool := false
  cost : Nat := 0
  weight : Nat := 0
  visibleBelow : Nat := 0
  visibleTop : Nat := 0
  line? : Option LineState := none
  changesLine : Bool := false
  deriving Repr, Inhabited

inductive SyntaxTree where
  | mk (piece : Piece) (parts : List SyntaxTree)
  deriving Repr, Inhabited

namespace SyntaxTree

def piece : SyntaxTree → Piece
  | mk piece _ => piece

def parts : SyntaxTree → List SyntaxTree
  | mk _ parts => parts

def label (tree : SyntaxTree) : Label := tree.piece.label

def cost (tree : SyntaxTree) : Nat := tree.piece.cost

def weight (tree : SyntaxTree) : Nat := tree.piece.weight

def isExtra (tree : SyntaxTree) : Bool := tree.piece.isExtra

def isEmpty (tree : SyntaxTree) : Bool := tree.piece.before.index == tree.piece.stop.index

def asExtra : SyntaxTree → SyntaxTree
  | mk piece parts => mk { piece with isExtra := true } parts

def addWeight (weight : Nat) : SyntaxTree → SyntaxTree
  | mk piece parts => mk { piece with weight := piece.weight + weight } parts

def pieces (tree : SyntaxTree) : Nat :=
  tree.piece.visibleBelow + (if tree.piece.isVisible then 1 else 0)
    + (if tree.label = .skipped then 1 else 0)

def leaf (label : Label) (isVisible : Bool) (before start stop : Spot) : SyntaxTree :=
  mk { label, before, start, stop, isVisible } []

def missingCost : Nat := 610

def missing (code : Nat) (isVisible : Bool) (spot : Spot) : SyntaxTree :=
  mk { label := .symbol code, before := spot, start := spot, stop := spot, isVisible,
       cost := missingCost } []

def nameParts : List (Option String) → List SyntaxTree → List (Option String × SyntaxTree)
  | _, [] => []
  | names, part :: rest =>
    if part.isExtra then (none, part) :: nameParts names rest
    else (names.head?.join, part) :: nameParts names.tail rest

/-- What every misfit costs, and what each of its bytes, line ends and visible pieces adds. -/
def misfitCost : Nat := 500
def byteCost : Nat := 1
def lineCost : Nat := 30
def pieceCost : Nat := 100

def partCost (part : SyntaxTree) : Nat :=
  if part.isExtra || (part.label == .misfit && part.parts.isEmpty) then 0
  else if part.piece.isVisible then pieceCost
  else pieceCost * part.piece.visibleTop

def total (amounts : List Nat) : Nat := amounts.foldl (· + ·) 0

def node (label : Label) (isVisible : Bool) (names : List (Option String)) (spot : Spot)
    (parts : List SyntaxTree) : SyntaxTree :=
  let named := nameParts names parts
  let isTop : Option String × SyntaxTree → Bool :=
    fun (name?, part) => name?.isSome || part.piece.isVisible
  let start := (parts.head?.map fun part => part.piece.start).getD spot
  let stop := (parts.getLast?.map fun part => part.piece.stop).getD spot
  let misfit :=
    if label.isMisfit then
      misfitCost + byteCost * start.bytesTo stop + lineCost * start.linesTo stop +
        total (parts.map partCost)
    else 0
  mk
    { label
      before := (parts.head?.map fun part => part.piece.before).getD spot
      start, stop, names, isVisible
      cost := total (parts.map fun part => if part.label = .skipped then 0 else part.cost) + misfit
      weight := total (parts.map weight)
      visibleBelow := total (parts.map fun part => part.piece.visibleBelow) + named.countP isTop
      visibleTop :=
        total (named.map fun part => if isTop part then 1 else part.2.piece.visibleTop) }
    parts

def splitExtras (trees : List SyntaxTree) : List SyntaxTree × List SyntaxTree :=
  let extras := (trees.reverse.takeWhile isExtra).reverse
  (trees.take (trees.length - extras.length), extras)

/--
Whether two trees can stand for each other: they cover the same text as the same
symbol.  Trees with a cost are not looked at any closer.
-/
def interchangeable (a b : SyntaxTree) : Bool :=
  a.label == b.label
    && ((0 < a.cost && 0 < b.cost)
      || (a.piece.before.index == b.piece.before.index && a.piece.start.index == b.piece.start.index
        && a.piece.stop.index == b.piece.stop.index && a.parts.length == b.parts.length
        && a.isExtra == b.isExtra && a.piece.line? == b.piece.line?))

mutual

def compareShape : SyntaxTree → SyntaxTree → Ordering
  | mk piece parts, mk other others =>
    if piece.label.precedes other.label then .lt
    else if other.label.precedes piece.label then .gt
    else
      match compare parts.length others.length with
      | .eq => compareShapes parts others
      | unequal => unequal

def compareShapes : List SyntaxTree → List SyntaxTree → Ordering
  | part :: rest, other :: others =>
    match compareShape part other with
    | .eq => compareShapes rest others
    | unequal => unequal
  | _, _ => .eq

end

/--
Whether the second of two ways to read the same text is the better one: the cheaper, the
weightier, the one whose shape comes first; of equally good ones with a cost, the second.
-/
def isBetter (first second : SyntaxTree) : Bool :=
  if first.cost ≠ second.cost then second.cost < first.cost
  else if first.weight ≠ second.weight then first.weight < second.weight
  else 0 < first.cost || compareShape first second == .gt

end SyntaxTree

end Sections
