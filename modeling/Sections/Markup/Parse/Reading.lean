import Sections.Markup.Automaton.Basic
import Sections.Markup.Parse.Stack

/-!
# Parallel readings

A reading is a stack with what else is known of it.  Readings that agree are joined; of several ones
that differ, those are given up that have read too little or at too high a cost.
-/

namespace Sections

inductive ReadingStatus where
  | active
  | stuck (token : SyntaxTree)
  | ended
  deriving Repr, Inhabited

structure Reading where
  vertex : Nat
  status : ReadingStatus := .active
  firm : Nat := 0
  line? : Option LineState := none
  ancestors : List Stack.Ancestor := []
  deriving Repr, Inhabited

namespace Reading

def isActive (reading : Reading) : Bool :=
  match reading.status with
  | .active => true
  | _ => false

def isStuck (reading : Reading) : Bool :=
  match reading.status with
  | .stuck _ => true
  | _ => false

def isEnded (reading : Reading) : Bool :=
  match reading.status with
  | .ended => true
  | _ => false

end Reading

structure Standing where
  cost : Nat
  pieces : Nat
  weight : Nat
  isLost : Bool
  deriving DecidableEq, Repr

inductive Preference where
  | first
  | ratherFirst
  | even
  | ratherSecond
  | second
  deriving DecidableEq, Repr

namespace Standing

/--
A reading is given up when it costs that much more than another one, measured by the
pieces that the other one has read.
-/
def costMargin : Nat := 1800

def compare (a b : Standing) : Preference :=
  if !a.isLost && b.isLost then if a.cost < b.cost then .first else .ratherFirst
  else if a.isLost && !b.isLost then if b.cost < a.cost then .second else .ratherSecond
  else if a.cost < b.cost then
    if costMargin < (b.cost - a.cost) * (1 + a.pieces) then .first else .ratherFirst
  else if b.cost < a.cost then
    if costMargin < (a.cost - b.cost) * (1 + b.pieces) then .second else .ratherSecond
  else if b.weight < a.weight then .ratherFirst
  else if a.weight < b.weight then .ratherSecond
  else .even

end Standing

namespace Stack

def top (stack : Stack) (reading : Reading) : Vertex := stack.vertex reading.vertex

def isBroken (stack : Stack) (reading : Reading) : Bool :=
  let top := stack.top reading
  top.state == Automaton.errorState && top.links.head?.any fun link => link.tree?.isNone

def cost (stack : Stack) (reading : Reading) : Nat :=
  (stack.top reading).cost +
    if reading.isStuck || stack.isBroken reading then SyntaxTree.misfitCost else 0

def piecesSince (stack : Stack) (reading : Reading) : Nat :=
  (stack.top reading).pieces - reading.firm

def standing (stack : Stack) (reading : Reading) : Standing :=
  { cost := stack.cost reading + if reading.isStuck then SyntaxTree.pieceCost else 0
    pieces := stack.piecesSince reading
    weight := (stack.top reading).weight
    isLost := reading.isStuck || (stack.top reading).state == Automaton.errorState }

def settle (stack : Stack) (reading : Reading) : Reading :=
  { reading with firm := min reading.firm (stack.top reading).pieces }

def agree (stack : Stack) (a b : Reading) : Bool :=
  a.isActive && b.isActive && stack.alike a.vertex b.vertex && a.line? == b.line?

def join (stack : Stack) (reading other : Reading) : Reading × Stack :=
  let stack := stack.share reading.vertex other.vertex
  let top := stack.top reading
  (if top.state = Automaton.errorState then { reading with firm := top.pieces } else reading, stack)

end Stack

structure Readings where
  automaton : Automaton
  source : Source
  stack : Stack
  readings : Array Reading
  finished? : Option SyntaxTree := none

namespace Readings

def ofSource (automaton : Automaton) (source : Source) : Readings :=
  { automaton, source
    stack := ⟨#[{ state := Automaton.startState, spot := .origin, links := [] }]⟩
    readings := #[{ vertex := 0 }] }

def size (rs : Readings) : Nat := rs.readings.size

def reading (rs : Readings) (number : Nat) : Reading := rs.readings.getD number default

def top (rs : Readings) (number : Nat) : Vertex := rs.stack.top (rs.reading number)

def state (rs : Readings) (number : Nat) : Nat := (rs.top number).state

def spot (rs : Readings) (number : Nat) : Spot := (rs.top number).spot

def modify (rs : Readings) (number : Nat) (change : Reading → Reading) : Readings :=
  { rs with readings := rs.readings.modify number change }

def remove (rs : Readings) (number : Nat) : Readings :=
  { rs with readings := rs.readings.eraseIdxIfInBounds number }

def finish (rs : Readings) (number : Nat) : Readings :=
  rs.modify number fun reading => { reading with status := .ended }

def replace (rs : Readings) (number later : Nat) : Readings :=
  let ancestors := (rs.reading number).ancestors
  (rs.modify number fun _ =>
    let reading := rs.reading later
    if reading.ancestors.isEmpty then { reading with ancestors } else reading).remove later

def push (rs : Readings) (number : Nat) (tree : SyntaxTree) (state : Nat) : Readings :=
  let ⟨automaton, source, stack, readings, finished?⟩ := rs
  let vertex := stack.next
  let below := (readings.getD number default).vertex
  { automaton, source, finished?
    stack := stack.push below tree state
    readings := readings.modify number fun reading => { reading with vertex } }

def pushBreak (rs : Readings) (number : Nat) : Readings :=
  let ⟨automaton, source, stack, readings, finished?⟩ := rs
  let vertex := stack.next
  let below := (readings.getD number default).vertex
  let firm := (stack.vertex below).pieces
  { automaton, source, finished?
    stack := stack.pushBreak below Automaton.errorState
    readings := readings.modify number fun reading => { reading with vertex, firm } }

def add (rs : Readings) (reading : Reading) (trees : List SyntaxTree) (state : Nat) : Readings :=
  let rs := { rs with readings := rs.readings.push reading }
  trees.foldl (fun rs tree => rs.push (rs.size - 1) tree state) rs

def join (rs : Readings) (earlier number : Nat) : Readings :=
  let ⟨automaton, source, stack, readings, finished?⟩ := rs
  let (reading, stack) := stack.join (readings.getD earlier default) (readings.getD number default)
  { automaton, source, finished?, stack
    readings := (readings.set! earlier reading).eraseIdxIfInBounds number }

def agreeing? (rs : Readings) (number first : Nat) (except : Option Nat) : Option Nat :=
  ((List.range number).drop first).find? fun other =>
    except != some other && rs.stack.agree (rs.reading other) (rs.reading number)

/--
Whether another reading has come at least as far as a reading would be with the given
cost, and is so much better that it is no use to go on.
-/
def isBeaten (rs : Readings) (number cost : Nat) : Bool :=
  let reading := rs.reading number
  let standing : Standing :=
    ⟨cost, rs.stack.piecesSince reading, (rs.stack.top reading).weight, false⟩
  rs.finished?.any (fun tree => tree.cost ≤ cost)
    || (List.range rs.size).any fun other =>
      let rival := rs.reading other
      if other == number || !rival.isActive || (rs.spot other).index < (rs.spot number).index
        then false
      else
        match standing.compare (rs.stack.standing rival) with
        | .second => true
        | .ratherSecond => rs.stack.agree rival reading
        | _ => false

def settle (rs : Readings) : Readings :=
  { rs with readings := rs.readings.map rs.stack.settle }

def isVisible (rs : Readings) (code : Nat) : Bool :=
  (rs.automaton.grammar.symbols[code]?.map GrammarSymbol.isVisible).getD false

def after (rs : Readings) (state code : Nat) : Nat :=
  (rs.automaton.next? state code).getD Automaton.errorState

end Readings

end Sections
