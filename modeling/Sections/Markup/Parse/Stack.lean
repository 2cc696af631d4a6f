import Sections.Markup.Parse.SyntaxTree

/-!
# The shared stack of all readings

Where a text can be read in several ways, all of them are followed.  Their stacks share what they
have in common: a stack is a vertex, and each link of a vertex leads to what lies under a tree.
-/

namespace Sections

structure Link where
  vertex : Nat
  tree? : Option SyntaxTree
  deriving Repr, Inhabited

structure Vertex where
  state : Nat
  spot : Spot
  links : List Link
  cost : Nat := 0
  pieces : Nat := 0
  weight : Nat := 0
  deriving Repr, Inhabited

namespace Link

def interchangeable (link other : Link) : Bool :=
  match link.tree?, other.tree? with
  | some tree, some another => tree.interchangeable another
  | none, none => true
  | _, _ => false

end Link

structure Stack where
  vertices : Array Vertex
  deriving Repr, Inhabited

namespace Stack

def vertex (stack : Stack) (number : Nat) : Vertex := stack.vertices.getD number default

def next (stack : Stack) : Nat := stack.vertices.size

def push (stack : Stack) (below : Nat) (tree : SyntaxTree) (state : Nat) : Stack :=
  let under := stack.vertex below
  { vertices := stack.vertices.push
      { state
        spot := tree.piece.stop
        links := [⟨below, some tree⟩]
        cost := under.cost + tree.cost
        pieces := under.pieces + tree.pieces
        weight := under.weight + tree.weight } }

def pushBreak (stack : Stack) (below state : Nat) : Stack :=
  { vertices := stack.vertices.push { stack.vertex below with state, links := [⟨below, none⟩] } }

def alike (stack : Stack) (a b : Nat) : Bool :=
  let a := stack.vertex a
  let b := stack.vertex b
  a.state == b.state && a.spot.index == b.spot.index && a.cost == b.cost

def linkLimit : Nat := 8

/--
Adds a link to a vertex.  A link that the vertex has already is kept once, the weightier
tree with it; where the trees can stand for each other, what lies under them is shared.
-/
def addLink (fuel : Nat) (stack : Stack) (number : Nat) (link : Link) : Stack :=
  match fuel with
  | 0 => stack
  | fuel + 1 =>
    if link.vertex = number then stack
    else
      let vertex := stack.vertex number
      let weight := (stack.vertex link.vertex).weight + (link.tree?.map SyntaxTree.weight).getD 0
      let known := vertex.links.findIdx fun other =>
        other.interchangeable link &&
          (other.vertex == link.vertex || stack.alike other.vertex link.vertex)
      match vertex.links[known]? with
      | some other =>
        if other.vertex = link.vertex then
          if (other.tree?.map SyntaxTree.weight).getD 0
              < (link.tree?.map SyntaxTree.weight).getD 0 then
            { vertices := stack.vertices.set! number
                { vertex with links := vertex.links.set known link, weight } }
          else stack
        else
          let shared := (stack.vertex link.vertex).links.foldl
            (fun stack under => addLink fuel stack other.vertex under) stack
          { vertices := shared.vertices.modify number fun vertex =>
              { vertex with weight := max vertex.weight weight } }
      | none =>
        if linkLimit ≤ vertex.links.length then stack
        else
          let pieces :=
            (stack.vertex link.vertex).pieces + (link.tree?.map SyntaxTree.pieces).getD 0
          { vertices := stack.vertices.set! number
              { vertex with
                links := vertex.links ++ [link]
                pieces := max vertex.pieces pieces
                weight := max vertex.weight weight } }

def share (stack : Stack) (number other : Nat) : Stack :=
  (stack.vertex other).links.foldl (fun stack link => stack.addLink stack.next number link) stack

structure Walker where
  vertex : Nat
  trees : List SyntaxTree := []
  depth : Nat := 0
  deriving Repr, Inhabited

def Walker.step (walker : Walker) (link : Link) : Walker :=
  match link.tree? with
  | none => { walker with vertex := link.vertex, depth := walker.depth + 1 }
  | some tree =>
    { vertex := link.vertex
      trees := tree :: walker.trees
      depth := if tree.isExtra then walker.depth else walker.depth + 1 }

def walkerLimit : Nat := 64

/-- All stops of walkers that go down all ways in step, each until it halts. -/
def walk (stack : Stack) (halts : Walker → Bool) (fuel : Nat) (walkers : List Walker) :
    List Walker :=
  match fuel with
  | 0 => walkers
  | fuel + 1 =>
    if walkers.isEmpty then []
    else
      let ways := (walkers.filter fun walker => !halts walker).map fun walker =>
        (stack.vertex walker.vertex).links.map walker.step
      let first := ways.filterMap List.head?
      let others := ways.flatMap List.tail
      walkers ++ stack.walk halts fuel ((first ++ others).take walkerLimit)

structure Base where
  vertex : Nat
  contents : List (List SyntaxTree)
  deriving Repr, Inhabited

def Base.ofWalkers (walkers : List Walker) : List Base :=
  ((walkers.map Walker.vertex).eraseDups).map fun vertex =>
    ⟨vertex, (walkers.filter fun walker => walker.vertex == vertex).map Walker.trees⟩

def bases (stack : Stack) (number count : Nat) : List Base :=
  let ends : Walker → Bool := fun walker => walker.depth == count
  Base.ofWalkers ((stack.walk ends (stack.next + 1) [{ vertex := number }]).filter ends)

def contents (stack : Stack) (number : Nat) : List (List SyntaxTree) :=
  let isBottom : Walker → Bool := fun walker => (stack.vertex walker.vertex).links.isEmpty
  ((stack.walk isBottom (stack.next + 1) [{ vertex := number }]).filter isBottom).map Walker.trees

structure Ancestor where
  spot : Spot
  depth : Nat
  state : Nat
  deriving Repr, Inhabited

def ancestorLimit : Nat := 16

def ancestors (stack : Stack) (number : Nat) : List Ancestor :=
  let tooDeep : Walker → Bool := fun walker => ancestorLimit < walker.depth
  let stops := (stack.walk tooDeep (stack.next + 1) [{ vertex := number }]).filter fun walker =>
    !tooDeep walker
  (stops.foldl (fun found walker =>
    let vertex := stack.vertex walker.vertex
    let near := found.takeWhile fun ancestor => walker.depth ≤ ancestor.depth
    if near.any fun ancestor =>
      ancestor.depth == walker.depth && ancestor.state == vertex.state then found
    else ⟨vertex.spot, walker.depth, vertex.state⟩ :: found) []).reverse

end Stack

end Sections
