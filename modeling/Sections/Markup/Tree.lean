/-!
# Markup trees

A document is a tree of nodes.  Positions are pairs of a line and a column, both counted from one;
columns count bytes and lines end at a line feed only.
-/

namespace Sections

structure Location where
  line : Nat
  column : Nat
  deriving DecidableEq, Repr, Inhabited

structure SourceRange where
  start : Location
  stop : Location
  deriving DecidableEq, Repr, Inhabited

inductive NodeKind where
  | document
  | heading (level : Nat) (text : String)
  | code (language : Option String)
  | paragraph
  | listItem
  | blockQuote
  | other (name : String)
  deriving DecidableEq, Repr, Inhabited

inductive Node where
  | mk (kind : NodeKind) (range : Option SourceRange) (children : List Node)
  deriving Repr, Inhabited

namespace Node

def kind : Node → NodeKind
  | mk kind _ _ => kind

def range : Node → Option SourceRange
  | mk _ range _ => range

def children : Node → List Node
  | mk _ _ children => children

def located (kind : NodeKind) (start stop : Location) (children : List Node) : Node :=
  mk kind (some ⟨start, stop⟩) children

mutual

def preorder : Node → List Node
  | mk kind range children => mk kind range children :: preorderAll children

def preorderAll : List Node → List Node
  | [] => []
  | node :: rest => preorder node ++ preorderAll rest

end

mutual

def size : Node → Nat
  | mk _ _ children => 1 + sizeAll children

def sizeAll : List Node → Nat
  | [] => 0
  | node :: rest => size node + sizeAll rest

end

theorem sizeAll_append (front back : List Node) :
    sizeAll (front ++ back) = sizeAll front + sizeAll back := by
  induction front with
  | nil => simp [sizeAll]
  | cons node front ih => simp [sizeAll, ih, Nat.add_assoc]

theorem size_eq (node : Node) : node.size = 1 + sizeAll node.children := by
  cases node; simp [size, children]

def drain : List Node → List Node
  | [] => []
  | node :: waiting => node :: drain (node.children ++ waiting)
termination_by waiting => sizeAll waiting
decreasing_by
  simp only [sizeAll_append, sizeAll, size_eq]
  omega

/-- A node and all nodes below it, found with a stack of nodes still to be visited. -/
def descendants (node : Node) : List Node := drain [node]

end Node

end Sections
