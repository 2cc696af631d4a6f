import Sections.Text.Split

/-!
# Paths of files as they are written

Names are separated by slashes; a slash in front makes a path absolute.  A dot between slashes
stands for the directory itself.
-/

namespace Sections

abbrev Place := List String

structure PathText where
  text : String
  deriving DecidableEq, Repr, Inhabited

inductive PathEnding where
  | name
  | slash
  /-- A dot as the last piece, or no name at all. -/
  | dot
  deriving DecidableEq, Repr

namespace PathText

def pieces (path : PathText) : List String := (splitAll '/' path.text.toList).map String.ofList

def isAbsolute (path : PathText) : Bool := path.text.toList.head? == some '/'

def names (path : PathText) : List String :=
  path.pieces.filter fun piece => piece != "" && piece != "."

def ending (path : PathText) : PathEnding :=
  match (path.pieces.filter (· != "")).getLast? with
  | none | some "." => .dot
  | some _ => if path.pieces.getLast? = some "" then .slash else .name

/--
The steps of a walk along the path.  One that ends in a slash or dot must lead to a
directory.
-/
def steps (path : PathText) : List String :=
  path.names ++ if path.ending = .name then [] else ["."]

def leadsUp (path : PathText) : Bool := path.names.contains ".."

def ofNames (absolute : Bool) (names : List String) : PathText :=
  ⟨(if absolute then "/" else "") ++ "/".intercalate names⟩

def ofPlace (place : Place) : PathText := ofNames true place

def parent? (path : PathText) : Option PathText :=
  if path.names.isEmpty then none else some (ofNames path.isAbsolute path.names.dropLast)

/-- The text in front of the last name, without the slashes and dots between them. -/
def lead (path : PathText) : String :=
  let passedOver := fun piece : String => piece == "" || piece == "."
  let above := (path.pieces.reverse.dropWhile passedOver).tail.dropWhile passedOver
  "/".intercalate above.reverse

def ancestors (path : PathText) : List PathText :=
  path :: ((List.range path.names.length).reverse.map fun count =>
    ofNames path.isAbsolute (path.names.take count))

def below (place : Place) (relative : String) : PathText :=
  if place.isEmpty then ⟨"/" ++ relative⟩ else ⟨(ofPlace place).text ++ "/" ++ relative⟩

end PathText

end Sections
