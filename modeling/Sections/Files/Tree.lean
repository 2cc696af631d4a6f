import Sections.Files.Fault
import Sections.Files.PathText
import Sections.Files.Timestamp
import Sections.Text.Utf8

/-!
# File trees

A tree of directories, files and symbolic links, and the walk along a path through it.
-/

namespace Sections

inductive FileItem where
  | directory
  | file (content : ByteArray) (modified : Timestamp)
  | link (target : PathText)
  deriving DecidableEq

/-- The items of a tree with their places.  The top itself is always a directory. -/
structure FileTree where
  items : List (Place × FileItem) := []

namespace FileTree

def get? (tree : FileTree) (place : Place) : Option FileItem :=
  if place.isEmpty then some .directory else tree.items.lookup place

def erase (tree : FileTree) (place : Place) : FileTree :=
  ⟨tree.items.filter fun entry => entry.1 != place⟩

def put (tree : FileTree) (place : Place) (item : FileItem) : FileTree :=
  ⟨(place, item) :: (tree.erase place).items⟩

def isDirectory (tree : FileTree) (place : Place) : Bool := tree.get? place == some .directory

def longestName : Nat := 255

def longestPath : Nat := 4095

def mostLinks : Nat := 40

/--
Walks from a place along the steps of a path, and gives the place that is
reached.  Symbolic links are followed, at most `links` of them.
-/
def walk (tree : FileTree) (links : Nat) (place : Place) (steps : List String) :
    Except SystemError Place :=
  match steps with
  | [] => .ok place
  | step :: rest =>
    if !tree.isDirectory place then .error .notDirectory
    else if step = "." then tree.walk links place rest
    else if step = ".." then tree.walk links place.dropLast rest
    else if longestName < step.utf8ByteSize then .error .nameTooLong
    else
      match tree.get? (place ++ [step]) with
      | none => .error .notFound
      | some (.link target) =>
        match links with
        | 0 => .error .linkLoop
        | links + 1 =>
          tree.walk links (if target.isAbsolute then [] else place) (target.steps ++ rest)
      | some _ => tree.walk links (place ++ [step]) rest
termination_by (links, steps.length)

def checkPath (path : PathText) : Except FileFault Unit :=
  if path.text.toList.contains '\x00' then .error .nulInPath
  else if path.text = "" then .error (.system .notFound)
  else if longestPath < path.text.utf8ByteSize then .error (.system .nameTooLong)
  else .ok ()

def origin (workingDirectory : Place) (path : PathText) : Place :=
  if path.isAbsolute then [] else workingDirectory

def locate (tree : FileTree) (workingDirectory : Place) (path : PathText) :
    Except FileFault Place := do
  checkPath path
  (tree.walk mostLinks (origin workingDirectory path) path.steps).mapError .system

/-- The place of the last name of a path, which need not be there and is not followed. -/
def locateEntry (tree : FileTree) (workingDirectory : Place) (path : PathText) :
    Except FileFault (Option Place) := do
  checkPath path
  let lead := if path.ending = .dot then path.steps else path.names.dropLast ++ ["."]
  let directory ← (tree.walk mostLinks (origin workingDirectory path) lead).mapError .system
  match path.names.getLast? with
  | some name =>
    if path.ending = .dot ∨ name = ".." then return none
    else if longestName < name.utf8ByteSize then throw (.system .nameTooLong)
    else return some (directory ++ [name])
  | none => return none

def read (tree : FileTree) (workingDirectory : Place) (path : PathText) :
    Except FileFault (ByteArray × Timestamp) := do
  match tree.get? (← tree.locate workingDirectory path) with
  | some (.file content modified) => return (content, modified)
  | some .directory => throw (.system .isDirectory)
  | _ => throw (.system .notFound)

def readText (tree : FileTree) (workingDirectory : Place) (path : PathText) :
    Except FileFault String := do
  let (content, _) ← tree.read workingDirectory path
  (decodeUtf8 content).mapError fun _ => .notText

def leadsToDirectory (tree : FileTree) (workingDirectory : Place) (path : PathText) : Bool :=
  match tree.locate workingDirectory path with
  | .ok place => tree.isDirectory place
  | .error _ => false

def leadsToFile (tree : FileTree) (workingDirectory : Place) (path : PathText) : Bool :=
  (tree.read workingDirectory path).isOk

def filesBelow (tree : FileTree) (directory : Place) : List Place :=
  tree.items.filterMap fun (place, item) =>
    match item with
    | .file _ _ => if directory.isPrefixOf place then some place else none
    | _ => none

end FileTree

end Sections
