import Sections.Files.Tree

/-!
# Changes of a file tree

Directories are made and files written by single effects, each of which touches one or two places.
A file is written beside its place first and then moved there, so that it is never seen in part.
-/

namespace Sections

inductive FileEffect where
  | makeDirectory (place : Place)
  | createFile (place : Place) (content : ByteArray) (modified : Timestamp)
  | move (source target : Place)
  | remove (place : Place)
  deriving DecidableEq

namespace FileEffect

def touched : FileEffect → List Place
  | makeDirectory place | createFile place _ _ | remove place => [place]
  | move source target => [source, target]

def applyTo (tree : FileTree) : FileEffect → FileTree
  | makeDirectory place => tree.put place .directory
  | createFile place content modified => tree.put place (.file content modified)
  | move source target =>
    match tree.get? source with
    | some item => (tree.erase source).put target item
    | none => tree
  | remove place => tree.erase place

end FileEffect

structure Disk where
  tree : FileTree
  workingDirectory : Place := []
  effects : List FileEffect := []

abbrev DiskM := ExceptT FileFault (StateM Disk)

namespace Disk

open FileTree (longestPath)

def perform (effect : FileEffect) : DiskM Unit :=
  modify fun disk =>
    { disk with tree := effect.applyTo disk.tree, effects := disk.effects ++ [effect] }

def locate (path : PathText) : DiskM Place := do
  let disk ← get
  MonadExcept.ofExcept (disk.tree.locate disk.workingDirectory path)

def read (path : PathText) : DiskM (ByteArray × Timestamp) := do
  let disk ← get
  MonadExcept.ofExcept (disk.tree.read disk.workingDirectory path)

def makeDirectory (path : PathText) : DiskM Unit := do
  let disk ← get
  match ← MonadExcept.ofExcept (disk.tree.locateEntry disk.workingDirectory path) with
  | some place =>
    if (disk.tree.get? place).isSome then throw (.system .exists)
    else perform (.makeDirectory place)
  | none => throw (.system .exists)

/--
Makes one directory, which may also be there already.  Tells whether only a directory
above it is missing.
-/
def ensureDirectory (path : PathText) : DiskM Bool :=
  ExceptT.mk do
    match ← (makeDirectory path).run with
    | .ok () => return .ok true
    | .error fault =>
      if fault.isNotFound then return .ok false
      else
        let disk ← get
        if disk.tree.leadsToDirectory disk.workingDirectory path then return .ok true
        else return .error fault

/-- Makes a directory and the missing ones above it; `height` bounds their number. -/
def makeDirectories (height : Nat) (path : PathText) : DiskM Unit := do
  if path.text = "" then return
  if ← ensureDirectory path then return
  match height, path.parent? with
  | height + 1, some parent =>
    makeDirectories height parent
    unless ← ensureDirectory path do throw (.system .notFound)
  | _, _ => throw .noDirectory

def createDirectories (path : PathText) : DiskM Unit := makeDirectories path.names.length path

def temporaryName (tree : FileTree) (directory : Place) : String :=
  let names := (List.range (tree.items.length + 1)).map fun number =>
    ".tmp" ++ paddedDecimal 6 number
  (names.find? fun name => (tree.get? (directory ++ [name])).isNone).getD ".tmp"

def temporaryNameLength : Nat := 10

/-- Whether the path of a temporary file beside an absolute path is not too long. -/
def HasRoom (path : PathText) : Prop :=
  path.lead.utf8ByteSize + 1 + temporaryNameLength ≤ longestPath

instance (path : PathText) : Decidable (HasRoom path) := inferInstanceAs (Decidable (_ ≤ _))

/--
Moves a file to the place of the last name of a path.  A link there is replaced, not
followed.
-/
def moveTo (source : Place) (path : PathText) : DiskM Unit := do
  let disk ← get
  match ← MonadExcept.ofExcept (disk.tree.locateEntry disk.workingDirectory path) with
  | none => throw (.system .busy)
  | some target =>
    if path.ending = .slash then throw (.system .notDirectory)
    else if disk.tree.isDirectory target then throw (.system .isDirectory)
    else perform (.move source target)

/-- Writes a file as a whole, beside its place in a directory first. -/
def replaceFile (directory : Place) (path : PathText) (content : ByteArray) (modified : Timestamp) :
    DiskM Unit := do
  let name := temporaryName (← get).tree directory
  unless HasRoom path do throw (.systemAt .nameTooLong (path.lead ++ "/" ++ name))
  let entry := directory ++ [name]
  perform (.createFile entry content modified)
  tryCatch (moveTo entry path) fun fault => do
    perform (.remove entry)
    throw fault

def writeFile (path : PathText) (content : ByteArray) (modified : Timestamp) : DiskM Unit := do
  match path.parent? with
  | none => throw .noParent
  | some parent =>
    createDirectories parent
    replaceFile (← locate parent) path content modified

end Disk

end Sections
