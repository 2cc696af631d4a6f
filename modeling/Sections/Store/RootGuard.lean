import Sections.Error
import Sections.Files.Disk

/-!
# Documents below a root

Ids of stored files are relative paths.  The guard refuses those that lead out of the root, by their
text or through links.
-/

namespace Sections

structure RootGuard where
  /-- The place of the root, with no link on the way. -/
  root : Place
  deriving DecidableEq, Repr

namespace RootGuard

def ofPath (path : PathText) : DiskM RootGuard := do
  Disk.createDirectories path
  return ⟨← Disk.locate path⟩

def isLexicallySafe (id : String) : Bool :=
  id != "" && !(PathText.mk id).isAbsolute && !(PathText.mk id).leadsUp

/--
The path of a document.  Of the path and the paths above it, the first that leads
somewhere must lead to a place within the root.
-/
def resolve (guard : RootGuard) (tree : FileTree) (id : String) : Except DocError PathText :=
  if !isLexicallySafe id then .error (.invalidDocumentId id)
  else
    let path := PathText.below guard.root id
    match path.ancestors.findSome? fun ancestor => (tree.locate [] ancestor).toOption with
    | some place => if guard.root.isPrefixOf place then .ok path else .error (.invalidDocumentId id)
    | none => .ok path

def idFor (guard : RootGuard) (path : PathText) : Option String :=
  if path.isAbsolute && guard.root.isPrefixOf path.names then
    let names := path.names.drop guard.root.length
    if names.contains ".." then none else some ("/".intercalate names)
  else none

end RootGuard

end Sections
