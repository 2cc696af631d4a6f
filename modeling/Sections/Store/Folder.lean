import Sections.Store.Basic
import Sections.Store.RootGuard

/-!
# The store in a folder

Documents are files below a root.  A revision names the modification time, the length and the hash
of a file; each commit moves the modification time forward.
-/

namespace Sections

namespace Folder

def revisionFor (hash : TextHash) (text : String) (modified : Timestamp) : Revision :=
  ⟨modified.render ++ "-" ++ toString text.utf8ByteSize ++ "-" ++ fingerprint hash text⟩

def readText (disk : Disk) (path : PathText) : Except DocError (Option (String × Timestamp)) :=
  match disk.tree.read disk.workingDirectory path with
  | .ok (content, modified) =>
    match decodeUtf8 content with
    | .ok text => .ok (some (text, modified))
    | .error fault => .error (.io fault.message)
  | .error fault => if fault.isNotFound then .ok none else .error (.io fault.message)

def onDisk {α : Type} (step : DiskM α) : StoreM Disk α :=
  ExceptT.mk do return (← step.run).mapError fun fault => .io fault.message

def resolve (guard : RootGuard) (id : String) : StoreM Disk PathText := do
  MonadExcept.ofExcept (guard.resolve (← get).tree id)

def load (hash : TextHash) (guard : RootGuard) (id : String) : StoreM Disk Snapshot := do
  let path ← resolve guard id
  match ← MonadExcept.ofExcept (readText (← get) path) with
  | some (text, modified) => return ⟨text, revisionFor hash text modified⟩
  | none => throw (.notFound id)

def save (hash : TextHash) (guard : RootGuard) (now : Timestamp) (id text : String)
    (expected : Revision)
    (writePatch : PatchWriter) : StoreM Disk Commit := do
  let path ← resolve guard id
  match ← MonadExcept.ofExcept (readText (← get) path) with
  | some (current, modified) =>
    let revision := revisionFor hash current modified
    if revision = expected then commit path current (some modified)
    else throw (.revisionConflict revision)
  | none => commit path "" none
where
  commit (path : PathText) (old : String) (previous : Option Timestamp) : StoreM Disk Commit := do
    let patch := writePatch old text
    onDisk (Disk.writeFile path text.toUTF8 (Timestamp.following previous now))
    match ← MonadExcept.ofExcept (readText (← get) path) with
    | some (stored, modified) => return ⟨revisionFor hash stored modified, patch⟩
    | none => throw (.notFound id)

def store (hash : TextHash) (guard : RootGuard) (now : Timestamp) : Store Disk :=
  ⟨load hash guard, save hash guard now⟩

def openAt (path : PathText) : StoreM Disk RootGuard := onDisk (RootGuard.ofPath path)

def documentIds (guard : RootGuard) (tree : FileTree) : List String :=
  let ids := (tree.filesBelow guard.root).filterMap fun place =>
    match place.getLast? with
    | some name => if isMarkdown name then guard.idFor (.ofPlace place) else none
    | none => none
  ids.mergeSort (· ≤ ·)
where
  isMarkdown (name : String) : Bool :=
    match splitLast? '.' name.toList with
    | some (front, extension) =>
      !front.isEmpty && (extension == "md".toList || extension == "markdown".toList)
    | none => false

end Folder

end Sections
