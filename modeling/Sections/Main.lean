import Sections.Command.Run

/-!
# The program

The files that a request concerns are surveyed, the request is answered on this picture of them, and
the changes are then carried out.
-/

namespace Sections

def systemPath (place : Place) := (IO.FS.DirEntry.mk (PathText.ofPlace place).text "").root

def modifiedAt (metadata : IO.FS.Metadata) : Timestamp :=
  ⟨metadata.modified.sec, metadata.modified.nsec.toNat⟩

/--
What stands at a place.  Links are noted with the place that they lead to in the end; one
that leads nowhere gets a target that cannot be there, and one in a circle leads to
itself.
-/
def observe (place : Place) (withContent : Bool) : IO (Option FileItem) := do
  let path := systemPath place
  match ← path.symlinkMetadata.toBaseIO with
  | .error _ => return none
  | .ok metadata =>
    match metadata.type with
    | .dir => return some .directory
    | .symlink =>
      match ← path.metadata.toBaseIO with
      | .ok _ => return some (.link ⟨(← IO.FS.realPath path).toString⟩)
      | .error (.noFileOrDirectory ..) => return some (.link ⟨"/\x00"⟩)
      | .error _ => return some (.link (.ofPlace place))
    | .file | .other =>
      let content ← if withContent then IO.FS.readBinFile path else pure ByteArray.empty
      return some (.file content (modifiedAt metadata))

partial def surveyPath (links : Nat) (tree : FileTree) (place : Place) (steps : List String) :
    IO FileTree := do
  match steps with
  | [] => return tree
  | "." :: rest => surveyPath links tree place rest
  | ".." :: rest => surveyPath links tree place.dropLast rest
  | name :: rest =>
    let next := place ++ [name]
    match ← observe next true with
    | none => return tree
    | some (.link target) =>
      let tree := tree.put next (.link target)
      if links = 0 then return tree else surveyPath (links - 1) tree [] (target.steps ++ rest)
    | some item => surveyPath links (tree.put next item) next rest

partial def surveyDirectory (deep : Bool) (tree : FileTree) (directory : Place) : IO FileTree := do
  match ← (systemPath directory).readDir.toBaseIO with
  | .error _ => return tree
  | .ok entries =>
    entries.foldlM (fun tree entry => do
      let place := directory ++ [entry.fileName]
      match ← observe place false with
      | some .directory =>
        let tree := tree.put place .directory
        if deep then surveyDirectory deep tree place else return tree
      | some item => return if (tree.get? place).isSome then tree else tree.put place item
      | none => return tree) tree

def surveyFrom (disk : Disk) (path : PathText) : IO Disk := do
  let start := FileTree.origin disk.workingDirectory path
  return { disk with tree := ← surveyPath FileTree.mostLinks disk.tree start path.steps }

def surveyDocument (disk : Disk) (root : Place) (id : String) : IO Disk := do
  let tree ← surveyPath FileTree.mostLinks disk.tree root (PathText.mk id).steps
  let directory := (PathText.below root id).parent?
  match directory.map fun directory => tree.locate [] directory with
  | some (.ok directory) => return { disk with tree := ← surveyDirectory false tree directory }
  | _ => return { disk with tree }

def survey (request : Request) : IO Disk := do
  let workingDirectory := (PathText.mk (← IO.FS.realPath (← IO.currentDir)).toString).names
  let start : Disk := { tree := ← surveyPath 0 {} [] workingDirectory, workingDirectory }
  match request with
  | .run invocation => do
    let disk ← surveyFrom start (invocation.configFile.getD defaultConfigFile)
    let disk ← match invocation.command.textSource with
      | .file path => surveyFrom disk path
      | .absent | .given _ => pure disk
    match invocation.config disk with
    | .error _ => return disk
    | .ok config =>
      let disk ← surveyFrom disk config.store.folder
      match disk.tree.locate disk.workingDirectory config.store.folder, invocation.command with
      | .ok root, .list => return { disk with tree := ← surveyDirectory true disk.tree root }
      | .ok root, .onDocument command => surveyDocument disk root command.id
      | .error _, _ => return disk
  | .showVersion | .showHelp | .refuse _ => return start

def carryOut : FileEffect → IO (Option Timestamp)
  | .makeDirectory place => do
    IO.FS.createDir (systemPath place)
    return none
  | .createFile place content _ => do
    IO.FS.writeBinFile (systemPath place) content
    return some (modifiedAt (← (systemPath place).metadata))
  | .move source target => do
    IO.FS.rename (systemPath source) (systemPath target)
    return none
  | .remove place => do
    IO.FS.removeFile (systemPath place)
    return none

/--
Answers a request.  The time of a commit is the one that its file is dated with, so the
report is made once that is known.
-/
def serve (palette : Palette) (request : Request) : IO Report := do
  let disk ← survey request
  let (draft, after) := (request.answer ⟨palette, ⟨0, 0⟩⟩).run disk
  match (← after.effects.mapM carryOut).findSome? id with
  | some time => return ((request.answer ⟨palette, time⟩).run disk).1
  | none => return draft

end Sections

def main (arguments : List String) : IO UInt32 := do
  let terminal ← (← IO.getStdout).isTty
  let palette :=
    Sections.Palette.ofEnvironment (← IO.getEnv "CLICOLOR_FORCE") (← IO.getEnv "NO_COLOR")
    (← IO.getEnv "CLICOLOR") terminal
  let report ← Sections.serve palette (.ofArguments arguments)
  IO.print report.output
  IO.eprint report.errors
  return report.status.toUInt32
