import Sections.Command.Listing
import Sections.Command.Report
import Sections.Config.Opening
import Sections.Config.Reader
import Sections.Engine
import Sections.Store.Memory
import Sections.Suggest
import Sections.Wire

/-!
# Running commands

A command opens the configured store, does its work there and reports.
-/

namespace Sections

def defaultConfigFile : PathText := ⟨"mdpath.toml"⟩

def suggestionLimit : Nat := 3

structure Surroundings where
  palette : Palette
  now : Timestamp
  deriving DecidableEq, Repr

namespace Command

variable {σ : Type}

def suggestionLines (palette : Palette) (engine : Engine σ) (id : String) (missing : SlugPath) :
    StateM σ (List String) := do
  match ← (engine.index id).run with
  | .error _ => return []
  | .ok found =>
    match suggestPaths found missing suggestionLimit with
    | [] => return ["  Run `mdpath index " ++ id ++ "` to see available paths"]
    | paths =>
      return "  Did you mean:" :: paths.map fun path => "    - " ++ palette.paint .cyan path.joined

def cross (palette : Palette) : String := palette.paint .red "✗"

def showRegion (palette : Palette) (engine : Engine σ) (id : String) (selector : Selector)
    (json : Bool) :
    StoreM σ Report :=
  ExceptT.mk do
    match ← (engine.read id selector).run with
    | .ok slice =>
      if json then return .ok { output := slice.toJson.pretty ++ "\n" }
      else
        let ending := if slice.text.toList.getLast? = some '\n' then "" else "\n"
        let place := "span " ++ slice.span.render ++ " revision " ++ slice.revision.token
        return .ok { output := slice.text ++ ending, errors := palette.paint .dimmed place ++ "\n" }
    | .error (.selectorMiss path) =>
      let suggestions ← suggestionLines palette engine id selector.path
      return .ok
        { status := 1,
          errors := asLines ((cross palette ++ " no section at '" ++ path ++ "'") :: suggestions) }
    | .error error => return .error error

def showIndex (palette : Palette) (engine : Engine σ) (id : String) (json : Bool) :
    StoreM σ Report := do
  let index ← engine.index id
  return { output := asLines (if json then [index.render] else index.listing palette) }

def patchLines (palette : Palette) (patch : String) : List String :=
  (linesOf patch.toList).map fun line =>
    let text := String.ofList line
    if "---".toList.isPrefixOf line || "+++".toList.isPrefixOf line then palette.paint .dimmed text
    else if line.head? = some '-' then palette.paint .red text
    else if line.head? = some '+' then palette.paint .green text
    else text

def makeEdit (palette : Palette) (engine : Engine σ) (id : String) (edit : DocEdit)
    (expected : Revision)
    (showPatch : Bool) : StateM σ Report := do
  match ← (engine.apply id edit expected).run with
  | .ok envelope =>
    let done := palette.paint .green "✓" ++ " " ++ edit.op.name ++ " " ++ edit.selector.render ++
      " in " ++ envelope.id
    let revisions :=
      "Revision: " ++ envelope.baseRevision.token ++ " -> " ++ envelope.newRevision.token
    return {
      output := asLines
        (done :: revisions :: if showPatch then patchLines palette envelope.patch else []) }
  | .error (.revisionConflict current) =>
    return { status := 2, errors := asLines [
      cross palette ++ " " ++ id ++ ": revision conflict",
      "  Expected: " ++ expected.token,
      "  Current:  " ++ palette.paint .yellow current.token,
      "  Action: re-read the document and resubmit against the current revision"] }
  | .error error =>
    let suggestions ← match error with
      | .selectorMiss _ => suggestionLines palette engine id edit.selector.path
      | _ => pure []
    return {
      status := 1
      errors := asLines ((cross palette ++ " " ++ id ++ ": " ++ error.message) :: suggestions) }

def listDocuments (palette : Palette) (ids : List String) : Report :=
  { output := asLines
      (if ids.isEmpty then [palette.paint .yellow "No Markdown documents found"] else ids) }

def editText (disk : Disk) : TextSource → Except CommandFault (Option String)
  | .absent => .ok none
  | .given text => .ok (some text)
  | .file path =>
    match disk.tree.readText disk.workingDirectory path with
    | .ok text => .ok (some text)
    | .error fault => .error (.textFile path fault)

def work (palette : Palette) (command : DocumentCommand) (text : Option String)
    (engine : Engine σ) :
    StoreM σ Report :=
  match command with
  | .read id selector json => showRegion palette engine id selector json
  | .index id json => showIndex palette engine id json
  | .apply id op selector _ expected showPatch =>
    ExceptT.lift (makeEdit palette engine id ⟨op, selector, text⟩ expected showPatch)

end Command

abbrev CommandM := ExceptT CommandFault (StateM Disk)

namespace Invocation

def config (invocation : Invocation) (disk : Disk) : Except ConfigFault Config := do
  let config ←
    match invocation.configFile with
    | some path => Config.ofFile disk path
    | none => Config.ofFileIfAny disk defaultConfigFile
  match invocation.root with
  | some root => return { config with store := ⟨.file, some root⟩ }
  | none => return config

def onStore {α : Type} (step : StoreM Disk α) : CommandM α :=
  ExceptT.mk do return (← step.run).mapError .document

def workOn (surroundings : Surroundings) (options : IndexOptions) (text : Option String) :
    Command → OpenStore → CommandM Report
  | .onDocument command, .folder guard =>
    onStore (Command.work surroundings.palette command text
      { store := Folder.store xxh3 guard surroundings.now, options })
  | .onDocument command, .memory =>
    MonadExcept.ofExcept
      (((Command.work surroundings.palette command text
        { store := Memory.store xxh3, options }).run {}).1.mapError .document)
  | .list, .folder guard =>
    return Command.listDocuments surroundings.palette (Folder.documentIds guard (← get).tree)
  | .list, .memory => throw .noFolder

def execute (surroundings : Surroundings) (invocation : Invocation) : CommandM Report := do
  let config ← MonadExcept.ofExcept ((invocation.config (← get)).mapError .config)
  let text ← MonadExcept.ofExcept (Command.editText (← get) invocation.command.textSource)
  let store ← onStore config.openStore
  workOn surroundings config.index text invocation.command store

end Invocation

def Request.answer (surroundings : Surroundings) : Request → StateM Disk Report
  | .run invocation => do
    match ← (invocation.execute surroundings).run with
    | .ok report => return report
    | .error fault => return .ofFault fault
  | .showVersion => return .version
  | .showHelp => return .help
  | .refuse fault => return .ofUsage fault

end Sections
