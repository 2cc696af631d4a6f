import Sections.Files.Disk
import Sections.Index

/-!
# Configurations

A configuration says what is indexed and where the documents are stored.
-/

namespace Sections

inductive StoreKind where
  | file
  | memory
  deriving DecidableEq, Repr, Inhabited

namespace StoreKind

def name : StoreKind → String
  | file => "file"
  | memory => "memory"

def ofName? (name : String) : Option StoreKind := [file, memory].find? (·.name = name)

end StoreKind

structure StoreConfig where
  kind : StoreKind := .file
  root : Option PathText := none
  deriving DecidableEq, Repr, Inhabited

def StoreConfig.folder (store : StoreConfig) : PathText := store.root.getD ⟨"."⟩

structure Config where
  index : IndexOptions := {}
  store : StoreConfig := {}
  deriving DecidableEq, Repr, Inhabited

inductive ConfigIssue where
  | missingField (name : String)
  | rootIsFile (root : PathText)
  | needlessRoot
  deriving DecidableEq, Repr

def ConfigIssue.message : ConfigIssue → String
  | missingField name => "missing field: " ++ name
  | rootIsFile root => "store.root " ++ root.text ++ " is a file"
  | needlessRoot => "store.root is only valid for kind = \"file\""

def Config.issues (config : Config) (disk : Disk) : List ConfigIssue :=
  match config.store.kind, config.store.root with
  | _, none => []
  | .memory, some _ => [.needlessRoot]
  | .file, some root =>
    if root.text = "" then [.missingField "store.root"]
    else if disk.tree.leadsToFile disk.workingDirectory root then [.rootIsFile root]
    else []

inductive ConfigFault where
  | malformed
  | invalid (issues : List ConfigIssue)
  | unreadable (path : PathText) (fault : FileFault)
  | inFile (path : PathText) (fault : ConfigFault)
  deriving Repr

namespace ConfigFault

def issuesMessage (issues : List ConfigIssue) : String :=
  "; ".intercalate (issues.map ConfigIssue.message)

def malformedMessage : String := "the text is not well formed, or a value has the wrong type"

def message : ConfigFault → String
  | malformed => "failed to parse config TOML: " ++ malformedMessage
  | invalid issues => "invalid config: " ++ issuesMessage issues
  | unreadable path fault => "failed to read config " ++ path.text ++ ": " ++ fault.message
  | inFile path fault => path.text ++ ": " ++ fault.message

def causes : ConfigFault → List String
  | malformed => [malformedMessage]
  | invalid issues => [issuesMessage issues]
  | unreadable _ fault => [fault.message]
  | inFile _ fault => fault.message :: fault.causes

end ConfigFault

end Sections
