import Sections.Config.Basic
import Sections.Toml.Reader

/-!
# Reading configurations

Settings are read from a TOML text or file.  What is left out keeps its default, and keys without
a meaning are skipped.
-/

namespace Sections

def settingOr {α : Type} (default : α) (read : Toml → Option α) : Option Toml → Option α
  | some value => read value
  | none => some default

def IndexOptions.ofToml? (value : Toml) : Option IndexOptions :=
  match value.fields? ["paragraphs", "list_items", "block_quotes"] with
  | some [paragraphs, listItems, blockQuotes] => do
    return ⟨← settingOr false Toml.bool? paragraphs, ← settingOr false Toml.bool? listItems,
      ← settingOr false Toml.bool? blockQuotes⟩
  | _ => none

/--
A kind of store is given by its name, or as a table whose only key is the name and has
nothing below it.
-/
def StoreKind.ofToml? : Toml → Option StoreKind
  | .text name => ofName? name
  | .table _ [(name, value)] => if value.isHollow then ofName? name else none
  | _ => none

def StoreConfig.ofToml? (value : Toml) : Option StoreConfig :=
  match value.fields? ["kind", "root"] with
  | some [kind, root] => do
    return ⟨← settingOr .file StoreKind.ofToml? kind,
      ← settingOr none (fun value => value.text?.map fun path => some ⟨path⟩) root⟩
  | _ => none

namespace Config

def ofToml? (value : Toml) : Option Config :=
  match value.fields? ["index", "store"] with
  | some [index, store] => do
    return ⟨← settingOr {} IndexOptions.ofToml? index, ← settingOr {} StoreConfig.ofToml? store⟩
  | _ => none

def ofText (disk : Disk) (text : String) : Except ConfigFault Config :=
  match (Toml.read? text).bind fun entries => ofToml? (.table .header entries) with
  | none => .error .malformed
  | some config =>
    let issues := config.issues disk
    if issues.isEmpty then .ok config else .error (.invalid issues)

def ofFile (disk : Disk) (path : PathText) : Except ConfigFault Config :=
  match disk.tree.readText disk.workingDirectory path with
  | .ok text => (ofText disk text).mapError (.inFile path)
  | .error fault => .error (.unreadable path fault)

def ofFileIfAny (disk : Disk) (path : PathText) : Except ConfigFault Config :=
  match ofFile disk path with
  | .error (.unreadable path fault) =>
    if fault.isNotFound then .ok {} else .error (.unreadable path fault)
  | result => result

end Config

end Sections
