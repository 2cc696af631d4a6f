import Sections.Index
import Sections.Json.Reader
import Sections.Json.Record
import Sections.Outcome

/-!
# Wire formats

The JSON forms of selectors, edits and outcomes.  Options of a selector and the text of an edit are
left out where there are none; the texts of a change are null instead.
-/

namespace Sections

open Json

def SlugPath.toJson (path : SlugPath) : Json := .array (path.segments.map .ofText)

def SlugPath.ofJson? (value : Json) : Option SlugPath := (items? text? value).map SlugPath.mk

def Span.toJson (span : Span) : Json :=
  .ofMembers [("start", .ofNat span.start), ("end", .ofNat span.stop)]

def Span.ofJson? (value : Json) : Option Span :=
  match value.fields? [⟨"start", .never⟩, ⟨"end", .never⟩] with
  | some [some start, some stop] => do return ⟨← word? start, ← word? stop⟩
  | _ => none

def Revision.toJson (revision : Revision) : Json := .ofText revision.token

def Revision.ofJson? (value : Json) : Option Revision := (text? value).map Revision.mk

def Selector.toJson (selector : Selector) : Json :=
  .ofMembers (("path", selector.path.toJson)
    :: memberIfSome "field" .ofText selector.field
    ++ memberIfSome "range" Span.toJson selector.range)

def Selector.ofJson? (value : Json) : Option Selector :=
  match value.fields? [⟨"path", .never⟩, ⟨"field", .everywhere⟩, ⟨"range", .everywhere⟩] with
  | some [some path, field, range] => do
    return ⟨← SlugPath.ofJson? path, ← optional? text? field, ← optional? Span.ofJson? range⟩
  | _ => none

def EditOp.toJson (op : EditOp) : Json := .ofText op.name

/--
An operation is given by its name, or as an object whose only member has that name and is
null.
-/
def EditOp.ofJson? : Json → Option EditOp
  | .string (some name) | .object [(some name, .null)] => (EditOp.read name).toOption
  | _ => none

def DocEdit.toJson (edit : DocEdit) : Json :=
  .ofMembers ([("op", edit.op.toJson), ("selector", edit.selector.toJson)]
    ++ memberIfSome "text" .ofText edit.text)

def DocEdit.ofJson? (value : Json) : Option DocEdit :=
  match value.fields? [⟨"op", .never⟩, ⟨"selector", .never⟩, ⟨"text", .everywhere⟩] with
  | some [some op, some selector, text] => do
    return ⟨← EditOp.ofJson? op, ← Selector.ofJson? selector, ← optional? text? text⟩
  | _ => none

def Slice.toJson (slice : Slice) : Json :=
  .ofMembers [("text", .ofText slice.text), ("span", slice.span.toJson),
    ("revision", slice.revision.toJson)]

def Slice.ofJson? (value : Json) : Option Slice :=
  match value.fields? [⟨"text", .never⟩, ⟨"span", .never⟩, ⟨"revision", .never⟩] with
  | some [some text, some span, some revision] => do
    return ⟨← text? text, ← Span.ofJson? span, ← Revision.ofJson? revision⟩
  | _ => none

def Change.toJson (change : Change) : Json :=
  .ofMembers [("selector", change.selector.toJson), ("action", change.action.toJson),
    ("old_text", ofOption .ofText change.oldText), ("new_text", ofOption .ofText change.newText)]

def Change.ofJson? (value : Json) : Option Change :=
  match value.fields? [⟨"selector", .never⟩, ⟨"action", .never⟩, ⟨"old_text", .inObjects⟩,
      ⟨"new_text", .inObjects⟩] with
  | some [some selector, some action, oldText, newText] => do
    return ⟨← Selector.ofJson? selector, ← EditOp.ofJson? action, ← optional? text? oldText,
      ← optional? text? newText⟩
  | _ => none

def Envelope.toJson (envelope : Envelope) : Json :=
  .ofMembers [("doc_id", .ofText envelope.id), ("base_revision", envelope.baseRevision.toJson),
    ("new_revision", envelope.newRevision.toJson),
    ("changes", .array (envelope.changes.map Change.toJson)),
    ("patch", .ofText envelope.patch)]

def Envelope.ofJson? (value : Json) : Option Envelope :=
  match value.fields? [⟨"doc_id", .never⟩, ⟨"base_revision", .never⟩, ⟨"new_revision", .never⟩,
      ⟨"changes", .never⟩, ⟨"patch", .never⟩] with
  | some [some id, some base, some new, some changes, some patch] => do
    return ⟨← text? id, ← Revision.ofJson? base, ← Revision.ofJson? new,
      ← items? Change.ofJson? changes,
      ← text? patch⟩
  | _ => none

def IndexOptions.ofJson? (value : Json) : Option IndexOptions :=
  let flag (value : Option Json) : Option Bool := value.elim (some false) bool?
  match value.fields? [⟨"paragraphs", .everywhere⟩, ⟨"list_items", .everywhere⟩,
      ⟨"block_quotes", .everywhere⟩] with
  | some [paragraphs, listItems, blockQuotes] => do
    return ⟨← flag paragraphs, ← flag listItems, ← flag blockQuotes⟩
  | _ => none

def Index.render (index : Index) : String :=
  (Json.ofMembers <| orderEntries <| index.entries.map fun (path, span) =>
    (path.joined, span.toJson)).compact

end Sections
