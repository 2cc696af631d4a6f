import Sections.Selector

/-!
# Edits

An edit inserts before, replaces or deletes the region that a selector addresses.  Applied to a
text, it splices at the span of that region.
-/

namespace Sections

inductive EditOp where
  | insert
  | replace
  | delete
  deriving DecidableEq, Repr, Inhabited

namespace EditOp

def name : EditOp → String
  | insert => "insert"
  | replace => "replace"
  | delete => "delete"

def read (input : String) : Except DocError EditOp :=
  if input = "insert" then .ok insert
  else if input = "replace" then .ok replace
  else if input = "delete" then .ok delete
  else .error (.invalidEdit (.unknownOperation input))

def checkPayload (op : EditOp) (text : Option String) : Except DocError Unit :=
  match op, text with
  | delete, some _ => .error (.invalidEdit .deleteWithText)
  | insert, none => .error (.invalidEdit .insertWithoutText)
  | replace, none => .error (.invalidEdit .replaceWithoutText)
  | _, _ => .ok ()

end EditOp

structure DocEdit where
  op : EditOp
  selector : Selector
  text : Option String := none
  deriving DecidableEq, Repr

structure SpanEdit where
  op : EditOp
  span : Span
  text : Option String
  deriving DecidableEq, Repr

namespace SpanEdit

def replacement (edit : SpanEdit) (spanned : List Char) : List Char :=
  match edit.op with
  | .delete => []
  | .insert => (edit.text.getD "").toList ++ spanned
  | .replace => (edit.text.getD "").toList

/-- The whole text with the edit made.  The payload is checked before the span. -/
def applyTo (edit : SpanEdit) (content : String) : Except DocError String := do
  edit.op.checkPayload edit.text
  match edit.span.split? content with
  | some (front, spanned, back) =>
    return String.ofList (front ++ edit.replacement spanned ++ back)
  | none => throw (.rangeOutOfBounds edit.span.start edit.span.stop content.utf8ByteSize)

end SpanEdit

end Sections
