import Sections.Edit

/-!
# Outcomes

What a successful read or edit of a document reports.
-/

namespace Sections

structure Slice where
  text : String
  span : Span
  revision : Revision
  deriving DecidableEq, Repr

structure Change where
  selector : Selector
  action : EditOp
  oldText : Option String
  newText : Option String
  deriving DecidableEq, Repr

structure Envelope where
  id : String
  baseRevision : Revision
  newRevision : Revision
  changes : List Change
  patch : String
  deriving DecidableEq, Repr

end Sections
