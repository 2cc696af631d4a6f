import Sections.Wire

/-!
# Resolution of selectors

A selector stands for the first of these that there is: the code block that its field names, the
section or node at its path, and its explicit range.
-/

namespace Sections

inductive Resolved where
  | listing (text : String)
  | region (span : Span)
  deriving DecidableEq, Repr

/-- The code block directly below the path of a selector whose language is that of the field. -/
def taggedBlock? (index : Index) (selector : Selector) : Option Span := do
  let field ← selector.field
  let tag := slugify field
  if tag = "" then none else index.get? (selector.path.child ("code-" ++ tag))

/--
The region that a selector stands for in a text of `length` bytes.  The path `*` has no
region, only an explicit range beside it has.
-/
def resolveSpan (index : Index) (selector : Selector) (length : Nat) : Except DocError Span :=
  match taggedBlock? index selector with
  | some span => span.checked length
  | none =>
    match index.get? selector.path with
    | some span => span.checked length
    | none =>
      match selector.range with
      | some range => range.checked length
      | none => .error (.selectorMiss selector.path.joined)

def resolve (index : Index) (selector : Selector) (length : Nat) : Except DocError Resolved :=
  if selector.path.isIntrospection then .ok (.listing index.render)
  else (resolveSpan index selector length).map .region

end Sections
