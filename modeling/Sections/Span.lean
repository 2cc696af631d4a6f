import Sections.Error
import Sections.Text.Bytes

/-!
# Spans

A span is a half-open range of byte offsets into one particular text.
-/

namespace Sections

structure Span where
  start : Nat
  stop : Nat
  deriving DecidableEq, Repr, Inhabited

namespace Span

def length (span : Span) : Nat := span.stop - span.start

def isEmpty (span : Span) : Bool := span.stop ≤ span.start

def validate (span : Span) (length : Nat) : Except DocError Unit :=
  if span.start ≤ span.stop ∧ span.stop ≤ length then .ok ()
  else .error (.rangeOutOfBounds span.start span.stop length)

def checked (span : Span) (length : Nat) : Except DocError Span := do
  span.validate length
  return span

def split? (span : Span) (text : String) : Option (List Char × List Char × List Char) := do
  let (front, rest) ← cutAt span.start text.toList
  if span.start ≤ span.stop then
    let (middle, back) ← cutAt (span.stop - span.start) rest
    return (front, middle, back)
  else none

/-- The spanned part of the text.  Spans out of bounds and spans that split a character fail. -/
def slice (span : Span) (text : String) : Except DocError String :=
  match span.split? text with
  | some (_, middle, _) => .ok (String.ofList middle)
  | none => .error (.rangeOutOfBounds span.start span.stop text.utf8ByteSize)

def render (span : Span) : String := toString span.start ++ ".." ++ toString span.stop

end Span

end Sections
