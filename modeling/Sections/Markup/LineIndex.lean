import Sections.Markup.Tree
import Sections.Span

/-!
# Lines and byte offsets

The table of line starts of a text turns positions into byte offsets.
-/

namespace Sections

def wordSize : Nat := Nat.pow 2 64

def laterLineStarts (offset : Nat) : List Char → List Nat
  | [] => []
  | c :: cs =>
    let next := offset + c.utf8Size
    if c = '\n' then next :: laterLineStarts next cs else laterLineStarts next cs

structure LineIndex where
  lineStarts : List Nat
  length : Nat
  deriving DecidableEq, Repr

namespace LineIndex

def ofText (text : String) : LineIndex :=
  ⟨0 :: laterLineStarts 0 text.toList, text.utf8ByteSize⟩

/--
Byte offset of a position, at most the length of the text.  Line and column zero count as
one.  There is none if the column, added to the start of the line, leaves the machine word.
-/
def offset? (lines : LineIndex) (location : Location) : Option Nat :=
  match lines.lineStarts[location.line - 1]? with
  | some start =>
    let sum := start + (location.column - 1)
    if sum < wordSize then some (min sum lines.length) else none
  | none => some lines.length

/--
The offset where there is one, and the end of the text elsewhere, so that a walk over positions
is total.  What is run asks for `offset?` first.
-/
def offset (lines : LineIndex) (location : Location) : Nat :=
  (lines.offset? location).getD lines.length

def span? (lines : LineIndex) (range : SourceRange) : Option Span := do
  let start ← lines.offset? range.start
  let stop ← lines.offset? range.stop
  return ⟨start, max stop start⟩

def span (lines : LineIndex) (range : SourceRange) : Span :=
  let start := lines.offset range.start
  ⟨start, max (lines.offset range.stop) start⟩

end LineIndex

end Sections
