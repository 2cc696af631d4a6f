import Sections.Markup.Token

/-!
# Reading a line within containers

Blocks are read line by line.  The state of a line says how much indentation has been counted but
not yet used, and which containers are open.  At the start of a line the open containers are matched
again, from the outermost one on; those that do not match are closed, unless the line only continues
a paragraph.
-/

namespace Sections

inductive Container where
  | indentedCode
  | listItem (columns : Nat)
  | fencedCode
  | quote
  | html
  /-- A list item that is indented too far for any line to continue it. -/
  | unreachable
  deriving DecidableEq, Repr, Hashable

/--
The container of a list item.  The columns of list items end where the other containers
are counted on, so that eighteen columns stand for a fence and nineteen for HTML.
-/
def Container.ofColumns (columns : Nat) : Container :=
  if columns < 18 then .listItem columns
  else if columns = 18 then .fencedCode
  else if columns = 19 then .html
  else .unreachable

def containerLimit : Nat := 254

/-- What is carried from one block token to the next.  Columns and marks are counted modulo 256. -/
structure LineState where
  matching : Bool := false
  lenient : Bool := false
  closing : Bool := false
  matched : Nat := 0
  indentation : UInt8 := 0
  tab : Nat := 0
  fence : UInt8 := 0
  containers : Array Container := #[]
  deriving DecidableEq, Repr, Inhabited

structure LineReader extends LineState where
  rest : List Char
  position : Nat
  tentative : Bool := false
  deriving Repr

structure Found where
  token : BlockToken
  stop : Nat
  line : LineState
  deriving Repr

namespace LineReader

def peek? (reader : LineReader) : Option Char := reader.rest.head?

def atEnd (reader : LineReader) : Bool := reader.rest.isEmpty

def atLineEnd (reader : LineReader) : Bool := reader.peek?.any isLineEnd

def atIndent (reader : LineReader) : Bool := reader.peek?.any isIndent

def width (reader : LineReader) : Nat := if reader.peek? = some '\t' then 4 - reader.tab else 1

def advance (reader : LineReader) : LineReader :=
  match reader.rest with
  | [] => reader
  | c :: rest =>
    { reader with
      rest
      position := reader.position + 1
      tab := if c = '\t' then 0 else (reader.tab + 1) % 4 }

def skipWhile (p : Char → Bool) (reader : LineReader) : Nat × LineReader :=
  go reader.rest reader 0
where
  go : List Char → LineReader → Nat → Nat × LineReader
    | [], reader, columns => (columns, reader)
    | c :: cs, reader, columns =>
      if p c then go cs reader.advance (columns + reader.width) else (columns, reader)

def skipIndent (reader : LineReader) : LineReader := (reader.skipWhile isIndent).2

def skipLineEnd (reader : LineReader) : LineReader :=
  match reader.rest with
  | '\r' :: '\n' :: _ => reader.advance.advance
  | '\r' :: _ | '\n' :: _ => reader.advance
  | _ => reader

def indent (reader : LineReader) : LineReader :=
  let (columns, after) := reader.skipWhile isIndent
  { after with indentation := reader.indentation + columns.toUInt8 }

def indentTo (columns : Nat) (reader : LineReader) : LineReader :=
  go reader.rest reader
where
  go : List Char → LineReader → LineReader
    | [], reader => reader
    | c :: cs, reader =>
      if reader.indentation.toNat < columns ∧ isIndent c then
        go cs { reader.advance with indentation := reader.indentation + reader.width.toUInt8 }
      else reader

def skipQuoteMark (reader : LineReader) : LineReader :=
  let after := { reader.advance with indentation := 0 }
  if after.atIndent then { after.advance with indentation := (after.width - 1).toUInt8 } else after

def isFull (reader : LineReader) : Bool := containerLimit ≤ reader.containers.size

def push (container : Container) (reader : LineReader) : LineReader :=
  if reader.tentative then reader
  else { reader with containers := reader.containers.push container }

def pop (reader : LineReader) : LineReader := { reader with containers := reader.containers.pop }

def allMatched (reader : LineReader) : Bool := reader.matched == reader.containers.size

def found (token : BlockToken) (reader : LineReader) : Found :=
  ⟨token, reader.position, reader.toLineState⟩

/--
Matches one container at the current place.  Indentation that was looked at stays read,
also when the container does not match.
-/
def matchContainer (container : Container) (reader : LineReader) : Bool × LineReader :=
  match container with
  | .fencedCode | .html => (true, reader)
  | .unreachable => (false, reader)
  | .indentedCode =>
    let reader := reader.indentTo 4
    if 4 ≤ reader.indentation ∧ !reader.atLineEnd then
      (true, { reader with indentation := reader.indentation - 4 })
    else (false, reader)
  | .listItem columns =>
    let reader := reader.indentTo columns
    if columns ≤ reader.indentation.toNat then
      (true, { reader with indentation := reader.indentation - columns.toUInt8 })
    else if reader.atLineEnd then (true, { reader with indentation := 0 })
    else (false, reader)
  | .quote =>
    let reader := reader.indent
    if reader.peek? = some '>' then (true, reader.skipQuoteMark) else (false, reader)

def matchRun (reader : LineReader) : List Container → Nat × LineReader
  | [] => (0, reader)
  | container :: rest =>
    match reader.matchContainer container with
    | (true, after) =>
      let (count, after) := matchRun after rest
      (count + 1, after)
    | (false, after) => (0, after)

end LineReader

end Sections
