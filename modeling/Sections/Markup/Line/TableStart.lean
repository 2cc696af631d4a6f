import Sections.Markup.Line.Reader

/-!
# How tables start

A table starts where a line of cells is followed, in the same containers, by a delimiter row with as
many cells.
-/

namespace Sections

namespace LineReader

/--
Whether a character after a backslash in a table counts as punctuation; only its low byte
is looked at.
-/
def isEscapedInTable (c : Char) : Bool := isPunctuation (Char.ofNat (c.toNat % 256))

def headerCells? (row : List Char) : Option Nat :=
  let (bars, ended) := count (if row.head? = some '|' then row.tail else row) 0 false
  if bars = 0 then none else some (if ended then bars else bars + 1)
where
  count : List Char → Nat → Bool → Nat × Bool
    | [], bars, ended => (bars, ended)
    | '|' :: cs, bars, _ => count cs (bars + 1) true
    | '\\' :: c :: cs, bars, _ =>
      if isEscapedInTable c then count cs bars false else count (c :: cs) bars false
    | c :: cs, bars, ended => count cs bars (ended && isIndent c)

def delimiterCells? (reader : LineReader) : Option (Nat × LineReader) :=
  go (reader.rest.length + 1) 0 (if reader.peek? = some '|' then reader.advance else reader)
where
  go : Nat → Nat → LineReader → Option (Nat × LineReader)
    | 0, _, _ => none
    | fuel + 1, cells, reader =>
      let reader := reader.skipIndent
      if reader.peek? = some '|' then go fuel (cells + 1) reader.advance
      else
        let left := reader.peek? = some ':'
        let reader := if left then reader.advance else reader
        let dashed := reader.peek? = some '-'
        let reader := (reader.skipWhile (· == '-')).2
        let right := reader.peek? = some ':'
        let reader := if right then reader.advance else reader
        if (left ∨ right) ∧ !dashed then none
        else
          let cells := if dashed then cells + 1 else cells
          let reader := reader.skipIndent
          if reader.peek? = some '|' then go fuel (if dashed then cells else cells + 1)
            reader.advance
          else if reader.atLineEnd then some (cells, reader)
          else none

def tableStart? (reader : LineReader) : Option Found := do
  let line := reader.rest.takeWhile fun c => !isLineEnd c
  let cells ← headerCells? line
  let ending := (reader.skipWhile fun c => !isLineEnd c).2
  if !ending.atLineEnd then none
  else
    let next := { ending.skipLineEnd with indentation := 0, tab := 0 }.indent
    let (count, next) := next.matchRun reader.containers.toList
    let (delimiters, after) ← next.delimiterCells?
    if count = reader.containers.size ∧ delimiters = cells then
      some { after.found .tableStart with stop := reader.position }
    else none

end LineReader

end Sections
