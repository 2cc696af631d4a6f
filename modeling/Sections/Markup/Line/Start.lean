import Sections.Markup.Line.Html
import Sections.Markup.Line.TableStart

/-!
# How blocks start

The first character of a line, after its indentation, decides which blocks it can start.
-/

namespace Sections

namespace LineReader

structure Run where
  count : Nat := 0
  gap : UInt8 := 0
  second : Nat := 0
  spread : Bool := false
  after : LineReader

def run (mark : Char) (reader : LineReader) : Run :=
  go reader.rest false { after := reader }
where
  finish (run : Run) : Run :=
    if run.count ≤ 1 then { run with second := run.after.position } else run
  go : List Char → Bool → Run → Run
    | [], _, run => finish run
    | c :: cs, indented, run =>
      if c = mark then
        go cs indented
          { run with
            count := run.count + 1
            second := if run.count = 1 then run.after.position else run.second
            spread := indented
            after := run.after.advance }
      else if isIndent c then
        go cs true
          { run with
            gap := if run.count = 1 then run.gap + run.after.width.toUInt8 else run.gap
            after := run.after.advance }
      else finish run

/--
Opens a list item.  The content is indented as far as it is after the marker, unless that
is so far that it starts with indented code.
-/
def openItem (markerWidth : Nat) (gap : UInt8) (reader : LineReader) : LineReader :=
  let extra := gap - 1
  let (inner, left) :=
    if extra ≤ 3 then (extra + reader.indentation, 0) else (reader.indentation, extra)
  { reader with indentation := left }.push (.ofColumns (inner.toNat + markerWidth + 1))

def listMarker? (expected : Expected) (marker : ListMarker) (weak : Bool) (markerWidth : Nat)
    (gap : UInt8) (stop : Nat) (reader : LineReader) : Option Found :=
  let token := BlockToken.listMarker marker weak
  if 1 ≤ gap ∧ expected.contains token ∧ !reader.isFull then
    some { (reader.openItem markerWidth gap).found token with stop }
  else none

def foundBreak (reader : LineReader) : Found :=
  { reader with indentation := 0 }.found .thematicBreak

def starStart? (expected : Expected) (reader : LineReader) : Option Found :=
  let run := reader.run '*'
  let empty := run.count = 1 ∧ run.after.atLineEnd
  if expected.contains .thematicBreak ∧ 3 ≤ run.count ∧ run.after.atLineEnd ∧
    reader.indentation < 4 then
    some run.after.foundBreak
  else
    run.after.listMarker? expected .star (empty && reader.allMatched) 1
      (if empty then 1 else run.gap)
      run.second

def underscoreStart? (expected : Expected) (reader : LineReader) : Option Found :=
  let run := reader.run '_'
  if 3 ≤ run.count ∧ run.after.atLineEnd ∧ expected.contains .thematicBreak then
    some run.after.foundBreak
  else none

def metadataEnd (mark : Char) (fuel : Nat) (reader : LineReader) : Bool × LineReader :=
  match fuel with
  | 0 => (false, reader)
  | fuel + 1 =>
    let start := reader.skipLineEnd
    let marks := (start.skipWhile (· == mark)).2
    let after := if marks.position = start.position + 3 then marks.skipIndent else marks
    if marks.position = start.position + 3 ∧ after.atLineEnd then (true, after.skipLineEnd)
    else
      let line := (after.skipWhile fun c => !isLineEnd c).2
      if line.atEnd then (false, line) else metadataEnd mark fuel line

def minusStart? (expected : Expected) (reader : LineReader) : Option Found :=
  let run := reader.run '-'
  let ended := run.after.atLineEnd
  let empty := run.count = 1 ∧ ended
  let solid : Option Found :=
    if expected.contains (.underline 2) ∧ !run.spread ∧ ended ∧ reader.allMatched then
      some ({ run.after with indentation := 0 }.found (.underline 2))
    else if expected.contains .thematicBreak ∧ 3 ≤ run.count ∧ ended then some run.after.foundBreak
    else none
  let item : Option Found :=
    if solid.isSome then none
    else
      run.after.listMarker? expected .minus (empty && reader.allMatched) 1
        (if empty then 1 else run.gap)
        run.second
  if 3 < reader.indentation then none
  else if item.isSome then item
  else if run.count = 3 ∧ !run.spread ∧ ended ∧ expected.contains (.metadata .minus) then
    let (closed, last) := run.after.metadataEnd '-' (run.after.rest.length + 1)
    if closed then
      let indentation := (solid.map fun found => found.line.indentation).getD reader.indentation
      some ({ last with indentation }.found (.metadata .minus))
    else solid.map fun found => { found with line := { found.line with tab := last.tab } }
  else solid

def plusStart? (expected : Expected) (reader : LineReader) : Option Found :=
  let metadata := expected.contains (.metadata .plus)
  if 3 < reader.indentation then none
  else if metadata ∧ reader.advance.peek? = some '+' then
    let (whole, marks) := reader.skipText ['+', '+', '+']
    let after := marks.skipIndent
    if whole ∧ after.atLineEnd then
      let (closed, last) := after.metadataEnd '+' (after.rest.length + 1)
      if closed then some (last.found (.metadata .plus)) else none
    else none
  else
    let (columns, after) := reader.advance.skipWhile isIndent
    let empty := after.atLineEnd
    after.listMarker? expected .plus (empty && reader.allMatched) 1
      (if empty then 1 else columns.toUInt8) after.position

/--
A number of up to nine digits with a dot or a parenthesis.  A number of several digits is
weak.
-/
def numberStart? (expected : Expected) (reader : LineReader) : Option Found :=
  let (digits, after) := reader.skipWhile Char.isDigit
  let marker? : Option ListMarker :=
    match after.peek? with
    | some '.' => some .dot
    | some ')' => some .parenthesis
    | _ => none
  if 3 < reader.indentation ∨ 9 < digits then none
  else marker?.bind fun marker =>
    let (columns, after) := after.advance.skipWhile isIndent
    let empty := after.atLineEnd
    after.listMarker? expected marker ((decide (1 < digits) || empty) && reader.allMatched)
      (digits + 1)
      (if empty then 1 else columns.toUInt8) after.position

def quoteStart? (expected : Expected) (reader : LineReader) : Option Found :=
  if expected.contains .quoteStart ∧ !reader.isFull then
    some ((reader.skipQuoteMark.push .quote).found .quoteStart)
  else none

def headingStart? (expected : Expected) (reader : LineReader) : Option Found :=
  let (level, after) := reader.skipWhile (· == '#')
  if expected.contains (.heading 1) ∧ reader.indentation ≤ 3 ∧ level ≤ 6
      ∧ (after.atIndent ∨ after.atLineEnd) then
    some ({ after with indentation := 0 }.found (.heading level))
  else none

def underlineStart? (expected : Expected) (reader : LineReader) : Option Found :=
  let after := (reader.skipWhile (· == '=')).2.skipIndent
  if expected.contains (.underline 1) ∧ reader.allMatched ∧ after.atLineEnd then
    some (after.found (.underline 1))
  else none

/--
A fence.  It closes a block where one is open with no longer a fence, and opens one if it
has at least three marks; the text after backticks must be free of them.
-/
def fenceStart? (mark : FenceMark) (expected : Expected) (reader : LineReader) : Option Found :=
  let char := match mark with
    | .backtick => '`'
    | .tilde => '~'
  let (length, marks) := reader.skipWhile (· == char)
  let length := length.toUInt8
  let ends := expected.contains (.fenceEnd mark) && decide (reader.indentation < 4)
    && decide (reader.fence ≤ length)
  let blank := if ends then marks.skipIndent else marks
  if ends ∧ blank.atLineEnd then
    some { ({ blank with fence := 0 }).found (.fenceEnd mark) with stop := marks.position }
  else if expected.contains (.fenceStart mark) ∧ 3 ≤ length then
    let info := blank.rest.takeWhile fun c => !isLineEnd c
    let after := if mark = .backtick then (blank.skipWhile fun c => !isLineEnd c).2 else blank
    if (mark = .backtick ∧ info.contains '`') ∨ reader.isFull then none
    else
      let opened := { after with fence := length, indentation := 0 }.push .fencedCode
      some { opened.found (.fenceStart mark) with stop := marks.position }
  else none

def blockStart? (expected : Expected) (reader : LineReader) : Option Found :=
  match reader.peek? with
  | none => none
  | some c =>
    if c = '`' then reader.fenceStart? .backtick expected
    else if c = '~' then reader.fenceStart? .tilde expected
    else if c = '*' then reader.starStart? expected
    else if c = '_' then reader.underscoreStart? expected
    else if c = '>' then reader.quoteStart? expected
    else if c = '#' then reader.headingStart? expected
    else if c = '=' then reader.underlineStart? expected
    else if c = '+' then reader.plusStart? expected
    else if c.isDigit then reader.numberStart? expected
    else if c = '-' then reader.minusStart? expected
    else if c = '<' then reader.htmlStart? expected
    else if expected.contains .tableStart then reader.tableStart?
    else none

end LineReader

end Sections
