import Sections.Markup.Line.Start

/-!
# Finding block tokens

At a place of a text at most one block token is found; which one depends on the state of the line
and on what is expected there.  A line ending finishes a line for good, or it is soft: the paragraph
or table goes on in the next line.  It is soft when nothing that may interrupt a paragraph starts
there.
-/

namespace Sections

namespace LineReader

/--
Goes on matching the open containers against the current line.  A container that ends with
this line is not matched.  Gives the token that this yields, or the reader if it yields
none.
-/
def resume (reader : LineReader) : Found ⊕ LineReader :=
  let due := reader.containers.toList.drop reader.matched
  let held := reader.closing && !due.isEmpty
  let (count, after) := reader.matchRun (if held then due.dropLast else due)
  let stopped := decide (count < if held then due.length - 1 else due.length)
  let after := { after with
    matched := reader.matched + count
    matching := !(stopped && reader.lenient)
    closing := reader.closing && !(held && !stopped && count == 0) }
  let settled : LineReader → LineReader := fun reader =>
    { reader with matching := reader.matching && !reader.allMatched }
  if 0 < count then .inl ((settled after).found .continuation)
  else if reader.lenient then .inr after
  else .inl ((settled after.pop).found .containerEnd)

/--
Looks for a block token other than a line ending.  Where none is found for want of an
expected one, gives the reader from which a line ending may be looked for.
-/
def findInLine (expected : Expected) (reader : LineReader) : Option Found ⊕ LineReader :=
  if expected.contains .failureRequest then .inl (some (reader.found .failure))
  else if expected.contains .closeRequest then
    .inl (some ({ reader with closing := true }.found .closeRequest))
  else if reader.atEnd then
    .inl <|
      if expected.contains .textEnd then some (reader.found .textEnd)
      else if reader.containers.isEmpty then none
      else some ((if reader.tentative then reader else reader.pop).found .containerEnd)
  else if reader.matching then
    match reader.resume with
    | .inl found => .inl (some found)
    | .inr after => .inr after
  else
    let reader := reader.indent
    if expected.contains .chunkStart ∧ !expected.contains .noChunk ∧ 4 ≤ reader.indentation
        ∧ !reader.atLineEnd then
      .inl <|
        if reader.isFull then none
        else some (({ reader with indentation := reader.indentation - 4 }.push .indentedCode).found
          .chunkStart)
    else if !reader.atLineEnd then .inl (reader.blockStart? expected)
    else if expected.contains .blankLine then .inl (some (reader.found .blankLine))
    else .inr reader

def interruption? (reader : LineReader) : Option LineState :=
  match reader.findInLine .interrupting with
  | .inl (some found) => some found.line
  | _ => none

def lineEnding? (expected : Expected) (reader : LineReader) : Option Found :=
  let continues := expected.containsAny [.softLineEnding, .tableLineEnding]
  if !reader.atLineEnd || !(continues || expected.contains .lineEnding) then none
  else
    let line : LineReader := { reader.skipLineEnd with indentation := 0, tab := 0 }
    let hard (state : LineState) : Option Found :=
      if expected.contains .lineEnding then
        let state :=
          { state with matched := 0, matching := !state.containers.isEmpty, lenient := false }
        some ⟨.lineEnding, line.position, state⟩
      else none
    if line.closing || !continues then hard line.toLineState
    else
      let (count, next) := { line with tentative := true }.indent.matchRun line.containers.toList
      let next : LineReader := { next with matched := count }
      match if next.atEnd then some next.toLineState else next.interruption? with
      | some state => hard { state with indentation := 0, tab := 0 }
      | none =>
        let state := { next.toLineState with
          matched := 0, matching := decide (0 < count), indentation := 0, tab := 0 }
        if expected.contains .tableLineEnding then
          if count = line.containers.size then some ⟨.tableLineEnding, line.position, state⟩
          else hard state
        else some ⟨.softLineEnding, line.position, { state with lenient := true }⟩

def find? (expected : Expected) (reader : LineReader) : Option Found :=
  match reader.findInLine expected with
  | .inl found? => found?
  | .inr reader => reader.lineEnding? expected

end LineReader

end Sections
