import Sections.Markup.Lexing
import Sections.Markup.Line.Scan
import Sections.Markup.Parse.Reading

/-!
# The next token of a reading

A block token that fits is read first, then the longest lexeme that fits.  Where nothing fits, every
token is welcome.
-/

namespace Sections

namespace Readings

def hasMoved (rs : Readings) (reading : Reading) : Bool :=
  (rs.stack.top reading).cost == 0 || go rs.stack.next reading.vertex
where
  go (fuel number : Nat) : Bool :=
    match fuel with
    | 0 => false
    | fuel + 1 =>
      let vertex := rs.stack.vertex number
      match vertex.links with
      | ⟨below, some tree⟩ :: _ =>
        !tree.isEmpty || (reading.firm < vertex.pieces && tree.cost == 0 && go fuel below)
      | _ => false

def leaf (rs : Readings) (code before start stop : Nat) : SyntaxTree :=
  .leaf (.symbol code) (rs.isVisible code) (rs.source.spot before) (rs.source.spot start)
    (rs.source.spot stop)

def blockLeaf (rs : Readings) (before start : Nat) (changesLine : Bool) (found : Found) :
    SyntaxTree :=
  match rs.leaf found.token.code before start found.stop with
  | .mk piece parts =>
    .mk { piece with line? := some found.line, changesLine, isExtra := false } parts

def beginning (rs : Readings) (index : Nat) : Nat :=
  if index = 0 && (rs.source.suffix 0).head? = some '\ufeff' then 1 else index

/--
The block token that fits in a state.  One that takes no text and changes nothing is of
use only if the reading has moved on and will be in another state.
-/
def blockToken? (rs : Readings) (reading : Reading) (state index : Nat) : Option SyntaxTree :=
  let start := rs.beginning index
  let expected := rs.automaton.expectedBlocks state
  if expected.isEmpty then none
  else
    let reader : LineReader :=
      { (reading.line?.getD {}) with rest := rs.source.suffix start, position := start }
    (reader.find? expected).bind fun found =>
      let changesLine := reading.line? != some found.line
      if index < found.stop || changesLine
          || (rs.hasMoved reading && rs.after state found.token.code != state) then
        some (rs.blockLeaf index start changesLine found)
      else none

def lexeme? (rs : Readings) (state index : Nat) : Option SyntaxTree :=
  let start := rs.beginning index
  let candidates : List (Nat × Nat) :=
    match rs.source.suffix start with
    | [] => [(rs.automaton.grammar.textEnd, 0)]
    | text => (Lexeme.candidates text).map fun (lexeme, length) => (lexeme.code, length)
  (candidates.find? fun (code, _) => rs.automaton.expects state code).map fun (code, length) =>
    let leaf := rs.leaf code index start (start + length)
    if code = rs.automaton.grammar.textEnd then leaf.asExtra else leaf

/--
The next token where anything is welcome.  The first one of a text fails; after that it is
a lexeme, or a run of characters that no lexeme starts with.
-/
def anyToken (rs : Readings) (reading : Reading) (index : Nat) : SyntaxTree :=
  let start := rs.beginning index
  match reading.line? with
  | none => rs.blockLeaf index start true ⟨.failure, start, {}⟩
  | some _ =>
    match rs.lexeme? Automaton.errorState index with
    | some token => token
    | none =>
      let length := Lexeme.runLength (fun c => isLineEnd c || c == '\x00') (rs.source.suffix start)
      .leaf .misfit true (rs.source.spot index) (rs.source.spot start)
        (rs.source.spot (start + length))

def nextToken (rs : Readings) (reading : Reading) : SyntaxTree :=
  let top := rs.stack.top reading
  let index := top.spot.index
  if top.state = Automaton.errorState then rs.anyToken reading index
  else
    match rs.blockToken? reading top.state index with
    | some token => token
    | none =>
      match rs.lexeme? top.state index with
      | some token => token
      | none => rs.anyToken reading index

end Readings

end Sections
