import Sections.Markup.Parse.Reduce

/-!
# Recovery

Where a token does not fit, three remedies are tried: to supply a token that the text lacks, to go
back to a state in which the token fits, and to skip the token.  What is skipped becomes a misfit.
-/

namespace Sections

namespace Readings

def tokenOrder : List Nat := Lexeme.all.map Lexeme.code ++ BlockToken.all.map BlockToken.code

def options (rs : Readings) (state : Nat) (token? : Option Nat) : List Reduction × Bool :=
  if state = Automaton.errorState then ([], true)
  else
    let actions :=
      ((token?.map fun token => [token]).getD tokenOrder).map (rs.automaton.actions state)
    let reductions := (actions.flatMap TokenActions.reductions).filter fun reduction =>
      0 < reduction.count
    (reductions.foldl (fun found reduction =>
        if found.any fun other =>
          other.symbol == reduction.symbol && other.count == reduction.count then found
        else found ++ [reduction]) [],
      actions.any fun actions => actions.shift?.isSome)

/--
Makes all reductions of the readings from `number` on that a token allows, with `first`
the first one of those that this has added.  Unless any token will do, gives up the
readings that cannot read the token then.  Also tells whether some can.
-/
def reduceFor (token? : Option Nat) (first start : Nat) (fuel number : Nat) (able : Bool)
    (rs : Readings) : Bool × Readings :=
  match fuel with
  | 0 => (able, rs)
  | fuel + 1 =>
    let size := rs.size
    if size ≤ number then (able, rs)
    else
      match rs.agreeing? number first none with
      | some earlier => reduceFor token? first start fuel number able (rs.join earlier number)
      | none =>
        let (reductions, reads) := rs.options (rs.state number) token?
        let (rs, added?) := reductions.foldl (fun (rs, _) reduction =>
          let last := rs.size
          let rs : Readings := rs.reduce number reduction
          (rs, if last < rs.size then some last else none)) (rs, (none : Option Nat))
        let next := if number = start then size else number + 1
        match reads, added? with
        | true, _ => reduceFor token? first start fuel next true rs
        | false, some added =>
          reduceFor token? first start fuel number able (rs.replace number added)
        | false, none =>
          reduceFor token? first start fuel next able
            (if token?.isSome then rs.remove number else rs)

def searchLimit : Nat := 10000

def reduceBefore (rs : Readings) (number : Nat) (token? : Option Nat) : Bool × Readings :=
  let token? := token?.filter (· != rs.automaton.grammar.textEnd)
  reduceFor token? rs.size number searchLimit number false rs

def supplyOne (rs : Readings) (number code : Nat) : List Nat → Option Readings
  | [] => none
  | lacking :: others =>
    let state := rs.state number
    let after := rs.after state lacking
    if after = Automaton.errorState || after = state ||
      (rs.automaton.actions after code).reductions.isEmpty then
      supplyOne rs number code others
    else
      let spot := rs.spot number
      let copy := { rs.reading number with ancestors := [] }
      let supplied := rs.add copy [.missing lacking (rs.isVisible lacking) spot] after
      match supplied.reduceBefore rs.size (some code) with
      | (true, supplied) => some supplied
      | (false, supplied) => supplyOne supplied number code others

/--
Marks that the readings with the given numbers went wrong.  For the first of them that can
do with a supplied token, a reading with that token is added.
-/
def breakAll (rs : Readings) (code? : Option Nat) : List Nat → Readings
  | [] => rs
  | number :: rest =>
    match code?.bind fun code => rs.supplyOne number code tokenOrder with
    | some rs => breakAll (rs.pushBreak number) none rest
    | none => breakAll (rs.pushBreak number) code? rest

def goBack (rs : Readings) (number depth state : Nat) : Readings :=
  (rs.stack.bases (rs.reading number).vertex depth).foldl (fun rs base =>
    let under := rs.stack.vertex base.vertex
    if under.state ≠ state then rs
    else
      let trees := base.contents.headD []
      let isMisfit : Link → Bool := fun link => link.tree?.any fun tree => tree.label == .misfit
      let (vertex, trees) :=
        match under.links.find? isMisfit with
        | some ⟨below, some misfit⟩ => (below, misfit.parts ++ trees)
        | _ => (base.vertex, trees)
      let (parts, extras) := SyntaxTree.splitExtras trees
      let misfit :=
        if parts.isEmpty then [] else [(SyntaxTree.node .misfit true [] under.spot parts).asExtra]
      let reading := rs.reading number
      rs.add { vertex, firm := reading.firm, line? := reading.line? } (misfit ++ extras) state) rs

def goBackFirst (rs : Readings) (number code : Nat) : List Stack.Ancestor → Readings
  | [] => rs
  | ancestor :: others =>
    let reading := rs.reading number
    let spot := rs.spot number
    let taken := rs.readings.any fun other =>
      let top := rs.stack.top other
      top.state == ancestor.state && top.spot.index == spot.index
    if ancestor.state = Automaton.errorState || ancestor.spot.index = spot.index || taken then
      goBackFirst rs number code others
    else
      let depth := ancestor.depth + if 0 < rs.stack.piecesSince reading then 1 else 0
      let cost := rs.stack.cost reading + SyntaxTree.pieceCost * depth
        + SyntaxTree.byteCost * ancestor.spot.bytesTo spot +
          SyntaxTree.lineCost * ancestor.spot.linesTo spot
      if rs.isBeaten number cost then rs
      else if !rs.automaton.expects ancestor.state code then goBackFirst rs number code others
      else
        let size := rs.size
        let after := rs.goBack number depth ancestor.state
        if size < after.size then after else goBackFirst after number code others

def readingLimit : Nat := 6

def skip (rs : Readings) (number : Nat) (token : SyntaxTree) : Readings :=
  let reading := rs.reading number
  let skipped := SyntaxTree.node .skipped false [] token.piece.start [token]
  let (vertex, skipped) :=
    if 0 < rs.stack.piecesSince reading then
      match rs.stack.bases reading.vertex 1 with
      | base :: _ =>
        (base.vertex, .node .skipped false [] token.piece.start
          (base.contents.headD [] ++ [skipped]))
      | [] => (reading.vertex, skipped)
    else (reading.vertex, skipped)
  let rs : Readings := rs.modify number fun reading => { reading with vertex }
  (rs.push number skipped Automaton.errorState).modify number fun reading =>
    { reading with line? := token.piece.line? <|> reading.line? }

def recover (rs : Readings) (number : Nat) (token : SyntaxTree) : Readings :=
  let rs := rs.settle
  let size := rs.size
  let cost := rs.stack.cost (rs.reading number)
  let rs : Readings :=
    match token.label with
    | .symbol code => rs.goBackFirst number code (rs.reading number).ancestors
    | _ => rs
  let wentBack : Bool := size < rs.size
  if token.label = .symbol rs.automaton.grammar.textEnd then
    let spot := rs.spot number
    (rs.push number (.node .misfit true [] spot []) Automaton.startState).accept number token
  else
    let piece := token.piece
    let cost := cost + SyntaxTree.pieceCost + SyntaxTree.byteCost * piece.before.bytesTo piece.stop
      + SyntaxTree.lineCost * piece.before.linesTo piece.stop
    if wentBack && (readingLimit < rs.size || piece.changesLine) || rs.isBeaten number cost then
      rs.finish number
    else rs.skip number token

def mend (rs : Readings) (number : Nat) (token : SyntaxTree) : Readings :=
  let first := rs.size
  let (_, rs) := rs.reduceBefore number none
  let count := rs.size - first
  let code? := match token.label with
    | .symbol code => some code
    | _ => none
  let rs := rs.breakAll code? (number :: (List.range count).map (first + ·))
  let rs : Readings := (List.range count).foldl (fun rs _ => rs.join number first) rs
  let ancestors := rs.stack.ancestors (rs.reading number).vertex
  (rs.modify number fun reading => { reading with ancestors }).recover number token

end Readings

end Sections
