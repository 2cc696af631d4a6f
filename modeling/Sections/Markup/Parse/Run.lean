import Sections.Markup.Parse.Recovery

/-!
# Reading a whole text

The readings take turns until one of them has read the whole text and no other one can be better.
-/

namespace Sections

namespace Readings

def take (fuel : Nat) (rs : Readings) (number : Nat) (token : SyntaxTree) : Readings :=
  match fuel with
  | 0 => rs
  | fuel + 1 =>
    let stuck (rs : Readings) : Readings :=
      let pieces := (rs.top number).pieces
      rs.modify number fun reading => { reading with status := .stuck token, firm := pieces }
    match token.label with
    | .symbol code =>
      let state := rs.state number
      if state = Automaton.errorState then rs.recover number token
      else
        let actions := rs.automaton.actions state code
        let (rs, added?) := rs.reduceAll number actions.reductions
        match actions.shift?, added? with
        | some next, _ =>
          (rs.push number token next).modify number fun reading =>
            { reading with line? := token.piece.line? <|> reading.line? }
        | none, some added =>
          if actions.accepts then rs.accept number token
          else take fuel (rs.replace number added) number token
        | none, none =>
          if actions.accepts then rs.accept number token
          else if actions.reductions.isEmpty then stuck rs
          else rs.finish number
    | _ => stuck rs

def advance (rs : Readings) (number : Nat) : Readings :=
  rs.take (rs.stack.next + 1) number (rs.nextToken (rs.reading number))

def advanceAll (fuel number front : Nat) (rs : Readings) : Nat × Readings :=
  match fuel with
  | 0 => (front, rs)
  | fuel + 1 =>
    if rs.size ≤ number then (front, rs)
    else if !(rs.reading number).isActive then advanceAll fuel (number + 1) front rs
    else
      let rs := rs.advance number
      let place := (rs.spot number).index
      if front < place || (0 < number && place == front) then advanceAll fuel (number + 1) place rs
      else advanceAll fuel number front rs

/--
Ranks a reading among better ones, given how it stands; it may be dropped or joined to
another one, or make others drop.
-/
def rank (standing : Standing) (reading : Reading) (stack : Stack) :
    List Reading → List Reading × Stack
  | [] => ([reading], stack)
  | other :: rest =>
    match (stack.standing other).compare standing with
    | .first => (other :: rest, stack)
    | .second => rank standing reading stack rest
    | preference =>
      if stack.agree other reading then
        let (joined, stack) := stack.join other reading
        (joined :: rest, stack)
      else if preference = .ratherSecond then
        let (ranked, stack) := rank standing other stack rest
        (reading :: ranked, stack)
      else
        let (ranked, stack) := rank standing reading stack rest
        (other :: ranked, stack)

def rankAll (rs : Readings) : Option Nat × Readings :=
  let ⟨automaton, source, stack, readings, finished?⟩ := rs.settle
  let going := readings.toList.filter fun reading => !reading.isEnded
  let (least?, ranked, stack) := going.foldl (fun (least?, ranked, stack) reading =>
    let standing := Stack.standing stack reading
    let least? :=
      if standing.isLost then least? else some ((least?.map (min standing.cost)).getD standing.cost)
    let (ranked, stack) := rank standing reading stack ranked
    (least?, ranked, stack)) ((none : Option Nat), ([] : List Reading), stack)
  (least?, { automaton, source, finished?, stack, readings := (ranked.take readingLimit).toArray })

/--
Ranks all readings.  If even the best one is stuck, it is mended; other ones that are
stuck are given up.  Also gives the least cost of a reading.
-/
def condense (rs : Readings) : Option Nat × Readings :=
  let (least?, rs) := rs.rankAll
  let (least?, rs) : Option Nat × Readings :=
    match (rs.reading 0).status with
    | .stuck token =>
      let least := rs.stack.cost (rs.reading 0)
      (some least, (rs.modify 0 fun reading => { reading with status := .active }).mend 0 token)
    | _ => (least?, rs)
  (least?, { rs with readings := rs.readings.filter fun reading => !reading.isStuck })

def run (fuel front : Nat) (rs : Readings) : Option SyntaxTree :=
  match fuel with
  | 0 => rs.finished?
  | fuel + 1 =>
    let (front, rs) := advanceAll (fuel + 1) 0 front rs
    let gone := rs.readings.isEmpty
    let (least?, rs) := rs.condense
    if gone || rs.finished?.any fun tree => least?.all (tree.cost < ·) then rs.finished?
    else run fuel front rs

end Readings

def stepLimit : Nat := 1000

def SyntaxTree.ofSource? (automaton : Automaton) (source : Source) : Option SyntaxTree :=
  (Readings.ofSource automaton source).run (stepLimit * (source.size + 1)) 0

end Sections
