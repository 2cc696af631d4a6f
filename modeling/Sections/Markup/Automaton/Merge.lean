import Sections.Markup.Automaton.Table

/-!
# Merging states

States with the same items differ in the tokens that may follow them.  They become one state unless
some token allows different things in them, or could not be told from another one.  Where something
does not fit, a merged state may make reductions before that is noticed.
-/

namespace Sections

def Lexeme.opening? : Lexeme → Option Char
  | .checkedBox | .uncheckedBox => some '['
  | .escape => some '\\'
  | .entity | .numericReference => some '&'
  | .commentEnd => some '-'
  | .instructionEnd => some '?'
  | .cdataEnd => some ']'
  | .punctuation _ | .word | .blank => none

/--
For each token, the tokens in whose presence it cannot be added to a state: a block token
never can, and a longer lexeme not where the punctuation that it starts with is expected.
-/
def barriers : Array TokenSet :=
  let lexemes := Lexeme.all.map fun l =>
    match l.opening? with
    | some c => 1 <<< (Lexeme.punctuation c).code
    | none => 0
  let always : TokenSet := (1 <<< (BlockToken.all.length + 1 + Lexeme.all.length)) - 1
  (BlockToken.all.map (fun _ => always) ++ [0] ++ lexemes).toArray

def AutomatonState.admits (state : AutomatonState) (token : Nat) : Bool :=
  state.expected &&& barriers.getD token 0 == 0

structure StateClasses where
  members : Array (List Nat)
  classes : Array Nat

namespace StateClasses

def ofKeys (keys : Array (List Nat)) : StateClasses :=
  (keys.foldl (fun (found, numbers) key =>
    let state := found.classes.size
    match numbers[key]? with
    | some number =>
      (({ members := found.members.modify number (· ++ [state])
          classes := found.classes.push number } : StateClasses), numbers)
    | none =>
      let number := found.members.size
      ({ members := found.members.push [state], classes := found.classes.push number },
        numbers.insert key number))
    (⟨#[], #[]⟩, (∅ : Std.HashMap (List Nat) Nat))).1

def same (partition : StateClasses) (a b : Option Nat) : Bool :=
  match a, b with
  | some a, some b => partition.classes.getD a 0 == partition.classes.getD b 0
  | none, none => true
  | _, _ => false

def splitFrom (differ : StateClasses → Nat → Nat → Bool) (fuel number : Nat)
    (partition : StateClasses) :
    StateClasses :=
  match fuel with
  | 0 => partition
  | fuel + 1 =>
    match partition.members[number]? with
    | none => partition
    | some members =>
      let (kept, others) := members.foldl (fun (kept, others) state =>
        if kept.any fun other => differ partition other state then (kept, others ++ [state])
        else (kept ++ [state], others)) (([] : List Nat), ([] : List Nat))
      let next := partition.members.size
      splitFrom differ fuel (number + 1) <|
        if others.isEmpty then partition
        else
          { members := (partition.members.set! number kept).push others
            classes :=
              others.foldl (fun classes state => classes.set! state next) partition.classes }

def refine (differ : StateClasses → Nat → Nat → Bool) : Nat → StateClasses → StateClasses
  | 0, partition => partition
  | fuel + 1, partition =>
    let next := partition.splitFrom differ partition.classes.size 0
    if next.members.size = partition.members.size then partition else refine differ fuel next

end StateClasses

def TokenActions.differ (partition : StateClasses) (a b : TokenActions) : Bool :=
  a.reductions != b.reductions || a.accepts != b.accepts || !partition.same a.shift? b.shift?

def AutomatonState.conflict (partition : StateClasses) (a b : AutomatonState) : Bool :=
  (List.range a.actions.size).any fun token =>
    let inA := a.expected.testBit token
    let inB := b.expected.testBit token
    if inA && inB then (a.actions.getD token {}).differ partition (b.actions.getD token {})
    else if inA then !b.admits token
    else if inB then !a.admits token
    else false

def AutomatonState.diverge (partition : StateClasses) (a b : AutomatonState) : Bool :=
  let differ (next other : Option Nat) : Bool :=
    next.isSome && other.isSome && !partition.same next other
  (a.actions.zip b.actions).any (fun (actions, others) => differ actions.shift? others.shift?)
    || (a.gotos.zip b.gotos).any fun (next, other) => differ next other

def AutomatonState.merge (a b : AutomatonState) : AutomatonState :=
  { actions :=
      a.actions.zipWith (fun actions others => if actions.isEmpty then others else actions)
        b.actions
    gotos := a.gotos.zipWith (fun next other => next <|> other) b.gotos
    expected := a.expected ||| b.expected
    blocks := a.blocks }

def AutomatonState.renumber (number : Array Nat) (state : AutomatonState) : AutomatonState :=
  let change (next? : Option Nat) : Option Nat := next?.map fun next => number.getD next 0
  { state with
    actions := state.actions.map fun actions => { actions with shift? := change actions.shift? }
    gotos := state.gotos.map change }

def mergeStates (states : Array AutomatonState) (items : Array (List Nat)) : Array AutomatonState :=
  let state (number : Nat) : AutomatonState := states.getD number default
  let compatible := (StateClasses.ofKeys items).splitFrom
    (fun partition a b => (state a).conflict partition (state b)) states.size 0
  let merged :=
    compatible.refine (fun partition a b => (state a).diverge partition (state b)) states.size
  merged.members.map fun members =>
    match members.map state with
    | [] => default
    | first :: others => (others.foldl .merge first).renumber merged.classes

end Sections
