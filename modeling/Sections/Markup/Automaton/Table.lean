import Sections.Markup.Automaton.State

/-!
# The states of a grammar

A state is a set of items with the tokens that may follow them.  The items decide what a token
allows, and lead to the sets of items after it.
-/

namespace Sections

structure Candidate where
  reduction : Reduction
  mark : ReadingMark
  deriving DecidableEq, Inhabited

namespace Candidate

def add (candidate : Candidate) (others : List Candidate) : List Candidate :=
  match others with
  | [] => [candidate]
  | other :: _ =>
    if candidate.mark.preferred == other.mark.preferred then others ++ [candidate]
    else if candidate.mark.preferred then [candidate]
    else others

end Candidate

namespace ItemGrammar

def candidate? (g : ItemGrammar) (number : Nat) : Option Candidate :=
  let item := (g.items.getD number default).item
  match item.goal?, item.rest with
  | some goal, [] => some ⟨⟨goal, item.read.length, item.weight, item.read⟩, item.mark⟩
  | _, _ => none

def tokensOf (g : ItemGrammar) (set : TokenSet) : List Nat :=
  (List.range g.grammar.tokens).filter set.testBit

def isRepetition (g : ItemGrammar) (symbol : Nat) : Bool :=
  match g.grammar.symbols[symbol]? with
  | some (.repetition _) => true
  | _ => false

def rivals (g : ItemGrammar) (firsts : Array TokenSet) (set : ItemSet) (token : Nat) :
    List NumberedItem × List NumberedItem :=
  let items := set.map fun (number, outer) => (g.items.getD number default, outer)
  ((items.filter fun (entry, _) =>
      !entry.item.read.isEmpty && entry.next?.any fun next =>
        (firsts.getD next 0).testBit token).map (·.1),
    (items.filter fun (entry, outer) => entry.next?.isNone && outer.testBit token).map (·.1))

/--
Decides between reading a token and reducing first.  A repetition is reduced at
once.  Otherwise the preferred reading wins, and of equal ones the greedy one; what is
left open stays open.
-/
def settle (g : ItemGrammar) (firsts : Array TokenSet) (set : ItemSet) (token target : Nat)
    (candidates : List Candidate) : TokenActions :=
  let shift : TokenActions := { shift? := some target }
  let reduce : TokenActions := { reductions := candidates.map Candidate.reduction }
  match candidates with
  | [] => shift
  | candidate :: _ =>
    let (ongoing, complete) := g.rivals firsts set token
    let goals := ((ongoing ++ complete).filterMap fun entry => entry.item.goal?).eraseDups
    if goals.length = 1 ∧ goals.all g.isRepetition then reduce
    else
      let stronger :=
        ongoing.any fun entry => entry.item.mark.preferred && !candidate.mark.preferred
      let weaker := ongoing.any fun entry => !entry.item.mark.preferred && candidate.mark.preferred
      if stronger ∧ !weaker then shift
      else if weaker ∧ !stronger then reduce
      else if !stronger ∧ candidates.all fun candidate => candidate.mark.greedy then shift
      else { reduce with shift? := some target }

end ItemGrammar

structure StateSearch where
  kernels : Array ItemSet
  numbers : Std.HashMap ItemSet Nat

namespace StateSearch

def number (kernel : ItemSet) (search : StateSearch) : Nat × StateSearch :=
  match search.numbers[kernel]? with
  | some number => (number, search)
  | none =>
    let number := search.kernels.size
    (number, ⟨search.kernels.push kernel, search.numbers.insert kernel number⟩)

end StateSearch

def ItemSet.add (item : Nat) (outer : TokenSet) : ItemSet → ItemSet
  | [] => [(item, outer)]
  | (other, set) :: rest =>
    if item = other then (other, set ||| outer) :: rest
    else if item < other then (item, outer) :: (other, set) :: rest
    else (other, set) :: ItemSet.add item outer rest

namespace ItemGrammar

def successors (g : ItemGrammar) (set : ItemSet) : Array ItemSet :=
  set.foldl (fun next (number, outer) =>
    let entry := g.items.getD number default
    match entry.next? with
    | none => next
    | some symbol => next.modify symbol (ItemSet.add entry.advanced outer))
    (Array.replicate g.grammar.symbols.size [])

def candidates (g : ItemGrammar) (set : ItemSet) : Array (List Candidate) :=
  let complete := set.filterMap fun (number, outer) => (g.candidate? number).map fun found =>
    (found, outer)
  let sorted := complete.mergeSort fun (a, _) (b, _) =>
    a.reduction.symbol < b.reduction.symbol ||
      (a.reduction.symbol == b.reduction.symbol && a.reduction.count ≤ b.reduction.count)
  sorted.foldl (fun found (candidate, outer) =>
    (g.tokensOf outer).foldl (fun found token => found.modify token candidate.add) found)
    (Array.replicate g.grammar.tokens [])

def isComplete (g : ItemGrammar) (set : ItemSet) : Bool :=
  set.any fun (number, _) =>
    let entry := g.items.getD number default
    entry.item.goal?.isNone && entry.next?.isNone

def state (g : ItemGrammar) (beginnings : Beginnings) (kernel : ItemSet) (search : StateSearch) :
    AutomatonState × StateSearch :=
  let set := g.closure beginnings kernel
  let (targets, search) := (g.successors set).foldl (fun (targets, search) next =>
    if next.isEmpty then (targets.push none, search)
    else
      let (number, search) := search.number next
      (targets.push (some number), search)) ((#[] : Array (Option Nat)), search)
  let actions := (g.candidates set).zipIdx.map fun (candidates, token) =>
    match targets.getD token none with
    | some target => g.settle beginnings.firsts set token target candidates
    | none => { reductions := candidates.map Candidate.reduction }
  let actions :=
    if g.isComplete set then actions.modify g.grammar.textEnd fun old =>
      { old with accepts := true }
    else actions
  let gotos := targets.zipIdx.map fun (target, symbol) =>
    if symbol < g.grammar.tokens then none else target
  (.ofActions actions gotos, search)

def states (g : ItemGrammar) (beginnings : Beginnings) (fuel number : Nat)
    (found : Array AutomatonState)
    (search : StateSearch) : Array AutomatonState × Array ItemSet :=
  match fuel with
  | 0 => (found, search.kernels)
  | fuel + 1 =>
    match search.kernels[number]? with
    | none => (found, search.kernels)
    | some kernel =>
      let (state, search) := g.state beginnings kernel search
      states g beginnings fuel (number + 1) (found.push state) search

end ItemGrammar

end Sections
