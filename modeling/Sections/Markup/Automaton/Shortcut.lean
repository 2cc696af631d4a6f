import Sections.Markup.Automaton.Merge

/-!
# Shortcuts

Many phrases consist of another phrase only, and no node stands for them.  A state in which nothing
can be done but to make such a phrase is passed over: what leads there leads to where the phrase
leads.
-/

namespace Sections

/--
The symbols that no node stands for anywhere: they have no name, and get none within an
alternative.
-/
def Grammar.hiddenSymbols (grammar : Grammar) : Array Bool :=
  let parts := grammar.alternatives.toList.flatMap fun alternatives =>
    alternatives.flatMap Alternative.parts
  let named := (parts.filter fun part => part.name?.isSome).foldl
    (fun named part => named.set! part.symbol true) (Array.replicate grammar.symbols.size false)
  grammar.symbols.zipWith (fun symbol named => !(symbol.isVisible || named)) named

namespace AutomatonState

def wrapper? (state : AutomatonState) : Option Nat :=
  match (state.actions.toList.filter fun actions => !actions.isEmpty).eraseDups with
  | [⟨[reduction], none, false⟩] =>
    if reduction.count = 1 && reduction.weight = 0 && reduction.names.all Option.isNone then
      some reduction.symbol
    else none
  | _ => none

def shortcut (wrappers : Array (Option Nat)) (state : AutomatonState) (fuel target : Nat) : Nat :=
  match fuel with
  | 0 => target
  | fuel + 1 =>
    match (wrappers.getD target none).bind fun symbol => state.gotos.getD symbol none with
    | some next => if next = target then target else shortcut wrappers state fuel next
    | none => target

def takeShortcuts (wrappers : Array (Option Nat)) (state : AutomatonState) : AutomatonState :=
  let change (target? : Option Nat) : Option Nat :=
    target?.map (state.shortcut wrappers wrappers.size)
  { state with
    actions := state.actions.map fun actions => { actions with shift? := change actions.shift? }
    gotos := state.gotos.map change }

end AutomatonState

def takeShortcuts (grammar : Grammar) (states : Array AutomatonState) : Array AutomatonState :=
  let hidden := grammar.hiddenSymbols
  let wrappers := states.map fun state => state.wrapper?.filter fun symbol =>
    hidden.getD symbol false
  states.map (AutomatonState.takeShortcuts wrappers)

end Sections
