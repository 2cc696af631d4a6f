import Sections.Markup.Automaton.Shortcut

/-!
# The parsing automaton

The automaton of a grammar has a state for every place in the phrases of a text.
-/

namespace Sections

structure Automaton where
  grammar : Grammar
  states : Array AutomatonState

namespace Automaton

def errorState : Nat := 0

def startState : Nat := 1

def stateLimit : Nat := 100000

def ofGrammar (grammar : Grammar) : Automaton :=
  let g := ItemGrammar.ofGrammar grammar
  let start : ItemSet := [(g.start, 1 <<< grammar.textEnd)]
  let anything : TokenSet := (1 <<< grammar.tokens) - 1
  let (states, kernels) := g.states g.beginnings stateLimit startState
    #[{ actions := #[], gotos := #[], expected := anything, blocks := .ofTokens anything }]
    ⟨#[[], start], .ofList [(start, startState)]⟩
  { grammar
    states := takeShortcuts grammar
      (mergeStates states (kernels.map fun kernel => kernel.map Prod.fst)) }

def actions (automaton : Automaton) (state token : Nat) : TokenActions :=
  (automaton.states.getD state default).actions.getD token {}

def expects (automaton : Automaton) (state token : Nat) : Bool :=
  (automaton.states.getD state default).expected.testBit token

def expectedBlocks (automaton : Automaton) (state : Nat) : Expected :=
  (automaton.states.getD state default).blocks

def next? (automaton : Automaton) (state symbol : Nat) : Option Nat :=
  if symbol < automaton.grammar.tokens then (automaton.actions state symbol).shift?
  else (automaton.states.getD state default).gotos.getD symbol none

end Automaton

end Sections
