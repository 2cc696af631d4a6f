import Sections.Markup.Automaton.Closure
import Sections.Markup.Line.Expected

/-!
# States of the parsing automaton

In a state each token allows reductions of what has been read to a phrase, or reading the token, or
several of these where the grammar leaves it open.
-/

namespace Sections

structure Reduction where
  symbol : Nat
  count : Nat
  weight : Nat
  names : List (Option String)
  deriving DecidableEq, Repr, Inhabited

structure TokenActions where
  reductions : List Reduction := []
  shift? : Option Nat := none
  accepts : Bool := false
  deriving DecidableEq, Repr, Inhabited

namespace TokenActions

def isEmpty (actions : TokenActions) : Bool :=
  actions.reductions.isEmpty && actions.shift?.isNone && !actions.accepts

end TokenActions

structure AutomatonState where
  actions : Array TokenActions
  gotos : Array (Option Nat)
  expected : TokenSet
  blocks : Expected
  deriving Repr, Inhabited

def AutomatonState.ofActions (actions : Array TokenActions) (gotos : Array (Option Nat)) :
    AutomatonState :=
  let expected := actions.zipIdx.foldl (fun set (actions, token) =>
    if actions.isEmpty then set else set ||| (1 <<< token)) 0
  { actions, gotos, expected, blocks := .ofTokens expected }

end Sections
