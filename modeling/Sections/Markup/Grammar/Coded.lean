import Sections.Markup.Grammar.Blocks
import Std.Data.HashMap

/-!
# The grammar as numbered alternatives

Rules are multiplied out: a phrase has alternatives, and each alternative is a row of symbols.  A
repetition becomes a symbol of its own, which stands for one content or for two such symbols in a
row.  Symbols are numbered, tokens first.
-/

namespace Sections

inductive GrammarSymbol where
  | block (token : BlockToken)
  | textEnd
  | lexeme (lexeme : Lexeme)
  | phrase (phrase : Phrase)
  | repetition (content : Rule)
  deriving DecidableEq, Repr, Hashable

namespace GrammarSymbol

def name? : GrammarSymbol → Option String
  | block token => token.name?
  | lexeme l => l.name?
  | phrase p => p.name?
  | textEnd | repetition _ => none

def isVisible : GrammarSymbol → Bool
  | lexeme l => l.isVisible
  | other => other.name?.isSome

end GrammarSymbol

structure ReadingMark where
  preferred : Bool := false
  greedy : Bool := false
  deriving DecidableEq, Repr, Hashable, Inhabited

structure Part (σ : Type) where
  symbol : σ
  name? : Option String
  mark : ReadingMark
  deriving DecidableEq, Repr, Hashable

structure Alternative (σ : Type) where
  parts : List (Part σ)
  weight : Nat
  deriving DecidableEq, Repr, Hashable

namespace Alternative

def append {σ : Type} (first second : Alternative σ) : Alternative σ :=
  ⟨first.parts ++ second.parts, max first.weight second.weight⟩

def markLast {σ : Type} (mark : ReadingMark) (alternative : Alternative σ) : Alternative σ :=
  match alternative.parts.getLast? with
  | none => alternative
  | some last => { alternative with parts := alternative.parts.dropLast ++ [{ last with mark }] }

end Alternative

/--
The alternatives of a rule within a name and a mark.  The mark of a rule ends with the
rule unless the rule is the `last` one of its alternative.
-/
def Rule.alternatives (name? : Option String) (mark : ReadingMark) (last : Bool) :
    Rule → List (Alternative GrammarSymbol)
  | block token => [⟨[⟨.block token, name?, mark⟩], 0⟩]
  | lexeme l => [⟨[⟨.lexeme l, name?, mark⟩], 0⟩]
  | phrase p => [⟨[⟨.phrase p, name?, mark⟩], 0⟩]
  | repeated content => [⟨[⟨.repetition content, name?, mark⟩], 0⟩]
  | empty => [⟨[], 0⟩]
  | sequence first second =>
    let backs := second.alternatives name? mark last
    (first.alternatives name? mark false).flatMap fun front => backs.map front.append
  | choice first second => first.alternatives name? mark last ++ second.alternatives name? mark last
  | preferred content =>
    restore (content.alternatives name? { mark with preferred := true } last)
  | greedy content => restore (content.alternatives name? ⟨false, true⟩ last)
  | weighted weight content =>
    (content.alternatives name? mark last).map fun alternative =>
      { alternative with weight := max weight alternative.weight }
  | named name content => content.alternatives (some name) mark last
where
  restore (alternatives : List (Alternative GrammarSymbol)) : List (Alternative GrammarSymbol) :=
    if last then alternatives else alternatives.map (.markLast mark)

def GrammarSymbol.alternatives : GrammarSymbol → List (Alternative GrammarSymbol)
  | block _ | textEnd | lexeme _ => []
  | phrase p => (p.rule.alternatives none {} true).eraseDups
  | repetition content =>
    let twice := Part.mk (.repetition content) none {}
    ⟨[twice, twice], 0⟩ :: (content.alternatives none {} true).eraseDups

structure Grammar where
  symbols : Array GrammarSymbol
  tokens : Nat
  textEnd : Nat
  document : Nat
  alternatives : Array (List (Alternative Nat))

def Lexeme.code (l : Lexeme) : Nat := BlockToken.all.length + 1 + all.idxOf l

def Grammar.ofPhrases (phrases : List Phrase) : Grammar :=
  let tokens := BlockToken.all.map GrammarSymbol.block ++ [.textEnd] ++ Lexeme.all.map .lexeme
  let repetitions := (phrases.flatMap fun phrase => phrase.rule.repetitions).eraseDups
  let symbols :=
    (tokens ++ phrases.map GrammarSymbol.phrase ++ repetitions.map GrammarSymbol.repetition).toArray
  let codes : Std.HashMap GrammarSymbol Nat := .ofList symbols.toList.zipIdx
  let code := fun symbol => codes.getD symbol 0
  { symbols
    tokens := tokens.length
    textEnd := code .textEnd
    document := code (.phrase .document)
    alternatives := symbols.map fun symbol => symbol.alternatives.map fun alternative =>
      { weight := alternative.weight
        parts := alternative.parts.map fun part => { part with symbol := code part.symbol } } }

end Sections
