import Sections.Markup.HeadingText
import Sections.Markup.Parse.Run

/-!
# Documents

The tree of a whole text: the visible pieces of its syntax tree.
-/

namespace Sections

def blockAutomaton : Automaton := .ofGrammar (.ofPhrases Phrase.all)

namespace SyntaxTree

def symbol? (tree : SyntaxTree) : Option GrammarSymbol :=
  match tree.label with
  | .symbol code => blockAutomaton.grammar.symbols[code]?
  | .skipped | .misfit => none

def name? (tree : SyntaxTree) : Option String :=
  match tree.label with
  | .symbol _ => tree.symbol?.bind GrammarSymbol.name?
  | .skipped => none
  | .misfit => some "ERROR"

mutual

def named : SyntaxTree → List (String × SyntaxTree) → List (String × SyntaxTree)
  | mk piece parts, others => namedAll piece.names parts others

def namedAll : List (Option String) → List SyntaxTree → List (String × SyntaxTree) →
    List (String × SyntaxTree)
  | _, [], others => others
  | names, part :: rest, others =>
    let others := namedAll (if part.isExtra then names else names.tail) rest others
    match (if part.isExtra then none else names.head?.join) <|> part.name? with
    | some name => (name, part) :: others
    | none => named part others

end

def text (source : Source) (tree : SyntaxTree) : List Char :=
  source.slice tree.piece.start tree.piece.stop

def textOf? (source : Source) (p : String × SyntaxTree → Bool) (tree : SyntaxTree) :
    Option (List Char) :=
  ((tree.named []).find? p).map fun part => part.2.text source

def language? (source : Source) (fenced : SyntaxTree) : Option String := do
  let (_, info) ← (fenced.named []).find? fun part => part.2.symbol? == some (.phrase .infoString)
  let language := info.textOf? source fun part => part.2.symbol? == some (.phrase .language)
  let word ← (words (language.getD (info.text source))).head?
  return String.ofList word

def kind (source : Source) (name : String) (tree : SyntaxTree) : NodeKind :=
  match tree.symbol? with
  | some (.phrase (.heading level)) =>
    let content := tree.textOf? source fun part => part.1 == "inline"
    .heading level (String.ofList (plainText (withoutClosingRun (content.getD []))))
  | some (.phrase (.underlinedHeading level)) =>
    let content := tree.textOf? source fun part => part.2.symbol? == some (.phrase .paragraph)
    .heading level (String.ofList (plainText (trim (content.getD []))))
  | some (.phrase .fencedCode) => .code (tree.language? source)
  | some (.phrase .indentedCode) => .code none
  | some (.phrase .paragraph) => .paragraph
  | some (.phrase (.itemOf _)) => .listItem
  | some (.phrase .quote) => .blockQuote
  | _ => .other name

end SyntaxTree

def NodeKind.hasChildren : NodeKind → Bool
  | heading _ _ | code _ | paragraph => false
  | document | listItem | blockQuote | other _ => true

namespace Node

mutual

def ofParts (source : Source) : SyntaxTree → List Node → List Node
  | .mk piece parts, others => ofAll source piece.names parts others

def ofAll (source : Source) : List (Option String) → List SyntaxTree → List Node → List Node
  | _, [], others => others
  | names, part :: rest, others =>
    let others := ofAll source (if part.isExtra then names else names.tail) rest others
    match (if part.isExtra then none else names.head?.join) <|> part.name? with
    | some name =>
      let kind := part.kind source name
      .located kind part.piece.start.location part.piece.stop.location
        (if kind.hasChildren then ofParts source part [] else []) :: others
    | none => ofParts source part others

end

def ofSyntaxTree (source : Source) (tree : SyntaxTree) : Node :=
  .located .document tree.piece.start.location tree.piece.stop.location (ofParts source tree [])

end Node

def parseDocument (text : String) : Node :=
  let source := Source.ofChars text.toList
  match SyntaxTree.ofSource? blockAutomaton source with
  | some tree => .ofSyntaxTree source tree
  | none => .mk .document none []

end Sections
