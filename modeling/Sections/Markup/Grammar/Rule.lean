import Sections.Markup.Token

/-!
# Rules of a grammar

The block grammar is data: every phrase has a rule, and rules are built from tokens and phrases by
sequence, choice and repetition.  Marks on a rule decide between readings.
-/

namespace Sections

inductive Phrase where
  | document
  | backslashEscape
  | linkLabel
  | linkDestination
  | destinationParentheses
  | angleText
  | linkTitle
  | anyBlock
  | plainBlock
  | anySection
  | sectionAt (level : Nat)
  | thematicBreak
  | heading (level : Nat)
  | headingContent
  | underlinedHeading (level : Nat)
  | indentedCode
  | indentedChunk
  | fencedCode
  | fencedContent
  | infoString
  | language
  | html
  | htmlOf (kind : HtmlKind)
  | linkDefinition
  | labelText
  | paragraph
  | blankLine
  | quote
  | list
  | listOf (marker : ListMarker)
  | markerOf (marker : ListMarker)
  | itemOf (marker : ListMarker)
  | itemContent
  | newline
  | softBreak
  | line
  | word
  | checkedTask
  | uncheckedTask
  | table
  | tableNewline
  | delimiterRow
  | delimiterCell
  | tableRow
  | tableCell
  deriving DecidableEq, Repr, Hashable

inductive Rule where
  | block (token : BlockToken)
  | lexeme (lexeme : Lexeme)
  | phrase (phrase : Phrase)
  | empty
  | sequence (first second : Rule)
  | choice (first second : Rule)
  | repeated (content : Rule)
  /-- Wins over readings without this mark. -/
  | preferred (content : Rule)
  /-- Goes on where it could also end. -/
  | greedy (content : Rule)
  /-- Of several readings of a whole text the one with more weight is kept. -/
  | weighted (weight : Nat) (content : Rule)
  | named (name : String) (content : Rule)
  deriving DecidableEq, Repr, Hashable

namespace Rule

instance : Coe BlockToken Rule := ⟨block⟩

instance : Coe Lexeme Rule := ⟨lexeme⟩

instance : Coe Phrase Rule := ⟨phrase⟩

instance : Coe Char Rule := ⟨fun c => lexeme (.punctuation c)⟩

def inOrder : List Rule → Rule
  | [] => empty
  | [rule] => rule
  | rule :: rest => sequence rule (inOrder rest)

def oneOf : List Rule → Rule
  | [] => empty
  | [rule] => rule
  | rule :: rest => choice rule (oneOf rest)

def maybe (rule : Rule) : Rule := choice rule empty

def series (rule : Rule) : Rule := choice (repeated rule) empty

def punctuationExcept (excluded : List Char) : Rule :=
  oneOf <| ("!\"#$%&'()*+,-./:;<=>?@[\\]^_`\x7b|\x7d~".toList.filter fun c =>
    !excluded.contains c).map
    fun c => lexeme (.punctuation c)

def repetitions : Rule → List Rule
  | block _ | lexeme _ | phrase _ | empty => []
  | sequence first second | choice first second => first.repetitions ++ second.repetitions
  | repeated content => content.repetitions ++ [content]
  | preferred content | greedy content | weighted _ content | named _ content => content.repetitions

end Rule

end Sections
