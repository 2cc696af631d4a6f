import Sections.Markup.Character

/-!
# Tokens

A text is read as two kinds of tokens.  Block tokens depend on where a line stands and which
containers are open; lexemes depend on the characters at hand only.
-/

namespace Sections

inductive ListMarker where
  | minus | plus | star | parenthesis | dot
  deriving DecidableEq, Repr, Hashable

inductive FenceMark where
  | backtick | tilde
  deriving DecidableEq, Repr, Hashable

inductive HtmlKind where
  | raw
  | comment
  | instruction
  | declaration
  | cdata
  | element
  | loneTag
  deriving DecidableEq, Repr, Hashable

inductive MetadataMark where
  | minus | plus
  deriving DecidableEq, Repr, Hashable

inductive BlockToken where
  | lineEnding
  | softLineEnding
  | containerEnd
  | continuation
  | quoteStart
  | chunkStart
  | heading (level : Nat)
  | underline (level : Nat)
  | thematicBreak
  | listMarker (marker : ListMarker) (weak : Bool)
  | fenceStart (mark : FenceMark)
  | blankLine
  | fenceEnd (mark : FenceMark)
  | htmlStart (kind : HtmlKind)
  | rawEnd
  /-- Asks for the innermost container to end with the line; takes no text. -/
  | closeRequest
  /-- Never read; where it is expected, no indented code starts. -/
  | noChunk
  /-- Never fits; it ends a reading that turned out wrong. -/
  | failure
  /-- Never read; where it is expected, the reading is wrong. -/
  | failureRequest
  | textEnd
  | metadata (mark : MetadataMark)
  | tableStart
  | tableLineEnding
  deriving DecidableEq, Repr, Hashable

namespace BlockToken

def listMarkers : List ListMarker := [.minus, .plus, .star, .parenthesis, .dot]

def otherHtml : List HtmlKind := [.comment, .instruction, .declaration, .cdata, .element, .loneTag]

def all : List BlockToken :=
  [.lineEnding, .softLineEnding, .containerEnd, .continuation, .quoteStart, .chunkStart]
    ++ [1, 2, 3, 4, 5, 6].map .heading ++ [.underline 1, .underline 2, .thematicBreak]
    ++ listMarkers.map (.listMarker · false) ++ listMarkers.map (.listMarker · true)
    ++ [.fenceStart .backtick, .fenceStart .tilde, .blankLine, .fenceEnd .backtick,
      .fenceEnd .tilde, .htmlStart .raw, .rawEnd]
    ++ otherHtml.map .htmlStart
    ++ [.closeRequest, .noChunk, .failure, .failureRequest, .textEnd, .metadata .minus,
      .metadata .plus, .tableStart, .tableLineEnding]

def code (token : BlockToken) : Nat := all.idxOf token

def name? : BlockToken → Option String
  | .continuation => some "block_continuation"
  | .quoteStart => some "block_quote_marker"
  | .heading level => some ("atx_h" ++ toString level ++ "_marker")
  | .underline level => some ("setext_h" ++ toString level ++ "_underline")
  | .fenceStart _ | .fenceEnd _ => some "fenced_code_block_delimiter"
  | .metadata .minus => some "minus_metadata"
  | .metadata .plus => some "plus_metadata"
  | _ => none

end BlockToken

inductive Lexeme where
  | punctuation (c : Char)
  | word
  | blank
  | escape
  | entity
  | numericReference
  | checkedBox
  | uncheckedBox
  | commentEnd
  | instructionEnd
  | cdataEnd
  deriving DecidableEq, Repr

namespace Lexeme

instance : Hashable Lexeme where
  hash
    | punctuation c => hash c.toNat
    | other => hash other.ctorIdx

def all : List Lexeme :=
  [.escape, .entity, .numericReference]
    ++ "[]<>!\"#$%&'*+,-./:;=?@\\^_`\x7b|\x7d~()".toList.map .punctuation
    ++ [.commentEnd, .instructionEnd, .cdataEnd, .word, .checkedBox, .uncheckedBox, .blank]

def name? : Lexeme → Option String
  | .entity => some "entity_reference"
  | .numericReference => some "numeric_character_reference"
  | _ => none

def isVisible : Lexeme → Bool
  | .punctuation _ | .entity | .numericReference | .commentEnd | .instructionEnd | .cdataEnd => true
  | _ => false

end Lexeme

end Sections
