import Sections.Markup.EntityName
import Sections.Markup.Token

/-!
# Reading lexemes

Which lexemes a text starts with.  A line ending is no part of a lexeme.
-/

namespace Sections

namespace Lexeme

def runLength (p : Char → Bool) (text : List Char) : Nat := (text.takeWhile p).length

def closedRun? (p : Char → Bool) (text : List Char) : Option Nat :=
  let length := runLength p text
  if (text.drop length).head? = some ';' then some length else none

def isHexDigit (c : Char) : Bool := c.isDigit || ('a' ≤ c && c ≤ 'f') || ('A' ≤ c && c ≤ 'F')

def reference? : List Char → Option (Lexeme × Nat)
  | '#' :: text =>
    match text with
    | 'x' :: digits | 'X' :: digits =>
      ((closedRun? isHexDigit digits).filter fun n => 1 ≤ n && n ≤ 6).map fun n =>
        (.numericReference, n + 4)
    | _ => ((closedRun? Char.isDigit text).filter fun n => 1 ≤ n && n ≤ 7).map fun n =>
      (.numericReference, n + 3)
  | text =>
    ((closedRun? Char.isAlphanum text).filter fun n => isEntityName (text.take n)).map fun n =>
      (.entity, n + 2)

def compound? : List Char → Option (Lexeme × Nat)
  | '[' :: 'x' :: ']' :: _ | '[' :: 'X' :: ']' :: _ => some (.checkedBox, 3)
  | '[' :: c :: ']' :: _ => if isIndent c then some (.uncheckedBox, 3) else none
  | '\\' :: c :: _ => if isPunctuation c then some (.escape, 2) else none
  | '&' :: text => reference? text
  | '-' :: '-' :: '>' :: _ => some (.commentEnd, 3)
  | '?' :: '>' :: _ => some (.instructionEnd, 2)
  | ']' :: ']' :: '>' :: _ => some (.cdataEnd, 3)
  | _ => none

def isWordCharacter (c : Char) : Bool :=
  !(isPunctuation c || isIndent c || isLineEnd c || c == '\x00')

def candidates (text : List Char) : List (Lexeme × Nat) :=
  match text with
  | [] => []
  | c :: _ =>
    if isIndent c then [(.blank, runLength isIndent text)]
    else if isPunctuation c then (compound? text).toList ++ [(.punctuation c, 1)]
    else if isWordCharacter c then [(.word, runLength isWordCharacter text)]
    else []

end Lexeme

end Sections
