import Sections.Text.Numeral

/-!
# JSON values

The values that the formats of this library are made of.  Text that no format can use is kept as far
as the reader has to accept it.
-/

namespace Sections

inductive Json where
  | null
  | bool (value : Bool)
  /-- A machine word, or a number that is none. -/
  | number (value : Option Nat)
  /-- A text, or a string with half a surrogate pair, which spells none. -/
  | string (value : Option String)
  | array (items : List Json)
  | object (members : List (Option String × Json))
  deriving Repr, Inhabited

namespace Json

def ofText (text : String) : Json := string (some text)

def ofNat (value : Nat) : Json := number (some value)

def ofMembers (members : List (String × Json)) : Json :=
  object (members.map fun (name, value) => (some name, value))

def escapedChar (c : Char) : List Char :=
  if c = '"' ∨ c = '\\' then ['\\', c]
  else if c = '\x08' then ['\\', 'b']
  else if c = '\x0c' then ['\\', 'f']
  else if c = '\n' then ['\\', 'n']
  else if c = '\r' then ['\\', 'r']
  else if c = '\t' then ['\\', 't']
  else if c < ' ' then ['\\', 'u'] ++ (paddedHex 4 c.toNat).toList
  else [c]

def renderString : Option String → List Char
  | some text => '"' :: text.toList.flatMap escapedChar ++ ['"']
  | none => "\"\\ud800\"".toList

def renderNumber : Option Nat → List Char
  | some value => Nat.toDigits 10 value
  | none => ['-', '1']

mutual

def render : Json → List Char
  | null => "null".toList
  | bool true => "true".toList
  | bool false => "false".toList
  | number value => renderNumber value
  | string value => renderString value
  | array [] => ['[', ']']
  | array (item :: items) => '[' :: render item ++ renderItems items
  | object [] => ['\x7b', '\x7d']
  | object ((name, value) :: members) =>
    '\x7b' :: renderString name ++ ':' :: render value ++ renderMembers members

def renderItems : List Json → List Char
  | [] => [']']
  | item :: items => ',' :: render item ++ renderItems items

def renderMembers : List (Option String × Json) → List Char
  | [] => ['\x7d']
  | (name, value) :: members =>
    ',' :: renderString name ++ ':' :: render value ++ renderMembers members

end

def lineBreak (level : Nat) : List Char := '\n' :: List.replicate (2 * level) ' '

mutual

def renderIndented (level : Nat) : Json → List Char
  | array (item :: items) =>
    '[' :: lineBreak (level + 1) ++ renderIndented (level + 1) item ++
      renderIndentedItems level items
  | object ((name, value) :: members) =>
    '\x7b' :: lineBreak (level + 1) ++ renderString name ++ ": ".toList
      ++ renderIndented (level + 1) value ++ renderIndentedMembers level members
  | null => render null
  | bool value => render (bool value)
  | number value => render (number value)
  | string value => render (string value)
  | array [] => render (array [])
  | object [] => render (object [])

def renderIndentedItems (level : Nat) : List Json → List Char
  | [] => lineBreak level ++ [']']
  | item :: items =>
    ',' :: lineBreak (level + 1) ++ renderIndented (level + 1) item ++
      renderIndentedItems level items

def renderIndentedMembers (level : Nat) : List (Option String × Json) → List Char
  | [] => lineBreak level ++ ['\x7d']
  | (name, value) :: members =>
    ',' :: lineBreak (level + 1) ++ renderString name ++ ": ".toList
      ++ renderIndented (level + 1) value ++ renderIndentedMembers level members

end

def compact (value : Json) : String := String.ofList value.render

def pretty (value : Json) : String := String.ofList (value.renderIndented 0)

end Json

end Sections
