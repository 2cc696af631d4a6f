import Sections.Toml.Scalar
import Sections.Toml.Text
import Sections.Toml.Value

/-!
# Reading TOML

A document is read line by line into the entries of its top table; any fault makes it unreadable.
-/

namespace Sections.Toml

def skipBlanks (cs : List Char) : List Char := cs.dropWhile isBlankChar

def skipComment : List Char → List Char
  | '#' :: rest => rest.dropWhile isPlain
  | cs => cs

def skipSpace (fuel : Nat) (cs : List Char) : List Char :=
  match fuel with
  | 0 => cs
  | fuel + 1 =>
    let rest := skipComment (skipBlanks cs)
    match skipNewline? rest with
    | some rest => skipSpace fuel rest
    | none => rest

def isBareKeyChar (c : Char) : Bool := c.isAlphanum || c == '_' || c == '-'

def readKeyPart (cs : List Char) : Option (String × List Char) :=
  match cs with
  | '"' :: rest => (readShort '"' rest).map fun (key, rest) => (String.ofList key, rest)
  | '\'' :: rest => (readShort '\'' rest).map fun (key, rest) => (String.ofList key, rest)
  | _ =>
    let key := cs.takeWhile isBareKeyChar
    if key.isEmpty then none else some (String.ofList key, cs.dropWhile isBareKeyChar)

def deepest : Nat := 80

def readKeyParts (limit : Nat) (cs : List Char) : Option (List String × List Char) :=
  match limit with
  | 0 => none
  | limit + 1 => do
    let (part, rest) ← readKeyPart (skipBlanks cs)
    match skipBlanks rest with
    | '.' :: rest =>
      let (parts, rest) ← readKeyParts limit rest
      return (part :: parts, rest)
    | rest => return ([part], rest)

def readKey (cs : List Char) : Option (List String × List Char) := readKeyParts deepest cs

def isWordChar (c : Char) : Bool :=
  c.isAlphanum || c == '_' || c == '-' || c == '+' || c == '.' || c == ':'

def readWord (cs : List Char) : Option (Toml × List Char) :=
  let word := cs.takeWhile isWordChar
  let rest := cs.dropWhile isWordChar
  if word = "true".toList then some (.bool true, rest)
  else if word = "false".toList then some (.bool false, rest)
  else
    match skipDate? word, rest with
    | some [], ' ' :: c :: _ =>
      if c.isDigit then
        let time := (rest.drop 1).takeWhile isWordChar
        if isDateTime (word ++ ' ' :: time) then some (.moment, (rest.drop 1).dropWhile isWordChar)
        else none
      else some (.moment, rest)
    | _, _ =>
      if isInteger word || isFloat word then some (.number, rest)
      else if isDateTime word then some (.moment, rest)
      else none

mutual

def readValue (depth fuel : Nat) (cs : List Char) : Option (Toml × List Char) :=
  match fuel with
  | 0 => none
  | fuel + 1 =>
    match cs, depth with
    | '"' :: rest, _ =>
      (readText '"' rest).map fun (chars, rest) => (.text (String.ofList chars), rest)
    | '\'' :: rest, _ =>
      (readText '\'' rest).map fun (chars, rest) => (.text (String.ofList chars), rest)
    | '[' :: rest, depth + 1 =>
      (readItems depth fuel rest).map fun (items, rest) => (.array items, rest)
    | '\x7b' :: rest, depth + 1 =>
      (readMembers depth fuel [] rest).map fun (entries, rest) => (.table .inline entries, rest)
    | cs, _ => readWord cs

def readItems (depth fuel : Nat) (cs : List Char) : Option (List Toml × List Char) :=
  match fuel with
  | 0 => none
  | fuel + 1 =>
    match skipSpace cs.length cs with
    | ']' :: rest => some ([], rest)
    | cs => do
      let (item, rest) ← readValue depth fuel cs
      match skipSpace rest.length rest with
      | ',' :: rest =>
        let (items, rest) ← readItems depth fuel rest
        return (item :: items, rest)
      | ']' :: rest => return ([item], rest)
      | _ => none

/--
Reads the members of an inline table up to its end, after the entries read before.  Unlike
on a line of its own, a member may be broken around its equals sign.
-/
def readMembers (depth fuel : Nat) (entries : Entries) (cs : List Char) :
    Option (Entries × List Char) :=
  match fuel with
  | 0 => none
  | fuel + 1 =>
    match skipSpace cs.length cs with
    | '\x7d' :: rest => some (entries, rest)
    | cs => do
      let (keys, rest) ← readKey cs
      let rest ← expect? '=' (skipSpace rest.length rest)
      let (value, rest) ← readValue depth fuel (skipSpace rest.length rest)
      let entries ← insertDotted value true keys entries
      match skipSpace rest.length rest with
      | ',' :: rest => readMembers depth fuel entries rest
      | '\x7d' :: rest => return (entries, rest)
      | _ => none

end

structure Progress where
  header : List String := []
  entries : Entries := []

def readExpression (progress : Progress) (cs : List Char) : Option (Progress × List Char) :=
  match cs with
  | '[' :: '[' :: rest => do
    let (keys, rest) ← readKey rest
    let rest ← expect? ']' (← expect? ']' rest)
    return (⟨keys, ← updateAt openNext keys progress.entries⟩, rest)
  | '[' :: rest => do
    let (keys, rest) ← readKey rest
    let rest ← expect? ']' rest
    return (⟨keys, ← updateAt openTable keys progress.entries⟩, rest)
  | cs => do
    let (keys, rest) ← readKey cs
    let (value, rest) ← readValue deepest (2 * rest.length + 1) (skipBlanks (← expect? '=' rest))
    return ({ progress with entries := ← insertBelow progress.header keys value progress.entries
      }, rest)

def readLines (fuel : Nat) (progress : Progress) (cs : List Char) : Option Entries :=
  match fuel with
  | 0 => none
  | fuel + 1 =>
    match skipSpace cs.length cs with
    | [] => some progress.entries
    | cs => do
      let (progress, rest) ← readExpression progress cs
      match skipComment (skipBlanks rest) with
      | [] => return progress.entries
      | rest => readLines fuel progress (← skipNewline? rest)

def read? (text : String) : Option Entries :=
  let cs := match text.toList with
    | '\ufeff' :: rest => rest
    | cs => cs
  readLines (cs.length + 1) {} cs

end Sections.Toml
