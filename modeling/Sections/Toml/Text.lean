import Sections.Text.Numeral

/-!
# Strings in TOML

Strings in double quotes have escapes, strings in single quotes have none.  Three quotes open a
string of several lines.
-/

namespace Sections.Toml

def isPlain (c : Char) : Bool := c == '\t' || (' ' ≤ c && c ≠ '\x7f')

def codePoint? (digits : List Char) : Option Char := do
  let value ← digits.foldlM (fun value c => (hexDigit? c).map (value * 16 + ·)) 0
  if value < 0xd800 ∨ 0xdfff < value ∧ value < 0x110000 then some (Char.ofNat value) else none

def readEscape : List Char → Option (Char × List Char)
  | 'b' :: rest => some ('\x08', rest)
  | 't' :: rest => some ('\t', rest)
  | 'n' :: rest => some ('\n', rest)
  | 'f' :: rest => some ('\x0c', rest)
  | 'r' :: rest => some ('\r', rest)
  | 'e' :: rest => some ('\x1b', rest)
  | '"' :: rest => some ('"', rest)
  | '\\' :: rest => some ('\\', rest)
  | 'x' :: rest => hexadecimal 2 rest
  | 'u' :: rest => hexadecimal 4 rest
  | 'U' :: rest => hexadecimal 8 rest
  | _ => none
where
  hexadecimal (count : Nat) (rest : List Char) : Option (Char × List Char) :=
    if rest.length < count then none
    else (codePoint? (rest.take count)).map fun c => (c, rest.drop count)

def readBasic (fuel : Nat) (cs : List Char) : Option (List Char × List Char) :=
  match fuel, cs with
  | _ + 1, '"' :: rest => some ([], rest)
  | fuel + 1, '\\' :: rest => do
    let (c, rest) ← readEscape rest
    let (text, rest) ← readBasic fuel rest
    return (c :: text, rest)
  | fuel + 1, c :: rest =>
    if isPlain c then do
      let (text, rest) ← readBasic fuel rest
      return (c :: text, rest)
    else none
  | _, _ => none

def readLiteral : List Char → Option (List Char × List Char)
  | [] => none
  | '\'' :: rest => some ([], rest)
  | c :: rest =>
    if isPlain c then do
      let (text, rest) ← readLiteral rest
      return (c :: text, rest)
    else none

def skipNewline? : List Char → Option (List Char)
  | '\n' :: rest => some rest
  | '\r' :: '\n' :: rest => some rest
  | _ => none

def isBlankChar (c : Char) : Bool := c == ' ' || c == '\t'

def skipBlankLines (fuel : Nat) (cs : List Char) : List Char :=
  match fuel with
  | 0 => cs
  | fuel + 1 =>
    let rest := cs.dropWhile isBlankChar
    match skipNewline? rest with
    | some rest => skipBlankLines fuel rest
    | none => rest

/--
Reads the rest of a string of several lines.  Up to two quotes may stand before the
closing ones; with escapes, a backslash at the end of a line joins it to the next text.
-/
def readLong (quote : Char) (escapes : Bool) (fuel : Nat) (cs : List Char) :
    Option (List Char × List Char) :=
  match fuel with
  | 0 => none
  | fuel + 1 =>
    let quotes := min (cs.takeWhile (· == quote)).length 5
    if 3 ≤ quotes then some (List.replicate (quotes - 3) quote, cs.drop quotes)
    else
      match cs with
      | [] => none
      | c :: rest =>
        if c = '\\' ∧ escapes then
          match skipNewline? (rest.dropWhile isBlankChar) with
          | some after => readLong quote escapes fuel (skipBlankLines after.length after)
          | none => do
            let (c, rest) ← readEscape rest
            let (text, rest) ← readLong quote escapes fuel rest
            return (c :: text, rest)
        else
          match skipNewline? (c :: rest) with
          | some after => do
            let (text, rest) ← readLong quote escapes fuel after
            return ('\n' :: text, rest)
          | none =>
            if isPlain c then do
              let (text, rest) ← readLong quote escapes fuel rest
              return (c :: text, rest)
            else none

def readShort (quote : Char) (cs : List Char) : Option (List Char × List Char) :=
  if quote = '"' then readBasic (cs.length + 1) cs else readLiteral cs

def readText (quote : Char) (cs : List Char) : Option (List Char × List Char) :=
  if cs.take 2 = [quote, quote] then
    let rest := cs.drop 2
    let rest := (skipNewline? rest).getD rest
    readLong quote (quote == '"') (rest.length + 1) rest
  else readShort quote cs

end Sections.Toml
