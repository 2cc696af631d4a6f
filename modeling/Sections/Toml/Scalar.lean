import Sections.Text.Numeral

/-!
# Numbers, dates and times in TOML

Whether a word is a number, a date or a time.  Their values are not needed.
-/

namespace Sections.Toml

def isDigitRow (isDigit : Char → Bool) : List Char → Bool
  | [] => false
  | [c] => isDigit c
  | c :: '_' :: rest => isDigit c && isDigitRow isDigit rest
  | c :: rest => isDigit c && isDigitRow isDigit rest

def withoutSign : List Char → List Char
  | '+' :: rest => rest
  | '-' :: rest => rest
  | cs => cs

def hasPlainStart : List Char → Bool
  | '0' :: _ :: _ => false
  | _ => true

def isHexDigit (c : Char) : Bool := (hexDigit? c).isSome

def rowValue (base : Nat) (row : List Char) : Nat :=
  row.foldl (fun value c => if c = '_' then value else value * base + (hexDigit? c).getD 0) 0

def integerLimit : Nat := Nat.pow 2 63

def isInteger (word : List Char) : Bool :=
  match word with
  | '0' :: 'x' :: row => isDigitRow isHexDigit row && rowValue 16 row < integerLimit
  | '0' :: 'o' :: row =>
    isDigitRow (fun c => '0' ≤ c && c ≤ '7') row && rowValue 8 row < integerLimit
  | '0' :: 'b' :: row =>
    isDigitRow (fun c => c == '0' || c == '1') row && rowValue 2 row < integerLimit
  | _ =>
    let row := withoutSign word
    let limit := if word.head? = some '-' then integerLimit + 1 else integerLimit
    isDigitRow Char.isDigit row && hasPlainStart row && rowValue 10 row < limit

def cutBefore (stops : Char → Bool) (cs : List Char) : List Char × List Char :=
  (cs.takeWhile fun c => !stops c, cs.dropWhile fun c => !stops c)

/-- The least number that does not round to a finite one of 64 bits. -/
def floatLimit : Nat := Nat.pow 2 1024 - Nat.pow 2 970

def isFinite (whole fraction exponent : List Char) : Bool :=
  let value := rowValue 10 (whole ++ fraction)
  let places := (fraction.filter (· != '_')).length
  let size := rowValue 10 (withoutSign exponent)
  if value = 0 then true
  else if exponent.head? = some '-' then
    400 < size || value < floatLimit * Nat.pow 10 (places + size)
  else size ≤ 400 + places && value * Nat.pow 10 size < floatLimit * Nat.pow 10 places

def isFloat (word : List Char) : Bool :=
  let row := withoutSign word
  if row = "inf".toList ∨ row = "nan".toList then true
  else
    let (mantissa, power) := cutBefore (fun c => c == 'e' || c == 'E') row
    let (whole, point) := cutBefore (· == '.') mantissa
    let fraction := point.drop 1
    let exponent := power.drop 1
    isDigitRow Char.isDigit whole && hasPlainStart whole
      && (point.isEmpty || isDigitRow Char.isDigit fraction)
      && (power.isEmpty || isDigitRow Char.isDigit (withoutSign exponent))
      && !(point.isEmpty && power.isEmpty)
      && isFinite whole fraction exponent

def takeDigits? (count : Nat) (cs : List Char) : Option (Nat × List Char) :=
  let digits := cs.take count
  if digits.length = count ∧ digits.all Char.isDigit then some (digitsValue digits, cs.drop count)
  else none

def isLeapYear (year : Nat) : Bool := (year % 4 == 0 && year % 100 != 0) || year % 400 == 0

def daysInMonth (year month : Nat) : Nat :=
  if month = 2 then (if isLeapYear year then 29 else 28)
  else if month = 4 ∨ month = 6 ∨ month = 9 ∨ month = 11 then 30
  else 31

def expect? (expected : Char) : List Char → Option (List Char)
  | c :: rest => if c = expected then some rest else none
  | [] => none

def skipDate? (cs : List Char) : Option (List Char) := do
  let (year, cs) ← takeDigits? 4 cs
  let (month, cs) ← takeDigits? 2 (← expect? '-' cs)
  let (day, cs) ← takeDigits? 2 (← expect? '-' cs)
  if 1 ≤ month ∧ month ≤ 12 ∧ 1 ≤ day ∧ day ≤ daysInMonth year month then some cs else none

def skipSecondFraction? (cs : List Char) : Option (List Char) :=
  match cs with
  | '.' :: rest =>
    if (rest.takeWhile Char.isDigit).isEmpty then none else some (rest.dropWhile Char.isDigit)
  | _ => some cs

def skipTime? (cs : List Char) : Option (List Char) := do
  let (hour, cs) ← takeDigits? 2 cs
  let (minute, cs) ← takeDigits? 2 (← expect? ':' cs)
  if hour ≤ 23 ∧ minute ≤ 59 then
    match cs with
    | ':' :: rest =>
      let (second, rest) ← takeDigits? 2 rest
      if second ≤ 60 then skipSecondFraction? rest else none
    | _ => some cs
  else none

def skipOffset? (cs : List Char) : Option (List Char) :=
  match cs with
  | 'Z' :: rest => some rest
  | 'z' :: rest => some rest
  | '+' :: rest => hoursAndMinutes rest
  | '-' :: rest => hoursAndMinutes rest
  | _ => some cs
where
  hoursAndMinutes (cs : List Char) : Option (List Char) := do
    let (hour, cs) ← takeDigits? 2 cs
    let (minute, cs) ← takeDigits? 2 (← expect? ':' cs)
    if hour ≤ 23 ∧ minute ≤ 59 then some cs else none

def isDateTime (word : List Char) : Bool :=
  match skipTime? word with
  | some rest => rest.isEmpty
  | none =>
    match skipDate? word with
    | some [] => true
    | some (delimiter :: rest) =>
      (delimiter == 'T' || delimiter == 't' || delimiter == ' ')
        && ((skipTime? rest).bind skipOffset?).any List.isEmpty
    | none => false

end Sections.Toml
