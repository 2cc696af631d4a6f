/-!
# Splitting texts
-/

namespace Sections

def splitAll (separator : Char) : List Char → List (List Char)
  | [] => [[]]
  | c :: cs =>
    if c = separator then [] :: splitAll separator cs
    else
      match splitAll separator cs with
      | [] => [[c]]
      | piece :: pieces => (c :: piece) :: pieces

def splitFirst? (separator : Char) : List Char → Option (List Char × List Char)
  | [] => none
  | c :: cs =>
    if c = separator then some ([], cs)
    else (splitFirst? separator cs).map fun (front, back) => (c :: front, back)

def splitLast? (separator : Char) : List Char → Option (List Char × List Char)
  | [] => none
  | c :: cs =>
    match splitLast? separator cs with
    | some (front, back) => some (c :: front, back)
    | none => if c = separator then some ([], cs) else none

def splitDots? : List Char → Option (List Char × List Char)
  | [] => none
  | '.' :: '.' :: cs => some ([], cs)
  | c :: cs => (splitDots? cs).map fun (front, back) => (c :: front, back)

def joinAll (separator : List Char) : List (List Char) → List Char
  | [] => []
  | [piece] => piece
  | piece :: pieces => piece ++ separator ++ joinAll separator pieces

/--
The lines of a text without their line endings.  A line feed ends a line, a carriage
return before it belongs to the ending, and there is no line after a final line feed.
-/
def linesOf (text : List Char) : List (List Char) :=
  let pieces := splitAll '\n' text
  let ended := pieces.dropLast.map fun piece =>
    if piece.getLast? = some '\r' then piece.dropLast else piece
  match pieces.getLast? with
  | none | some [] => ended
  | some last => ended ++ [last]

theorem splitAll_ne_nil (separator : Char) (cs : List Char) : splitAll separator cs ≠ [] := by
  cases cs with
  | nil => simp [splitAll]
  | cons c cs =>
    unfold splitAll
    split
    · simp
    · split <;> simp

theorem joinAll_splitAll (separator : Char) (cs : List Char) :
    joinAll [separator] (splitAll separator cs) = cs := by
  induction cs with
  | nil => rfl
  | cons c cs ih =>
    unfold splitAll
    split
    · next h =>
      cases hs : splitAll separator cs with
      | nil => exact absurd hs (splitAll_ne_nil separator cs)
      | cons piece pieces => simp [joinAll, ← hs, ih, h]
    · cases hs : splitAll separator cs with
      | nil => exact absurd hs (splitAll_ne_nil separator cs)
      | cons piece pieces =>
        rw [hs] at ih
        cases pieces with
        | nil => simpa [joinAll] using ih
        | cons next pieces => simpa [joinAll] using ih

end Sections
