import Sections.Markup.Tree

/-!
# The places of a text

Every place of a text is known by the characters and bytes before it and by its line and column.
-/

namespace Sections

structure Spot where
  index : Nat
  byte : Nat
  location : Location
  deriving DecidableEq, Repr, Inhabited

namespace Spot

def origin : Spot := ⟨0, 0, ⟨1, 1⟩⟩

def after (c : Char) (spot : Spot) : Spot :=
  { index := spot.index + 1
    byte := spot.byte + c.utf8Size
    location :=
      if c = '\n' then ⟨spot.location.line + 1, 1⟩
      else { spot.location with column := spot.location.column + c.utf8Size } }

def bytesTo (start stop : Spot) : Nat := stop.byte - start.byte

def linesTo (start stop : Spot) : Nat := stop.location.line - start.location.line

end Spot

structure Source where
  spots : Array Spot
  suffixes : Array (List Char)

namespace Source

def ofChars (text : List Char) : Source :=
  go .origin text #[] #[]
where
  go (spot : Spot) (text : List Char) (spots : Array Spot) (suffixes : Array (List Char)) :
    Source :=
    match text with
    | [] => ⟨spots.push spot, suffixes.push []⟩
    | c :: rest => go (spot.after c) rest (spots.push spot) (suffixes.push text)

def size (source : Source) : Nat := source.spots.size - 1

def spot (source : Source) (index : Nat) : Spot := source.spots.getD index default

def suffix (source : Source) (index : Nat) : List Char := source.suffixes.getD index []

def slice (source : Source) (start stop : Spot) : List Char :=
  (source.suffix start.index).take (stop.index - start.index)

end Source

end Sections
