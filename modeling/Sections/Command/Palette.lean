/-!
# Colors

Texts are colored by control sequences around them, or left plain.
-/

namespace Sections

inductive Color where
  | red
  | green
  | yellow
  | cyan
  | dimmed
  deriving DecidableEq, Repr

def Color.code : Color → String
  | red => "31"
  | green => "32"
  | yellow => "33"
  | cyan => "36"
  | dimmed => "2"

def controlSequence (code : String) : List Char := '\x1b' :: '[' :: code.toList ++ ['m']

def keepColor (start : List Char) : List Char → List Char
  | '\x1b' :: '[' :: '0' :: 'm' :: rest => controlSequence "0" ++ start ++ keepColor start rest
  | c :: rest => c :: keepColor start rest
  | [] => []

structure Palette where
  colored : Bool
  deriving DecidableEq, Repr

/--
The palette that environment variables ask for: colors may be forced or forbidden, and are
otherwise for terminals only.
-/
def Palette.ofEnvironment (force forbid wanted : Option String) (terminal : Bool) : Palette :=
  if force.any (· != "0") then ⟨true⟩
  else if forbid.isSome then ⟨false⟩
  else ⟨terminal && wanted != some "0"⟩

def Palette.paint (palette : Palette) (color : Color) (text : String) : String :=
  if palette.colored then
    let start := controlSequence color.code
    String.ofList (start ++ keepColor start text.toList ++ controlSequence "0")
  else text

end Sections
