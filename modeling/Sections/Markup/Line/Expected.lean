import Sections.Markup.Token

/-!
# Expected block tokens
-/

namespace Sections

structure Expected where
  bits : Nat
  deriving DecidableEq, Repr, Inhabited

namespace Expected

def ofTokens (bits : Nat) : Expected := ⟨bits % Nat.pow 2 BlockToken.all.length⟩

def isEmpty (expected : Expected) : Bool := expected.bits == 0

def contains (expected : Expected) (token : BlockToken) : Bool := expected.bits.testBit token.code

def containsAny (expected : Expected) (tokens : List BlockToken) : Bool :=
  tokens.any expected.contains

def ofList (tokens : List BlockToken) : Expected :=
  ⟨tokens.foldl (fun bits token => bits ||| (1 <<< token.code)) 0⟩

def interrupting : Expected :=
  ofList <| [.quoteStart] ++ [1, 2, 3, 4, 5, 6].map .heading
    ++ [.underline 1, .underline 2, .thematicBreak] ++
      BlockToken.listMarkers.map (.listMarker · false)
    ++ [.fenceStart .backtick, .fenceStart .tilde, .blankLine]
    ++ [.raw, .comment, .instruction, .declaration, .cdata, .element].map .htmlStart ++
      [.tableStart]

end Expected

end Sections
