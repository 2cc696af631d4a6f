/-!
# UTF-8

Bytes that are no UTF-8 are refused with the place of the first fault.
-/

namespace Sections

instance decEqByteArray : DecidableEq ByteArray := fun a b =>
  decidable_of_iff (a.data = b.data) ⟨ByteArray.ext, congrArg ByteArray.data⟩

inductive Utf8Fault where
  | invalid (count index : Nat)
  | incomplete (index : Nat)
  deriving DecidableEq, Repr

namespace Utf8Fault

def message : Utf8Fault → String
  | invalid count index =>
    "invalid utf-8 sequence of " ++ toString count ++ " bytes from index " ++ toString index
  | incomplete index => "incomplete utf-8 byte sequence from index " ++ toString index

end Utf8Fault

/--
The bytes allowed at each place after the first byte of a character, or nothing if no
character begins with that byte.
-/
def followingBytes (first : UInt8) : Option (List (UInt8 × UInt8)) :=
  let any : UInt8 × UInt8 := (0x80, 0xbf)
  if first < 0x80 then some []
  else if first < 0xc2 then none
  else if first < 0xe0 then some [any]
  else if first = 0xe0 then some [(0xa0, 0xbf), any]
  else if first = 0xed then some [(0x80, 0x9f), any]
  else if first < 0xf0 then some [any, any]
  else if first = 0xf0 then some [(0x90, 0xbf), any, any]
  else if first < 0xf4 then some [any, any, any]
  else if first = 0xf4 then some [(0x80, 0x8f), any, any]
  else none

def allowedBytes : List (UInt8 × UInt8) → List UInt8 → Nat
  | (low, high) :: allowed, byte :: bytes =>
    if low ≤ byte ∧ byte ≤ high then allowedBytes allowed bytes + 1 else 0
  | _, _ => 0

def utf8Fault? (index : Nat) : List UInt8 → Option Utf8Fault
  | [] => none
  | first :: rest =>
    match followingBytes first with
    | none => some (.invalid 1 index)
    | some allowed =>
      let count := allowedBytes allowed rest
      if count = allowed.length then utf8Fault? (index + 1 + count) (rest.drop count)
      else if count = rest.length then some (.incomplete index)
      else some (.invalid (1 + count) index)
termination_by bytes => bytes.length
decreasing_by
  simp only [List.length_drop, List.length_cons]
  omega

def decodeUtf8 (bytes : ByteArray) : Except Utf8Fault String :=
  match String.fromUTF8? bytes with
  | some text => .ok text
  | none => .error ((utf8Fault? 0 bytes.toList).getD (.invalid 1 0))

def decodeUtf8Lossy (fuel : Nat) (bytes : ByteArray) : String :=
  match fuel with
  | 0 => ""
  | fuel + 1 =>
    match decodeUtf8 bytes with
    | .ok text => text
    | .error (.incomplete index) =>
      (String.fromUTF8? (bytes.extract 0 index)).getD "" ++ "\ufffd"
    | .error (.invalid count index) =>
      (String.fromUTF8? (bytes.extract 0 index)).getD "" ++ "\ufffd"
        ++ decodeUtf8Lossy fuel (bytes.extract (index + count) bytes.size)

end Sections
