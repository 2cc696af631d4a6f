/-!
# The bytes of a text

A text is written as the bytes of its characters in turn.  The byte of a line feed stands for
nothing else.
-/

namespace Sections

def bytesOf (text : String) : List UInt8 := text.toUTF8.data.toList

@[simp]
theorem bytesOf_append (front back : String) :
    bytesOf (front ++ back) = bytesOf front ++ bytesOf back := by
  simp [bytesOf]

@[simp]
theorem length_bytesOf (text : String) : (bytesOf text).length = text.utf8ByteSize := by
  simp [bytesOf]

theorem bytesOf_eq_flatMap (text : String) :
    bytesOf text = text.toList.flatMap String.utf8EncodeChar := by
  obtain ⟨cs, rfl⟩ : ∃ cs, text = String.ofList cs := ⟨text.toList, by simp⟩
  simp [bytesOf, List.utf8Encode]

def lineFeed : UInt8 := 10

theorem lineFeed_notMem_utf8EncodeChar {c : Char} (hc : c ≠ '\n') :
    lineFeed ∉ String.utf8EncodeChar c := by
  have hcode : c.val.toNat ≠ 10 := fun hcode => hc (Char.ext (UInt32.toNat_inj.mp hcode))
  fun_cases String.utf8EncodeChar with
  | case1 | case2 | case3 | case4 =>
      simp [lineFeed, ← UInt8.toNat_inj]
      omega

end Sections
