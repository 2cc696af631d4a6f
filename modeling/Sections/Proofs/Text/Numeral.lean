import Sections.Text.Numeral

/-!
# Numerals

A numeral determines its number, with zeros in front too.  Decimal numerals consist of digits only.
-/

namespace Sections

theorem eq_of_decimal_eq {first second : Nat}
    (h : Nat.toDigits 10 first = Nat.toDigits 10 second) : first = second := by
  rw [← Nat.ofDigitChars_ten_toDigits (n := first), h, Nat.ofDigitChars_ten_toDigits]

theorem isDigit_of_mem_decimal {number : Nat} {c : Char} (hc : c ∈ Nat.toDigits 10 number) :
    c.isDigit :=
  Nat.isDigit_of_mem_toDigits (by decide) (by decide) hc

theorem notMem_decimal {c : Char} (hc : c.isDigit = false) (number : Nat) :
    c ∉ Nat.toDigits 10 number := by
  intro hmem
  have hdigit := isDigit_of_mem_decimal hmem
  simp [hc] at hdigit

theorem hyphen_notMem_decimal (number : Nat) : '-' ∉ Nat.toDigits 10 number :=
  notMem_decimal rfl number

theorem digitsValue_decimal (number : Nat) : digitsValue (Nat.toDigits 10 number) = number := by
  have hstep : (fun value (digit : Char) => value * 10 + (digit.toNat - '0'.toNat)) =
      fun value digit => 10 * value + (digit.toNat - '0'.toNat) := by
    funext value digit
    rw [Nat.mul_comm]
  rw [digitsValue, hstep]
  exact Nat.ofDigitChars_ten_toDigits

theorem readWord?_decimal {number : Nat} (hword : number ≤ largestWord) :
    readWord? (Nat.toDigits 10 number) = some number := by
  have hsign : ∀ rest, Nat.toDigits 10 number ≠ '+' :: rest := by
    intro rest hrest
    exact notMem_decimal (c := '+') rfl number (by simp [hrest])
  have hall : (Nat.toDigits 10 number).all Char.isDigit :=
    List.all_eq_true.mpr fun _ => isDigit_of_mem_decimal
  have hne : (Nat.toDigits 10 number).isEmpty = false := by simp
  unfold readWord?
  split
  · next rest hrest => exact absurd hrest (hsign rest)
  · simp [hne, hall, digitsValue_decimal, hword]

theorem le_of_readWord?_eq_some {cs : List Char} {number : Nat} (h : readWord? cs = some number) :
    number ≤ largestWord := by
  simp only [readWord?, Option.ite_none_left_eq_some, Option.ite_none_right_eq_some] at h
  obtain ⟨-, hword, hvalue⟩ := h
  rw [Option.some.injEq] at hvalue
  rwa [hvalue] at hword

theorem isDigit_of_mem_paddedDecimal {width number : Nat} {c : Char}
    (hmem : c ∈ (paddedDecimal width number).toList) : c.isDigit := by
  rw [paddedDecimal, String.toList_ofList, List.mem_append, List.mem_replicate] at hmem
  rcases hmem with ⟨-, rfl⟩ | hdigit
  · rfl
  · exact isDigit_of_mem_decimal hdigit

theorem eq_of_paddedDecimal_eq {width first second : Nat}
    (h : paddedDecimal width first = paddedDecimal width second) : first = second := by
  have hvalue (number : Nat) :
      Nat.ofDigitChars 10 (paddedDecimal width number).toList 0 = number := by
    rw [paddedDecimal, String.toList_ofList, Nat.ofDigitChars_append,
      Nat.ofDigitChars_replicate_zero, Nat.mul_zero, Nat.ofDigitChars_ten_toDigits]
  rw [← hvalue first, h, hvalue second]

/-! ## Hexadecimal numerals -/

def hexValue (digits : List Char) : Nat :=
  digits.foldl (fun value digit => value * 16 + (hexDigit? digit).getD 0) 0

theorem hexDigit?_digitChar {digit : Nat} (hdigit : digit < 16) :
    hexDigit? digit.digitChar = some digit := by
  revert digit
  decide

theorem hexValue_concat (front : List Char) {digit : Nat} (hdigit : digit < 16) :
    hexValue (front ++ [digit.digitChar]) = hexValue front * 16 + digit := by
  simp [hexValue, hexDigit?_digitChar hdigit]

theorem hexValue_hexadecimal (number : Nat) : hexValue (Nat.toDigits 16 number) = number := by
  induction number using Nat.strongRecOn with
  | ind number ih =>
      by_cases hsmall : number < 16
      · rw [Nat.toDigits_of_lt_base hsmall, ← List.nil_append [_], hexValue_concat [] hsmall]
        simp [hexValue]
      · have hdigit : number % 16 < 16 := Nat.mod_lt number (by decide)
        rw [Nat.toDigits_of_base_le (by decide) (Nat.not_lt.mp hsmall), hexValue_concat _ hdigit,
          ih (number / 16) (by omega)]
        omega

theorem hexValue_zeros_append (zeros : Nat) (digits : List Char) :
    hexValue (List.replicate zeros '0' ++ digits) = hexValue digits := by
  induction zeros with
  | zero => rfl
  | succ zeros ih => exact ih

theorem eq_of_paddedHex_eq {width first second : Nat}
    (h : paddedHex width first = paddedHex width second) : first = second := by
  have hvalue (number : Nat) : hexValue (paddedHex width number).toList = number := by
    rw [paddedHex, String.toList_ofList, hexValue_zeros_append, hexValue_hexadecimal]
  rw [← hvalue first, h, hvalue second]

/-! ## Negative numbers -/

theorem toList_int (number : Int) :
    (toString number).toList =
      if number < 0 then '-' :: Nat.toDigits 10 number.natAbs
      else Nat.toDigits 10 number.natAbs := by
  cases number with
  | ofNat number =>
      rw [if_neg (by simp)]
      simp [Int.toString_eq_repr, Int.repr]
  | negSucc number =>
      rw [if_pos (Int.negSucc_lt_zero number)]
      simp [Int.toString_eq_repr, Int.repr]

theorem isDigit_or_eq_hyphen_of_mem_int {number : Int} {c : Char}
    (hmem : c ∈ (toString number).toList) : c.isDigit ∨ c = '-' := by
  rw [toList_int] at hmem
  split at hmem
  · rcases List.mem_cons.mp hmem with hhyphen | hdigits
    · exact .inr hhyphen
    · exact .inl (isDigit_of_mem_decimal hdigits)
  · exact .inl (isDigit_of_mem_decimal hmem)

theorem eq_of_toString_int_eq {first second : Int} (h : toString first = toString second) :
    first = second := by
  have hchars := congrArg String.toList h
  rw [toList_int, toList_int] at hchars
  by_cases hfirst : first < 0 <;> by_cases hsecond : second < 0
  · rw [if_pos hfirst, if_pos hsecond] at hchars
    have habs := eq_of_decimal_eq (List.cons.inj hchars).2
    omega
  · rw [if_pos hfirst, if_neg hsecond] at hchars
    exact absurd (hchars ▸ List.mem_cons_self) (hyphen_notMem_decimal second.natAbs)
  · rw [if_neg hfirst, if_pos hsecond] at hchars
    exact absurd (hchars ▸ List.mem_cons_self) (hyphen_notMem_decimal first.natAbs)
  · rw [if_neg hfirst, if_neg hsecond] at hchars
    have habs := eq_of_decimal_eq hchars
    omega

end Sections
