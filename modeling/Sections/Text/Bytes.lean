/-!
# Texts measured in bytes

Offsets and lengths count UTF-8 bytes.  A text is cut at a byte offset only where the offset is the
boundary between two characters.
-/

namespace Sections

def byteLength : List Char → Nat
  | [] => 0
  | c :: cs => c.utf8Size + byteLength cs

/-- Cuts the characters after exactly `count` bytes, if that is a character boundary. -/
def cutAt (count : Nat) : List Char → Option (List Char × List Char)
  | [] => if count = 0 then some ([], []) else none
  | c :: cs =>
    if count = 0 then some ([], c :: cs)
    else if c.utf8Size ≤ count then
      (cutAt (count - c.utf8Size) cs).map fun (front, back) => (c :: front, back)
    else none

@[simp] theorem byteLength_nil : byteLength [] = 0 := rfl

@[simp] theorem byteLength_cons (c : Char) (cs : List Char) :
    byteLength (c :: cs) = c.utf8Size + byteLength cs := rfl

theorem byteLength_append (front back : List Char) :
    byteLength (front ++ back) = byteLength front + byteLength back := by
  induction front with
  | nil => simp
  | cons c front ih => simp [ih, Nat.add_assoc]

theorem cutAt_eq_some_iff {count : Nat} {cs front back : List Char} :
    cutAt count cs = some (front, back) ↔ front ++ back = cs ∧ byteLength front = count := by
  induction cs generalizing count front with
  | nil =>
    by_cases h : count = 0
    · constructor
      · simp only [cutAt, h, if_true, Option.some.injEq, Prod.mk.injEq]
        rintro ⟨rfl, rfl⟩
        simp
      · rintro ⟨hcs, -⟩
        obtain ⟨rfl, rfl⟩ := List.append_eq_nil_iff.1 hcs
        simp [cutAt, h]
    · constructor
      · simp [cutAt, h]
      · rintro ⟨hcs, hlen⟩
        obtain ⟨rfl, rfl⟩ := List.append_eq_nil_iff.1 hcs
        exact absurd hlen.symm h
  | cons c cs ih =>
    have hpos : 0 < c.utf8Size := c.utf8Size_pos
    by_cases h : count = 0
    · subst h
      cases front with
      | nil => simp [cutAt, eq_comm]
      | cons d front => simp [cutAt]; intro _ _; have := d.utf8Size_pos; omega
    · by_cases hle : c.utf8Size ≤ count
      · simp only [cutAt, h, if_false, hle, if_true, Option.map_eq_some_iff, Prod.mk.injEq]
        constructor
        · rintro ⟨⟨front', back'⟩, hcut, rfl, rfl⟩
          obtain ⟨rfl, hlen⟩ := ih.1 hcut
          refine ⟨rfl, ?_⟩
          simp only [byteLength_cons]
          omega
        · rintro ⟨hcs, hlen⟩
          cases front with
          | nil => exact absurd hlen.symm h
          | cons d front =>
            simp only [List.cons_append, List.cons.injEq] at hcs
            obtain ⟨rfl, hcs⟩ := hcs
            refine ⟨(front, back), ih.2 ⟨hcs, ?_⟩, rfl, rfl⟩
            simp only [byteLength_cons] at hlen
            omega
      · simp only [cutAt, h, if_false, hle]
        constructor
        · intro hnone; exact absurd hnone (by simp)
        · rintro ⟨hcs, hlen⟩
          cases front with
          | nil => exact absurd hlen.symm h
          | cons d front =>
            simp only [List.cons_append, List.cons.injEq] at hcs
            obtain ⟨rfl, -⟩ := hcs
            simp only [byteLength_cons] at hlen
            omega

end Sections
