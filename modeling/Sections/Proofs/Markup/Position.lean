import Mathlib.Data.List.DropRight
import Sections.Proofs.Markup.LineIndex
import Sections.Proofs.Text.Bytes

/-!
# Positions and offsets

A line starts where the text does or behind a line feed, and the table of line starts holds just
these offsets.  So the position of an offset leads back to it.  Any other position is clamped to the
text, unless the addition of its column leaves the machine word and there is no offset.
-/

namespace Sections

/-- The position of an offset, which may lie within a character. -/
def Location.ofOffset (text : String) (offset : Nat) : Location :=
  let before := (bytesOf text).take offset
  ⟨before.count lineFeed + 1, (before.rtakeWhile (· != lineFeed)).length + 1⟩

/-- Whether a line, counted from one, starts at an offset. -/
structure StartsLine (text : String) (line start : Nat) : Prop where
  number : ((bytesOf text).take start).count lineFeed + 1 = line
  opens : start = 0 ∨ (bytesOf text)[start - 1]? = some lineFeed

namespace StartsLine

variable {text : String} {line start index : Nat}

theorem zero_iff : StartsLine text line 0 ↔ line = 1 := by
  constructor
  · rintro ⟨rfl, -⟩
    rfl
  · rintro rfl
    exact ⟨rfl, .inl rfl⟩

theorem succ_iff : StartsLine text line (index + 1) ↔
    (bytesOf text)[index]? = some lineFeed ∧
      ((bytesOf text).take index).count lineFeed + 2 = line := by
  constructor
  · rintro ⟨rfl, hopens⟩
    have hbyte : (bytesOf text)[index]? = some lineFeed := by simpa using hopens
    exact ⟨hbyte, by simp [List.take_add_one, hbyte]⟩
  · rintro ⟨hbyte, rfl⟩
    exact ⟨by simp [List.take_add_one, hbyte], .inr hbyte⟩

theorem le (hstarts : StartsLine text line start) : start ≤ text.utf8ByteSize := by
  cases start with
  | zero => exact Nat.zero_le _
  | succ index =>
      rw [← length_bytesOf]
      exact (List.getElem?_eq_some_iff.mp (succ_iff.mp hstarts).1).1

theorem of_front {front : List UInt8} (hfront : front <+: bytesOf text)
    (hends : ∀ byte ∈ front.getLast?, byte = lineFeed) :
    StartsLine text (front.count lineFeed + 1) front.length := by
  refine ⟨by rw [← List.prefix_iff_eq_take.mp hfront], ?_⟩
  rcases List.eq_nil_or_concat front with rfl | ⟨above, byte, rfl⟩
  · exact .inl rfl
  · obtain rfl : byte = lineFeed := hends byte (by simp)
    obtain ⟨back, hback⟩ := hfront
    exact .inr (by simp [← hback])

end StartsLine

/-! ## The table of line starts -/

def lineEnds (offset : Nat) : List UInt8 → List Nat
  | [] => []
  | byte :: bytes =>
    if byte = lineFeed then (offset + 1) :: lineEnds (offset + 1) bytes
    else lineEnds (offset + 1) bytes

theorem lineEnds_append {front : List UInt8} (hfront : lineFeed ∉ front) (offset : Nat)
    (back : List UInt8) :
    lineEnds offset (front ++ back) = lineEnds (offset + front.length) back := by
  induction front generalizing offset with
  | nil => rfl
  | cons byte front ih =>
      obtain ⟨hbyte, hfront⟩ : lineFeed ≠ byte ∧ lineFeed ∉ front := by simpa using hfront
      rw [List.cons_append, lineEnds, if_neg (Ne.symm hbyte), ih hfront, List.length_cons,
        Nat.add_assoc, Nat.add_comm 1]

theorem laterLineStarts_eq (offset : Nat) (cs : List Char) :
    laterLineStarts offset cs = lineEnds offset (cs.flatMap String.utf8EncodeChar) := by
  induction cs generalizing offset with
  | nil => rfl
  | cons c cs ih =>
      rw [laterLineStarts, List.flatMap_cons]
      by_cases hc : c = '\n'
      · subst hc
        rw [if_pos rfl, ih]
        rfl
      · rw [if_neg hc, ih, lineEnds_append (lineFeed_notMem_utf8EncodeChar hc),
          String.length_utf8EncodeChar]

theorem length_lineEnds (offset : Nat) (bytes : List UInt8) :
    (lineEnds offset bytes).length = bytes.count lineFeed := by
  induction bytes generalizing offset with
  | nil => rfl
  | cons byte bytes ih =>
      rw [lineEnds]
      by_cases hbyte : byte = lineFeed <;> simp [hbyte, ih]

theorem lineEnds_getElem?_eq_some_iff {bytes : List UInt8} {offset number start : Nat} :
    (lineEnds offset bytes)[number]? = some start ↔
      ∃ index, offset + index + 1 = start ∧ bytes[index]? = some lineFeed ∧
        (bytes.take index).count lineFeed = number := by
  induction bytes generalizing offset number with
  | nil => simp [lineEnds]
  | cons byte bytes ih =>
      rw [lineEnds, ← Nat.or_exists_add_one]
      by_cases hbyte : byte = lineFeed
      · cases number with
        | zero => simp [hbyte]
        | succ number => simp [hbyte, ih, Nat.add_right_comm, Nat.add_assoc]
      · simp [hbyte, ih, Nat.add_right_comm, Nat.add_assoc]

namespace LineIndex

variable {text : String} {location : Location} {start : Nat}

theorem lineStarts_ofText (text : String) :
    (ofText text).lineStarts = 0 :: lineEnds 0 (bytesOf text) := by
  rw [bytesOf_eq_flatMap, ← laterLineStarts_eq]
  rfl

theorem length_lineStarts (text : String) :
    (ofText text).lineStarts.length = (bytesOf text).count lineFeed + 1 := by
  rw [lineStarts_ofText, List.length_cons, length_lineEnds]

theorem lineStarts_getElem?_eq_some_iff {number : Nat} :
    (ofText text).lineStarts[number]? = some start ↔ StartsLine text (number + 1) start := by
  rw [lineStarts_ofText]
  cases start with
  | zero => cases number <;> simp [StartsLine.zero_iff, lineEnds_getElem?_eq_some_iff]
  | succ index =>
      cases number <;> simp [StartsLine.succ_iff, lineEnds_getElem?_eq_some_iff]

theorem exists_startsLine {line : Nat} (hline : line < (bytesOf text).count lineFeed + 1) :
    ∃ start, StartsLine text (line + 1) start := by
  rw [← length_lineStarts] at hline
  exact ⟨_, lineStarts_getElem?_eq_some_iff.mp (List.getElem?_eq_getElem hline)⟩

theorem offset?_of_startsLine (hstarts : StartsLine text (max location.line 1) start) :
    (ofText text).offset? location =
      if start + (location.column - 1) < wordSize then
        some (min (start + (location.column - 1)) text.utf8ByteSize)
      else none := by
  have hline : location.line - 1 + 1 = max location.line 1 := by omega
  rw [← hline] at hstarts
  rw [offset?, lineStarts_getElem?_eq_some_iff.mpr hstarts]
  rfl

theorem offset?_of_no_line (hline : (bytesOf text).count lineFeed + 1 < location.line) :
    (ofText text).offset? location = some text.utf8ByteSize := by
  have hnone : (ofText text).lineStarts[location.line - 1]? = none := by
    rw [List.getElem?_eq_none_iff, length_lineStarts]
    omega
  rw [offset?, hnone]
  rfl

theorem isSome_offset? (hcolumn : text.utf8ByteSize + location.column < wordSize) :
    ((ofText text).offset? location).isSome := by
  rw [offset?]
  cases hstart : (ofText text).lineStarts[location.line - 1]? with
  | none => rfl
  | some start =>
      have hle := (lineStarts_getElem?_eq_some_iff.mp hstart).le
      have hfits : start + (location.column - 1) < wordSize := by omega
      simp [hfits]

/-! ## Positions of offsets -/

theorem exists_finished_lines (bytes : List UInt8) :
    ∃ front, front ++ bytes.rtakeWhile (· != lineFeed) = bytes ∧
      (∀ byte ∈ front.getLast?, byte = lineFeed) ∧
      front.count lineFeed = bytes.count lineFeed := by
  have hparts := List.rdropWhile_append_rtakeWhile (p := (· != lineFeed)) (l := bytes)
  refine ⟨_, hparts, ?_, ?_⟩
  · intro byte hbyte
    obtain ⟨hne, rfl⟩ := List.mem_getLast?_eq_getLast hbyte
    simpa using List.rdropWhile_last_not (· != lineFeed) bytes hne
  · have hrun : (bytes.rtakeWhile (· != lineFeed)).count lineFeed = 0 := by
      rw [List.count_eq_zero]
      intro hmem
      simpa using List.mem_rtakeWhile_imp hmem
    conv_rhs => rw [← hparts, List.count_append, hrun, Nat.add_zero]

theorem exists_startsLine_ofOffset {offset : Nat} (hoffset : offset ≤ text.utf8ByteSize) :
    ∃ start, StartsLine text (Location.ofOffset text offset).line start ∧
      start + ((Location.ofOffset text offset).column - 1) = offset := by
  obtain ⟨front, hparts, hends, hcount⟩ := exists_finished_lines ((bytesOf text).take offset)
  have hfront : front <+: bytesOf text :=
    (List.prefix_append front _).trans (hparts ▸ List.take_prefix offset (bytesOf text))
  refine ⟨front.length, ?_, ?_⟩
  · rw [Location.ofOffset, ← hcount]
    exact .of_front hfront hends
  · have hlength := congrArg List.length hparts
    rw [List.length_append, List.length_take, length_bytesOf, Nat.min_eq_left hoffset] at hlength
    exact hlength

theorem offset?_ofOffset {offset : Nat} (hlength : text.utf8ByteSize < wordSize)
    (hoffset : offset ≤ text.utf8ByteSize) :
    (ofText text).offset? (.ofOffset text offset) = some offset := by
  obtain ⟨start, hstarts, hsum⟩ := exists_startsLine_ofOffset hoffset
  have hline : (Location.ofOffset text offset).line =
      max (Location.ofOffset text offset).line 1 :=
    (Nat.max_eq_left (Nat.le_add_left 1 _)).symm
  rw [offset?_of_startsLine (hline ▸ hstarts), hsum, if_pos (by omega), Nat.min_eq_left hoffset]

/--
The position of an offset leads back to the offset, and the range between two of them to
the span between the offsets.  Offsets within a character are no exception.  The bound on the
text is one that a text in memory keeps, as its length is a machine word.
-/
theorem positions_lead_back_to_offsets (text : String) (hlength : text.utf8ByteSize < wordSize) :
    (∀ offset ≤ text.utf8ByteSize,
        (ofText text).offset? (.ofOffset text offset) = some offset) ∧
      ∀ first last, first ≤ last → last ≤ text.utf8ByteSize →
        (ofText text).span? ⟨.ofOffset text first, .ofOffset text last⟩ =
          some ⟨first, last⟩ := by
  refine ⟨fun offset hoffset => offset?_ofOffset hlength hoffset, ?_⟩
  intro first last hle hlast
  rw [span?, offset?_ofOffset hlength (hle.trans hlast), offset?_ofOffset hlength hlast]
  exact congrArg (fun stop => some (Span.mk first stop)) (Nat.max_eq_left hle)

theorem span_from_within_character :
    "ab\n😀x\n".utf8ByteSize < wordSize ∧ Location.ofOffset "ab\n😀x\n" 5 = ⟨2, 3⟩ ∧
      Location.ofOffset "ab\n😀x\n" 9 = ⟨3, 1⟩ ∧
      (ofText "ab\n😀x\n").span? ⟨⟨2, 3⟩, ⟨3, 1⟩⟩ = some ⟨5, 9⟩ := by
  have hlength : "ab\n😀x\n".utf8ByteSize < wordSize := by decide
  obtain ⟨-, hspan⟩ := positions_lead_back_to_offsets "ab\n😀x\n" hlength
  have hfirst : Location.ofOffset "ab\n😀x\n" 5 = ⟨2, 3⟩ := by decide
  have hlast : Location.ofOffset "ab\n😀x\n" 9 = ⟨3, 1⟩ := by decide
  refine ⟨hlength, hfirst, hlast, ?_⟩
  rw [← hfirst, ← hlast]
  exact hspan 5 9 (by decide) (by decide)

/-! ## Any positions -/

/--
A position on a line has an offset exactly if its column can be added to the start of the
line within a machine word.  The offset is the sum, clamped to the text, and never before the
line.  A position on a line that is not there leads to the end of the text.
-/
theorem offset_is_clamped_iff (text : String) (location : Location) :
    (max location.line 1 ≤ (bytesOf text).count lineFeed + 1 →
      ∃ start, StartsLine text (max location.line 1) start) ∧
    (∀ start, StartsLine text (max location.line 1) start →
      let sum := start + (max location.column 1 - 1)
      ((ofText text).offset? location = some (min sum text.utf8ByteSize) ↔ sum < wordSize) ∧
        (wordSize ≤ sum → (ofText text).offset? location = none) ∧
        ∀ offset, (ofText text).offset? location = some offset → start ≤ offset) ∧
    ((bytesOf text).count lineFeed + 1 < max location.line 1 →
      (ofText text).offset? location = some text.utf8ByteSize) := by
  refine ⟨?_, ?_, ?_⟩
  · intro hline
    obtain ⟨number, hnumber⟩ : ∃ number, max location.line 1 = number + 1 :=
      ⟨max location.line 1 - 1, by omega⟩
    rw [hnumber] at hline ⊢
    exact exists_startsLine hline
  · intro start hstarts sum
    have hstart := hstarts.le
    have hsum : start + (location.column - 1) = sum := by omega
    rw [offset?_of_startsLine hstarts, hsum]
    by_cases hfits : sum < wordSize
    · refine ⟨by simp [hfits], fun hlarge => absurd hfits (Nat.not_lt.mpr hlarge), ?_⟩
      intro offset hoffset
      obtain rfl : min sum text.utf8ByteSize = offset := by simpa [hfits] using hoffset
      omega
    · simp [hfits]
  · intro hline
    exact offset?_of_no_line (by omega)

example : (ofText "ab\n😀x\n").offset? ⟨2, 99⟩ = some 9 := by decide

/-- The last column of the second line has no offset, though its line is there. -/
theorem last_column_has_no_offset :
    let location : Location := ⟨2, wordSize - 1⟩
    StartsLine "a\nb" 2 2 ∧ location.column < wordSize ∧
      (ofText "a\nb").offset? location = none ∧
      (ofText "a\nb").offset? location ≠
        some (min (2 + (max location.column 1 - 1)) "a\nb".utf8ByteSize) := by
  exact ⟨⟨by decide, by decide⟩, by decide, by decide, by decide⟩

end LineIndex

end Sections
