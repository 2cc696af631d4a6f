import Mathlib.Data.List.TakeWhile
import Sections.Json.Reader
import Sections.Proofs.Text.Numeral

/-!
# Reading printed JSON

A value is read back from its printed forms, if its numbers are machine words.  What follows a value
inside an array or an object closes it: no number goes on there.  Where a printed form has blanks
makes no difference.
-/

namespace Sections.Json

def Closes (rest : List Char) : Prop :=
  ∀ c ∈ rest.head?, c = ',' ∨ c = ']' ∨ c = '\x7d' ∨ isSpace c

/-! ## Numbers -/

theorem cases_of_isSpace {c : Char} (hspace : isSpace c) :
    c = ' ' ∨ c = '\n' ∨ c = '\t' ∨ c = '\r' := by
  simpa [isSpace, or_assoc] using hspace

theorem Closes.isDigit {rest : List Char} (hrest : Closes rest) :
    ∀ c ∈ rest.head?, c.isDigit = false := by
  intro c hc
  rcases hrest c hc with rfl | rfl | rfl | hspace
  · rfl
  · rfl
  · rfl
  · rcases cases_of_isSpace hspace with rfl | rfl | rfl | rfl <;> rfl

theorem readDigits_append {digits rest : List Char} (hdigits : ∀ c ∈ digits, c.isDigit)
    (hne : digits ≠ []) (hrest : ∀ c ∈ rest.head?, c.isDigit = false) :
    readDigits (digits ++ rest) = some (digits, rest) := by
  have htake : rest.takeWhile Char.isDigit = [] := by
    cases rest with
    | nil => rfl
    | cons c rest => simp [hrest c rfl]
  have hdrop : rest.dropWhile Char.isDigit = rest := by
    cases rest with
    | nil => rfl
    | cons c rest => simp [hrest c rfl]
  simp [readDigits, List.takeWhile_append_of_pos hdigits, List.dropWhile_append_of_pos hdigits,
    htake, hdrop, hne]

theorem skipFraction_of_closes {rest : List Char} (hrest : Closes rest) :
    skipFraction rest = some (false, rest) := by
  cases rest with
  | nil => rfl
  | cons c rest =>
      rcases hrest c rfl with rfl | rfl | rfl | hspace
      · rfl
      · rfl
      · rfl
      · rcases cases_of_isSpace hspace with rfl | rfl | rfl | rfl <;> rfl

theorem skipExponent_of_closes {rest : List Char} (hrest : Closes rest) :
    skipExponent rest = some (false, rest) := by
  cases rest with
  | nil => rfl
  | cons c rest =>
      rcases hrest c rfl with rfl | rfl | rfl | hspace
      · rfl
      · rfl
      · rfl
      · rcases cases_of_isSpace hspace with rfl | rfl | rfl | rfl <;> rfl

theorem head_decimal_ne_zero {number : Nat} (hpos : 0 < number) :
    (Nat.toDigits 10 number).head? ≠ some '0' := by
  induction number using Nat.strongRecOn with
  | ind number ih =>
      by_cases hsmall : number < 10
      · rw [Nat.toDigits_of_lt_base hsmall]
        have hdigit : ∀ digit < 10, 0 < digit → Nat.digitChar digit ≠ '0' := by decide
        simpa using hdigit number hsmall hpos
      · have hhead := ih (number / 10) (by omega) (by omega)
        rw [Nat.toDigits_of_base_le (by decide) (by omega)]
        rw [List.head?_append, Option.or_of_isSome (by simp)]
        exact hhead

theorem readNumber_renderNumber {value : Option Nat} (hwords : ∀ word ∈ value, word ≤ largestWord)
    {rest : List Char} (hrest : Closes rest) :
    readNumber (renderNumber value ++ rest) = some (value, rest) := by
  have hskip := skipFraction_of_closes hrest
  have hskip' := skipExponent_of_closes hrest
  cases value with
  | none =>
      have hone : readDigits (['1'] ++ rest) = some (['1'], rest) :=
        readDigits_append (by simp) (by simp) hrest.isDigit
      simp only [renderNumber, List.cons_append, List.nil_append] at hone ⊢
      simp [readNumber, hone, hskip, hskip']
  | some word =>
      have hword := readWord?_decimal (hwords word rfl)
      rcases Nat.eq_zero_or_pos word with rfl | hpos
      · have hzero : renderNumber (some 0) = ['0'] := by decide
        simp only [hzero, List.cons_append, List.nil_append]
        simp [readNumber, hskip, hskip', readWord?, digitsValue]
      · have hread : readDigits (Nat.toDigits 10 word ++ rest) =
            some (Nat.toDigits 10 word, rest) :=
          readDigits_append (fun _ => isDigit_of_mem_decimal) Nat.toDigits_ne_nil hrest.isDigit
        have hhead := head_decimal_ne_zero hpos
        have hsign := notMem_decimal (c := '-') rfl word
        rw [renderNumber]
        cases hnumeral : Nat.toDigits 10 word with
        | nil => exact absurd hnumeral Nat.toDigits_ne_nil
        | cons first digits =>
            rw [hnumeral] at hread hword hhead hsign
            have hzero : first ≠ '0' := by simpa using hhead
            have hminus : first ≠ '-' := Ne.symm (List.ne_of_not_mem_cons hsign)
            rw [List.cons_append] at hread ⊢
            simp [readNumber, hzero, hminus, hread, hskip, hskip', hword]

/-! ## Strings -/

theorem paddedHex_of_lt {unit : Nat} (hunit : unit < 32) :
    (paddedHex 4 unit).toList =
        ['0', '0', Nat.digitChar (unit / 16), Nat.digitChar (unit % 16)] ∧
      hexUnit? '0' '0' (Nat.digitChar (unit / 16)) (Nat.digitChar (unit % 16)) = some unit := by
  have hall : ∀ unit < 32,
      List.replicate (4 - (Nat.toDigits 16 unit).length) '0' ++ Nat.toDigits 16 unit =
          ['0', '0', Nat.digitChar (unit / 16), Nat.digitChar (unit % 16)] ∧
        hexUnit? '0' '0' (Nat.digitChar (unit / 16)) (Nat.digitChar (unit % 16)) =
          some unit := by decide
  rw [paddedHex, String.toList_ofList]
  exact hall unit hunit

theorem escapedChar_cases (c : Char) :
    (∃ mark, mark ≠ 'u' ∧ escapedChar c = ['\\', mark] ∧ unescaped? mark = some c) ∨
      (∃ a b d e, escapedChar c = ['\\', 'u', a, b, d, e] ∧ hexUnit? a b d e = some c.toNat) ∨
        (escapedChar c = [c] ∧ c ≠ '"' ∧ c ≠ '\\' ∧ ¬c < ' ') := by
  unfold escapedChar
  split
  next hmark =>
    refine .inl ⟨c, ?_, rfl, ?_⟩
    · rintro rfl
      exact absurd hmark (by decide)
    · rcases hmark with rfl | rfl <;> rfl
  next hmark =>
    iterate 5
      split
      next hc => exact .inl ⟨_, by decide, rfl, by rw [hc]; rfl⟩
    split
    next hcontrol =>
      have hlt : c.toNat < 32 := hcontrol
      obtain ⟨hhex, hunit⟩ := paddedHex_of_lt hlt
      exact .inr (.inl ⟨_, _, _, _, by rw [hhex]; rfl, hunit⟩)
    next hcontrol =>
      rw [not_or] at hmark
      exact .inr (.inr ⟨rfl, hmark.1, hmark.2, hcontrol⟩)

theorem readUnits_escapedChar (c : Char) (rest : List Char) :
    readUnits (escapedChar c ++ rest) =
      (readUnits rest).map fun (units, rest) => (c.toNat :: units, rest) := by
  rcases escapedChar_cases c with ⟨mark, hmark, hescaped, hread⟩ |
    ⟨a, b, d, e, hescaped, hread⟩ | ⟨hescaped, hquote, hslash, hcontrol⟩ <;> rw [hescaped]
  · cases hrest : readUnits rest <;> simp [readUnits, hmark, hread, hrest]
  · cases hrest : readUnits rest <;> simp [readUnits, hread, hrest]
  · cases hrest : readUnits rest <;> simp [readUnits, hslash, hcontrol, hrest]

theorem readUnits_escaped (cs rest : List Char) :
    readUnits (cs.flatMap escapedChar ++ '"' :: rest) = some (cs.map Char.toNat, rest) := by
  induction cs with
  | nil => simp [readUnits]
  | cons c cs ih =>
      rw [List.flatMap_cons, List.append_assoc, readUnits_escapedChar, ih]
      rfl

theorem textOfUnits?_toNat (cs : List Char) : textOfUnits? (cs.map Char.toNat) = some cs := by
  induction cs with
  | nil => simp [textOfUnits?]
  | cons c cs ih =>
      have hvalid : c.toNat < 0xd800 ∨ 0xdfff < c.toNat := c.valid.imp id And.left
      rw [List.map_cons, textOfUnits?.eq_def]
      simp only
      rw [if_neg (by omega), if_neg (by omega), ih]
      simp

theorem renderString_eq_cons (text : Option String) :
    renderString text = '"' :: (renderString text).tail := by
  cases text <;> rfl

theorem readString_tail_renderString (text : Option String) (rest : List Char) :
    readString ((renderString text).tail ++ rest) = some (text, rest) := by
  cases text with
  | none =>
      have hunit : hexUnit? 'd' '8' '0' '0' = some 0xd800 := by decide
      have htext : textOfUnits? [0xd800] = none := by decide
      have hbody : (renderString none).tail = ['\\', 'u', 'd', '8', '0', '0', '"'] := by decide
      simp [readString, hbody, readUnits, hunit, htext]
  | some text =>
      have hbody : renderString (some text) = '"' :: (text.toList.flatMap escapedChar ++ ['"']) :=
        rfl
      have hunits := readUnits_escaped text.toList rest
      have htext := textOfUnits?_toNat text.toList
      rw [hbody, List.tail_cons, List.append_assoc, List.singleton_append, readString, hunits]
      simp only [bind, Option.bind, pure]
      rw [htext, Option.map_some, String.ofList_toList]

/-! ## Values -/

/-- The numbers in a value are machine words, as far as their values are kept. -/
inductive InWords : Json → Prop
  | null : InWords .null
  | bool (value : Bool) : InWords (.bool value)
  | number {value : Option Nat} (hwords : ∀ word ∈ value, word ≤ largestWord) :
    InWords (.number value)
  | string (value : Option String) : InWords (.string value)
  | array {items : List Json} (hitems : ∀ item ∈ items, InWords item) : InWords (.array items)
  | object {members : List (Option String × Json)}
    (hmembers : ∀ member ∈ members, InWords member.2) : InWords (.object members)

/-- Where blanks stand in a printed value. -/
structure Layout where
  gap : (level : Nat) → List Char
  space : List Char
  blank_gap : ∀ level, ∀ c ∈ gap level, isSpace c
  blank_space : ∀ c ∈ space, isSpace c

namespace Layout

def dense : Layout where
  gap := fun _ => []
  space := []
  blank_gap := by simp
  blank_space := by simp

def indented : Layout where
  gap := lineBreak
  space := [' ']
  blank_gap := by simp [lineBreak, isSpace]
  blank_space := by simp [isSpace]

theorem gap_dense (level : Nat) : dense.gap level = [] := rfl

theorem space_dense : dense.space = [] := rfl

theorem gap_indented (level : Nat) : indented.gap level = lineBreak level := rfl

theorem space_indented : indented.space = [' '] := rfl

mutual

def render (layout : Layout) (level : Nat) : Json → List Char
  | .array (item :: items) =>
    '[' :: layout.gap (level + 1) ++ layout.render (level + 1) item ++
      layout.renderItems level items
  | .object ((name, value) :: members) =>
    '\x7b' :: layout.gap (level + 1) ++ renderString name ++ ':' :: layout.space
      ++ layout.render (level + 1) value ++ layout.renderMembers level members
  | .null => Json.null.render
  | .bool value => (Json.bool value).render
  | .number value => (Json.number value).render
  | .string value => (Json.string value).render
  | .array [] => (Json.array []).render
  | .object [] => (Json.object []).render

def renderItems (layout : Layout) (level : Nat) : List Json → List Char
  | [] => layout.gap level ++ [']']
  | item :: items =>
    ',' :: layout.gap (level + 1) ++ layout.render (level + 1) item ++
      layout.renderItems level items

def renderMembers (layout : Layout) (level : Nat) : List (Option String × Json) → List Char
  | [] => layout.gap level ++ ['\x7d']
  | (name, value) :: members =>
    ',' :: layout.gap (level + 1) ++ renderString name ++ ':' :: layout.space
      ++ layout.render (level + 1) value ++ layout.renderMembers level members

end

mutual

theorem render_dense (level : Nat) : (value : Json) → dense.render level value = value.render
  | .array (item :: items) => by
      have hitem := render_dense (level + 1) item
      have hitems := renderItems_dense level items
      simp [render, Json.render, hitem, hitems, gap_dense]
  | .object ((name, value) :: members) => by
      have hvalue := render_dense (level + 1) value
      have hmembers := renderMembers_dense level members
      simp [render, Json.render, hvalue, hmembers, gap_dense, space_dense]
  | .null | .bool _ | .number _ | .string _ | .array [] | .object [] => by rw [render]

theorem renderItems_dense (level : Nat) : (items : List Json) →
    dense.renderItems level items = Json.renderItems items
  | [] => rfl
  | item :: items => by
      have hitem := render_dense (level + 1) item
      have hitems := renderItems_dense level items
      simp [renderItems, Json.renderItems, hitem, hitems, gap_dense]

theorem renderMembers_dense (level : Nat) : (members : List (Option String × Json)) →
    dense.renderMembers level members = Json.renderMembers members
  | [] => rfl
  | (name, value) :: members => by
      have hvalue := render_dense (level + 1) value
      have hmembers := renderMembers_dense level members
      simp [renderMembers, Json.renderMembers, hvalue, hmembers, gap_dense, space_dense]

end

mutual

theorem render_indented (level : Nat) : (value : Json) →
    indented.render level value = value.renderIndented level
  | .array (item :: items) => by
      have hitem := render_indented (level + 1) item
      have hitems := renderItems_indented level items
      simp [render, renderIndented, hitem, hitems, gap_indented]
  | .object ((name, value) :: members) => by
      have hvalue := render_indented (level + 1) value
      have hmembers := renderMembers_indented level members
      simp [render, renderIndented, hvalue, hmembers, gap_indented, space_indented]
  | .null | .bool _ | .number _ | .string _ | .array [] | .object [] => by
      rw [render, renderIndented]

theorem renderItems_indented (level : Nat) : (items : List Json) →
    indented.renderItems level items = renderIndentedItems level items
  | [] => rfl
  | item :: items => by
      have hitem := render_indented (level + 1) item
      have hitems := renderItems_indented level items
      simp [renderItems, renderIndentedItems, hitem, hitems, gap_indented]

theorem renderMembers_indented (level : Nat) : (members : List (Option String × Json)) →
    indented.renderMembers level members = renderIndentedMembers level members
  | [] => rfl
  | (name, value) :: members => by
      have hvalue := render_indented (level + 1) value
      have hmembers := renderMembers_indented level members
      simp [renderMembers, renderIndentedMembers, hvalue, hmembers, gap_indented, space_indented]

end

def ReadsBack (layout : Layout) (value : Json) : Prop :=
  ∀ level fuel rest, 2 * (layout.render level value).length ≤ fuel → Closes rest →
    readValue fuel (layout.render level value ++ rest) = some (value, rest)

end Layout

def StartsNumber (c : Char) : Prop := c = '-' ∨ c.isDigit

theorem StartsNumber.ne {c other : Char} (hc : StartsNumber c) (hminus : other ≠ '-')
    (hdigit : other.isDigit = false) : c ≠ other := by
  rintro rfl
  rcases hc with hc | hc
  · exact hminus hc
  · rw [hdigit] at hc
    cases hc

theorem exists_renderNumber_eq_cons (value : Option Nat) :
    ∃ c cs, renderNumber value = c :: cs ∧ StartsNumber c := by
  cases value with
  | none => exact ⟨_, _, rfl, .inl rfl⟩
  | some word =>
      cases hnumeral : Nat.toDigits 10 word with
      | nil => exact absurd hnumeral Nat.toDigits_ne_nil
      | cons c cs =>
          refine ⟨c, cs, by rw [renderNumber, hnumeral], .inr ?_⟩
          exact isDigit_of_mem_decimal (hnumeral ▸ List.mem_cons_self)

theorem skipSpace_cons {c : Char} (hc : isSpace c = false) (cs : List Char) :
    skipSpace (c :: cs) = c :: cs :=
  List.dropWhile_cons_of_neg (by simp [hc])

theorem skipSpace_append {blanks : List Char} (hblanks : ∀ c ∈ blanks, isSpace c)
    (cs : List Char) : skipSpace (blanks ++ cs) = skipSpace cs :=
  List.dropWhile_append_of_pos hblanks

section

variable {blanks : List Char} (hblanks : ∀ c ∈ blanks, isSpace c) (fuel : Nat) (cs : List Char)

include hblanks

theorem readValue_append : readValue fuel (blanks ++ cs) = readValue fuel cs := by
  cases fuel with
  | zero => rfl
  | succ fuel => rw [readValue, readValue, skipSpace_append hblanks]

theorem readItems_append : readItems fuel (blanks ++ cs) = readItems fuel cs := by
  cases fuel with
  | zero => rfl
  | succ fuel => rw [readItems, readItems, readValue_append hblanks]

theorem readMembers_append : readMembers fuel (blanks ++ cs) = readMembers fuel cs := by
  cases fuel with
  | zero => rfl
  | succ fuel => rw [readMembers, readMembers, skipSpace_append hblanks]

end

namespace Layout

variable {layout : Layout}

theorem exists_render_eq_cons (layout : Layout) (level : Nat) (value : Json) :
    ∃ c cs, layout.render level value = c :: cs ∧ isSpace c = false ∧ c ≠ ']' ∧ c ≠ '\x7d' := by
  cases value with
  | null => exact ⟨_, _, rfl, by decide⟩
  | bool flag => cases flag <;> exact ⟨_, _, rfl, by decide⟩
  | number value =>
      obtain ⟨c, cs, hvalue, hc⟩ := exists_renderNumber_eq_cons value
      refine ⟨c, cs, by rw [render, Json.render, hvalue], ?_, hc.ne (by decide) rfl,
        hc.ne (by decide) rfl⟩
      have hblank : c ≠ ' ' ∧ c ≠ '\n' ∧ c ≠ '\t' ∧ c ≠ '\r' :=
        ⟨hc.ne (by decide) rfl, hc.ne (by decide) rfl, hc.ne (by decide) rfl, hc.ne (by decide) rfl⟩
      simp [isSpace, hblank]
  | string value =>
      exact ⟨_, _, by rw [render, Json.render, renderString_eq_cons], by decide⟩
  | array items =>
      cases items with
      | nil => exact ⟨_, _, rfl, by decide⟩
      | cons item items =>
          exact ⟨_, _, by rw [render, List.cons_append, List.cons_append], by decide⟩
  | object members =>
      cases members with
      | nil => exact ⟨_, _, rfl, by decide⟩
      | cons member members =>
          exact ⟨_, _, by rw [render]; rfl, by decide⟩

theorem skipSpace_render (layout : Layout) (level : Nat) (value : Json) (rest : List Char) :
    skipSpace (layout.render level value ++ rest) = layout.render level value ++ rest := by
  obtain ⟨c, cs, hvalue, hc, -⟩ := layout.exists_render_eq_cons level value
  rw [hvalue, List.cons_append, skipSpace_cons hc]

theorem closes_gap (layout : Layout) (level : Nat) {cs : List Char} (hcs : Closes cs) :
    Closes (layout.gap level ++ cs) := by
  cases hgap : layout.gap level with
  | nil => exact hcs
  | cons c blanks =>
      have hblank : isSpace c := layout.blank_gap level c (hgap ▸ List.mem_cons_self)
      intro first hfirst
      obtain rfl : c = first := by simpa using hfirst
      exact .inr (.inr (.inr hblank))

theorem closes_renderItems (layout : Layout) (level : Nat) (items : List Json)
    (rest : List Char) : Closes (layout.renderItems level items ++ rest) := by
  cases items with
  | nil =>
      rw [renderItems, List.append_assoc]
      exact layout.closes_gap level (by simp [Closes])
  | cons item items => simp [Closes, renderItems]

theorem closes_renderMembers (layout : Layout) (level : Nat)
    (members : List (Option String × Json)) (rest : List Char) :
    Closes (layout.renderMembers level members ++ rest) := by
  cases members with
  | nil =>
      rw [renderMembers, List.append_assoc]
      exact layout.closes_gap level (by simp [Closes])
  | cons member members => simp [Closes, renderMembers]

theorem skipSpace_gap (layout : Layout) (level : Nat) {c : Char} (hc : isSpace c = false)
    (cs : List Char) : skipSpace (layout.gap level ++ c :: cs) = c :: cs := by
  rw [skipSpace_append (layout.blank_gap level), skipSpace_cons hc]

theorem readItems_render {item : Json} {items : List Json}
    (hitems : ∀ value ∈ item :: items, layout.ReadsBack value) {level fuel : Nat}
    (hfuel : 2 * (layout.render (level + 1) item ++ layout.renderItems level items).length ≤ fuel)
    (rest : List Char) :
    readItems fuel (layout.render (level + 1) item ++ layout.renderItems level items ++ rest) =
      some (item :: items, rest) := by
  induction items generalizing item fuel with
  | nil =>
      cases fuel with
      | zero => simp [renderItems] at hfuel
      | succ fuel =>
          simp only [renderItems, List.length_append, List.length_singleton] at hfuel
          have hread := hitems item List.mem_cons_self (level + 1) fuel _ (by omega)
            (layout.closes_renderItems level [] rest)
          have hclose := layout.skipSpace_gap level (c := ']') rfl rest
          rw [List.append_assoc, readItems, hread]
          simp [renderItems, hclose]
  | cons next items ih =>
      obtain ⟨hitem, hitems⟩ := List.forall_mem_cons.mp hitems
      cases fuel with
      | zero => simp [renderItems] at hfuel
      | succ fuel =>
          simp only [renderItems, List.length_append, List.length_cons] at hfuel
          have hread := hitem (level + 1) fuel _ (by omega)
            (layout.closes_renderItems level (next :: items) rest)
          have hlength : 2 * (layout.render (level + 1) next ++
              layout.renderItems level items).length ≤ fuel := by
            rw [List.length_append]
            omega
          have hnext := ih hitems hlength
          rw [← readItems_append (layout.blank_gap (level + 1))] at hnext
          rw [List.append_assoc, readItems, hread]
          simp only [renderItems, List.cons_append, List.append_assoc] at hnext ⊢
          simp [skipSpace_cons (c := ',') rfl, hnext]

theorem readMembers_succ {level fuel : Nat} {value : Json} {tail : List Char}
    (hread : readValue fuel (layout.render level value ++ tail) = some (value, tail))
    (name : Option String) :
    readMembers (fuel + 1)
        (renderString name ++ ':' :: layout.space ++ layout.render level value ++ tail) =
      match skipSpace tail with
      | ',' :: rest => do
        let (members, rest) ← readMembers fuel rest
        return ((name, value) :: members, rest)
      | '\x7d' :: rest => return ([(name, value)], rest)
      | _ => none := by
  have hname := readString_tail_renderString name
    (':' :: (layout.space ++ (layout.render level value ++ tail)))
  rw [← readValue_append layout.blank_space] at hread
  rw [renderString_eq_cons name]
  simp only [List.cons_append, List.append_assoc]
  rw [readMembers, skipSpace_cons rfl]
  simp only [hname, Option.bind_eq_bind, Option.bind_some]
  rw [skipSpace_cons rfl]
  exact congrArg (Option.bind · _) hread

theorem readMembers_render {name : Option String} {value : Json}
    {members : List (Option String × Json)}
    (hmembers : ∀ member ∈ (name, value) :: members, layout.ReadsBack member.2) {level fuel : Nat}
    (hfuel : 2 * (renderString name ++ ':' :: layout.space ++ layout.render (level + 1) value ++
      layout.renderMembers level members).length ≤ fuel) (rest : List Char) :
    readMembers fuel (renderString name ++ ':' :: layout.space ++
        layout.render (level + 1) value ++ layout.renderMembers level members ++ rest) =
      some ((name, value) :: members, rest) := by
  induction members generalizing name value fuel with
  | nil =>
      have hvalue : layout.ReadsBack value := hmembers _ List.mem_cons_self
      cases fuel with
      | zero => simp at hfuel
      | succ fuel =>
          simp only [List.length_append, List.length_cons] at hfuel
          have hread := hvalue (level + 1) fuel _ (by omega)
            (layout.closes_renderMembers level [] rest)
          rw [List.append_assoc, readMembers_succ hread, renderMembers, List.append_assoc,
            List.singleton_append, layout.skipSpace_gap level rfl]
          rfl
  | cons next members ih =>
      obtain ⟨hvalue, hmembers⟩ := List.forall_mem_cons.mp hmembers
      cases fuel with
      | zero => simp at hfuel
      | succ fuel =>
          simp only [renderMembers, List.length_append, List.length_cons] at hfuel
          have hread := hvalue (level + 1) fuel _ (by dsimp only; omega)
            (layout.closes_renderMembers level (next :: members) rest)
          have hlength : 2 * (renderString next.1 ++ ':' :: layout.space ++
              layout.render (level + 1) next.2 ++
              layout.renderMembers level members).length ≤ fuel := by
            simp only [List.length_append, List.length_cons]
            omega
          have hnext := ih hmembers hlength
          rw [← readMembers_append (layout.blank_gap (level + 1))] at hnext
          rw [List.append_assoc, readMembers_succ hread, renderMembers]
          simp only [List.cons_append, List.append_assoc, skipSpace_cons (c := ',') rfl] at hnext ⊢
          rw [hnext]
          rfl

theorem ReadsBack.of_succ {value : Json}
    (h : ∀ level fuel rest, 2 * (layout.render level value).length ≤ fuel + 1 → Closes rest →
      readValue (fuel + 1) (layout.render level value ++ rest) = some (value, rest)) :
    layout.ReadsBack value := by
  intro level fuel rest hfuel hrest
  obtain ⟨c, cs, hvalue, -⟩ := layout.exists_render_eq_cons level value
  cases fuel with
  | zero => simp [hvalue] at hfuel
  | succ fuel => exact h level fuel rest hfuel hrest

theorem readsBack (layout : Layout) {value : Json} (h : value.InWords) :
    layout.ReadsBack value := by
  induction h with refine .of_succ fun level fuel rest hfuel hrest => ?_
  | null => rfl
  | bool value => cases value <;> rfl
  | @number value hwords =>
      have hread := readNumber_renderNumber hwords hrest
      have hskip := layout.skipSpace_render level (.number value) rest
      obtain ⟨c, cs, hvalue, hc⟩ := exists_renderNumber_eq_cons value
      rw [render, Json.render] at hskip ⊢
      rw [readValue, hskip]
      rw [hvalue, List.cons_append] at hread ⊢
      split
      iterate 6
        next hother => exact absurd (List.cons.inj hother).1 (hc.ne (by decide) rfl)
      next =>
        rw [hread]
        rfl
  | string value =>
      rw [render, Json.render, renderString_eq_cons, List.cons_append, readValue,
        skipSpace_cons rfl]
      simp only [readString_tail_renderString]
      rfl
  | @array items hitems ih =>
      cases items with
      | nil => rfl
      | cons item items =>
          obtain ⟨c, cs, hitem, hspace, hclose, -⟩ := layout.exists_render_eq_cons (level + 1) item
          rw [render] at hfuel
          simp only [List.cons_append, List.append_assoc, List.length_cons, List.length_append]
            at hfuel
          have hlength : 2 * (layout.render (level + 1) item ++
              layout.renderItems level items).length ≤ fuel := by
            rw [List.length_append]
            omega
          have hread := readItems_render ih hlength rest
          rw [render]
          simp only [List.cons_append, List.append_assoc] at hread ⊢
          rw [readValue, skipSpace_cons rfl]
          rw [hitem, List.cons_append] at hread ⊢
          simpa [skipSpace_gap _ _ hspace, hclose] using hread
  | @object members hmembers ih =>
      cases members with
      | nil => rfl
      | cons member members =>
          obtain ⟨name, value⟩ := member
          rw [render] at hfuel
          simp only [List.cons_append, List.append_assoc, List.length_cons, List.length_append]
            at hfuel
          have hlength : 2 * (renderString name ++ ':' :: layout.space ++
              layout.render (level + 1) value ++
              layout.renderMembers level members).length ≤ fuel := by
            simp only [List.length_append, List.length_cons]
            omega
          have hread := readMembers_render ih hlength rest
          rw [render]
          simp only [List.cons_append, List.append_assoc] at hread ⊢
          rw [readValue, skipSpace_cons rfl]
          rw [renderString_eq_cons, List.cons_append] at hread ⊢
          simpa [skipSpace_gap _ _ (show isSpace '"' = false from rfl)] using hread

theorem read?_render (layout : Layout) {value : Json} (h : value.InWords) :
    read? (String.ofList (layout.render 0 value)) = some value := by
  have hread := layout.readsBack h 0 (2 * (layout.render 0 value).length + 1) [] (by omega)
    (by simp [Closes])
  rw [List.append_nil] at hread
  rw [read?, String.toList_ofList, hread]
  rfl

end Layout

theorem read?_compact {value : Json} (h : value.InWords) : read? value.compact = some value := by
  rw [compact, ← Layout.render_dense 0]
  exact Layout.dense.read?_render h

theorem read?_pretty {value : Json} (h : value.InWords) : read? value.pretty = some value := by
  rw [pretty, ← Layout.render_indented 0]
  exact Layout.indented.read?_render h

end Sections.Json
