import Sections.Json.Record
import Sections.Proofs.Json.RoundTrip

/-!
# What is read from JSON

Whatever a text spells, the numbers in the value that is read are machine words, and so are those in
its fields.
-/

namespace Sections.Json

theorem le_of_readNumber_eq_some {cs rest : List Char} {value : Option Nat}
    (hread : readNumber cs = some (value, rest)) : ∀ word ∈ value, word ≤ largestWord := by
  have hwords (marked : Bool) (digits : List Char) :
      ∀ word ∈ (if marked then none else readWord? digits), word ≤ largestWord := by
    intro word hword
    cases marked with
    | true => cases hword
    | false => exact le_of_readWord?_eq_some hword
  simp only [readNumber] at hread
  split at hread
  all_goals
    obtain ⟨⟨digits, _⟩, -, hread⟩ := Option.bind_eq_some_iff.mp hread
    obtain ⟨⟨fraction, _⟩, -, hread⟩ := Option.bind_eq_some_iff.mp hread
    obtain ⟨⟨exponent, _⟩, -, hread⟩ := Option.bind_eq_some_iff.mp hread
    cases hread
    exact hwords _ digits

section

variable {fuel : Nat}

theorem inWords_of_readValue
    (hitems : ∀ {cs items rest}, readItems fuel cs = some (items, rest) →
      ∀ item ∈ items, item.InWords)
    (hmembers : ∀ {cs members rest}, readMembers fuel cs = some (members, rest) →
      ∀ member ∈ members, member.2.InWords)
    {cs rest : List Char} {value : Json} (hread : readValue (fuel + 1) cs = some (value, rest)) :
    value.InWords := by
  rw [readValue] at hread
  split at hread
  · obtain ⟨⟨text, _⟩, -, hread⟩ := Option.map_eq_some_iff.mp hread
    cases hread
    exact .string text
  · split at hread
    · cases hread
      exact .array (by simp)
    · obtain ⟨⟨items, _⟩, hfound, hread⟩ := Option.map_eq_some_iff.mp hread
      cases hread
      exact .array (hitems hfound)
  · split at hread
    · cases hread
      exact .object (by simp)
    · obtain ⟨⟨members, _⟩, hfound, hread⟩ := Option.map_eq_some_iff.mp hread
      cases hread
      exact .object (hmembers hfound)
  · cases hread
    exact .null
  · cases hread
    exact .bool true
  · cases hread
    exact .bool false
  · obtain ⟨⟨number, _⟩, hfound, hread⟩ := Option.map_eq_some_iff.mp hread
    cases hread
    exact .number (le_of_readNumber_eq_some hfound)

theorem inWords_of_readItems
    (hvalue : ∀ {cs value rest}, readValue fuel cs = some (value, rest) → value.InWords)
    (hitems : ∀ {cs items rest}, readItems fuel cs = some (items, rest) →
      ∀ item ∈ items, item.InWords)
    {cs rest : List Char} {items : List Json}
    (hread : readItems (fuel + 1) cs = some (items, rest)) : ∀ item ∈ items, item.InWords := by
  rw [readItems] at hread
  obtain ⟨⟨first, _⟩, hfirst, hread⟩ := Option.bind_eq_some_iff.mp hread
  dsimp only at hread
  split at hread
  · obtain ⟨⟨others, _⟩, hothers, hread⟩ := Option.bind_eq_some_iff.mp hread
    cases hread
    exact List.forall_mem_cons.mpr ⟨hvalue hfirst, hitems hothers⟩
  · cases hread
    exact List.forall_mem_singleton.mpr (hvalue hfirst)
  · cases hread

theorem inWords_of_readMembers
    (hvalue : ∀ {cs value rest}, readValue fuel cs = some (value, rest) → value.InWords)
    (hmembers : ∀ {cs members rest}, readMembers fuel cs = some (members, rest) →
      ∀ member ∈ members, member.2.InWords)
    {cs rest : List Char} {members : List (Option String × Json)}
    (hread : readMembers (fuel + 1) cs = some (members, rest)) :
    ∀ member ∈ members, member.2.InWords := by
  rw [readMembers] at hread
  split at hread
  · obtain ⟨⟨name, _⟩, -, hread⟩ := Option.bind_eq_some_iff.mp hread
    dsimp only at hread
    split at hread
    · obtain ⟨⟨first, _⟩, hfirst, hread⟩ := Option.bind_eq_some_iff.mp hread
      dsimp only at hread
      split at hread
      · obtain ⟨⟨others, _⟩, hothers, hread⟩ := Option.bind_eq_some_iff.mp hread
        cases hread
        exact List.forall_mem_cons.mpr ⟨hvalue hfirst, hmembers hothers⟩
      · cases hread
        exact List.forall_mem_singleton.mpr (hvalue hfirst)
      · cases hread
    · cases hread
  · cases hread

end

theorem inWords_of_read (fuel : Nat) :
    (∀ {cs value rest}, readValue fuel cs = some (value, rest) → value.InWords) ∧
      (∀ {cs items rest}, readItems fuel cs = some (items, rest) → ∀ item ∈ items, item.InWords) ∧
        ∀ {cs members rest}, readMembers fuel cs = some (members, rest) →
          ∀ member ∈ members, member.2.InWords := by
  induction fuel with
  | zero =>
      refine ⟨?_, ?_, ?_⟩ <;> intro _ _ _ hread
      · cases hread
      · cases hread
      · cases hread
  | succ fuel ih =>
      obtain ⟨hvalue, hitems, hmembers⟩ := ih
      exact ⟨inWords_of_readValue hitems hmembers, inWords_of_readItems hvalue hitems,
        inWords_of_readMembers hvalue hmembers⟩

theorem inWords_of_read?_eq_some {text : String} {value : Json} (hread : read? text = some value) :
    value.InWords := by
  obtain ⟨⟨found, _⟩, hfound, hread⟩ := Option.bind_eq_some_iff.mp hread
  dsimp only at hread
  split at hread
  · cases hread
    exact (inWords_of_read _).1 hfound
  · cases hread

/-! ## Fields -/

theorem inWords_of_fieldsOfItems {fields : List Field} {items : List Json}
    {values : List (Option Json)} (hitems : ∀ item ∈ items, item.InWords)
    (hread : fieldsOfItems fields items = some values) :
    ∀ value ∈ values, ∀ json ∈ value, json.InWords := by
  induction fields generalizing items values with
  | nil =>
      cases items with
      | nil =>
          cases hread
          simp
      | cons item items => cases hread
  | cons field fields ih =>
      cases items with
      | nil =>
          rw [fieldsOfItems] at hread
          split at hread
          · obtain ⟨others, hothers, rfl⟩ := Option.map_eq_some_iff.mp hread
            exact List.forall_mem_cons.mpr ⟨by simp, ih hitems hothers⟩
          · cases hread
      | cons item items =>
          obtain ⟨hitem, hitems⟩ := List.forall_mem_cons.mp hitems
          obtain ⟨others, hothers, rfl⟩ := Option.map_eq_some_iff.mp hread
          exact List.forall_mem_cons.mpr ⟨by simpa using hitem, ih hitems hothers⟩

theorem inWords_of_mem_valuesOf {members : List (Option String × Json)} {name : String}
    (hmembers : ∀ member ∈ members, member.2.InWords) {value : Json}
    (hvalue : value ∈ valuesOf name members) : value.InWords := by
  obtain ⟨⟨key, found⟩, hfound, hvalue⟩ := List.mem_filterMap.mp hvalue
  obtain ⟨-, hsame⟩ := Option.ite_none_right_eq_some.mp hvalue
  cases hsame
  exact hmembers _ hfound

theorem inWords_of_fieldsOfMembers {fields : List Field} {members : List (Option String × Json)}
    {values : List (Option Json)} (hmembers : ∀ member ∈ members, member.2.InWords)
    (hread : fieldsOfMembers members fields = some values) :
    ∀ value ∈ values, ∀ json ∈ value, json.InWords := by
  induction fields generalizing values with
  | nil =>
      cases hread
      simp
  | cons field fields ih =>
      rw [fieldsOfMembers] at hread
      split at hread
      · split at hread
        · cases hread
        · obtain ⟨others, hothers, rfl⟩ := Option.map_eq_some_iff.mp hread
          exact List.forall_mem_cons.mpr ⟨by simp, ih hothers⟩
      · next value hvalue =>
          have hwords : value.InWords :=
            inWords_of_mem_valuesOf hmembers (hvalue ▸ List.mem_singleton_self value)
          obtain ⟨others, hothers, rfl⟩ := Option.map_eq_some_iff.mp hread
          exact List.forall_mem_cons.mpr ⟨by simpa using hwords, ih hothers⟩
      · cases hread

theorem InWords.of_fields? {json : Json} (hjson : json.InWords) {fields : List Field}
    {values : List (Option Json)} (hread : json.fields? fields = some values) :
    ∀ value ∈ values, ∀ field ∈ value, field.InWords := by
  cases hjson with
  | array hitems => exact inWords_of_fieldsOfItems hitems hread
  | object hmembers =>
      rw [fields?] at hread
      split at hread
      · cases hread
      · exact inWords_of_fieldsOfMembers hmembers hread
  | null | bool value | number hwords | string value => cases hread

end Sections.Json
