/-!
# Association lists

Looking up a key where each has one entry, where it is not there, or after the entries of another
key were dropped.
-/

namespace Sections

variable {α β : Type} [BEq α] [LawfulBEq α]

theorem lookup_filter_ne {key other : α} (hne : other ≠ key) (entries : List (α × β)) :
    (entries.filter fun entry => entry.1 != key).lookup other = entries.lookup other := by
  induction entries with
  | nil => rfl
  | cons entry entries ih =>
      obtain ⟨name, value⟩ := entry
      by_cases hname : name = key
      · have hother : (other == key) = false := by simpa using hne
        simp [hname, hother, List.lookup_cons, ih]
      · simp [hname, List.lookup_cons, ih]

theorem lookup_eq_none_of_notMem {key : α} {entries : List (α × β)}
    (hkey : key ∉ entries.map Prod.fst) : entries.lookup key = none := by
  rw [List.lookup_eq_none_iff]
  intro entry hentry
  have hne : key ≠ entry.1 := by
    rintro rfl
    exact hkey (List.mem_map_of_mem hentry)
  simpa using hne

theorem lookup_eq_some_iff_mem {key : α} {value : β} {entries : List (α × β)}
    (hnodup : (entries.map Prod.fst).Nodup) :
    entries.lookup key = some value ↔ (key, value) ∈ entries := by
  induction entries with
  | nil => simp
  | cons entry rest ih =>
      obtain ⟨name, held⟩ := entry
      obtain ⟨hname, hrest⟩ := List.nodup_cons.mp hnodup
      by_cases hkey : key = name
      · subst hkey
        have hnotin : (key, value) ∉ rest := fun hmem => hname (List.mem_map.mpr ⟨_, hmem, rfl⟩)
        simp [hnotin, eq_comm]
      · have hbeq : (key == name) = false := by simpa using hkey
        simp [List.lookup_cons, hbeq, hkey, ih hrest]

end Sections
