import Sections.Engine

/-!
# Faithful index caches

A cache is faithful to an engine if the index it holds is the one the engine would make of the text
beside it.  New caches are, and every step of a session keeps it so.
-/

namespace Sections

theorem Index.read_total (parse : String → Node) (options : IndexOptions) (text : String) :
    read (fun text => .ok (parse text)) options text = .ok (.ofText parse options text) := rfl

structure IndexCache.Faithful {σ : Type} (engine : Engine σ) (cache : IndexCache) : Prop where
  options_eq : cache.options = engine.options
  parse_eq : cache.parse = engine.parse
  entry_eq : ∀ entry, cache.entry = some entry →
    Index.read engine.parse engine.options entry.text = .ok entry.index

namespace IndexCache

variable {σ : Type} {engine : Engine σ} {cache : IndexCache}

theorem Faithful.newCache (engine : Engine σ) : Faithful engine engine.newCache :=
  ⟨rfl, rfl, fun _ h => by simp [Engine.newCache] at h⟩

theorem Faithful.fst_indexFor (faithful : Faithful engine cache) (hash : TextHash) (text : String) :
    (cache.indexFor hash text).1 = Index.read engine.parse engine.options text := by
  simp only [indexFor]
  split
  · next entry hentry =>
      obtain ⟨hheld, hsame⟩ := Option.filter_eq_some_iff.mp hentry
      obtain ⟨-, rfl⟩ : entry.hash = hash text ∧ entry.text = text := by simpa using hsame
      exact (faithful.entry_eq entry hheld).symm
  · simp [faithful.options_eq, faithful.parse_eq]

theorem Faithful.snd_indexFor (faithful : Faithful engine cache) (hash : TextHash) (text : String) :
    Faithful engine (cache.indexFor hash text).2 := by
  simp only [indexFor]
  split
  · exact ⟨faithful.options_eq, faithful.parse_eq, faithful.entry_eq⟩
  · refine ⟨faithful.options_eq, faithful.parse_eq, ?_⟩
    intro entry hentry
    rw [faithful.options_eq, faithful.parse_eq] at hentry
    cases hindex : Index.read engine.parse engine.options text with
    | error fault => simp [hindex, Except.toOption] at hentry
    | ok index =>
        simp only [hindex, Except.toOption, Option.map_some, Option.some.injEq] at hentry
        subst hentry
        exact hindex

end IndexCache

end Sections
