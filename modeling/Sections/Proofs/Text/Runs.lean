import Mathlib.Data.List.SplitBy
import Mathlib.Data.List.TakeWhile

/-!
# Runs of characters

The runs of a text are its longest parts whose characters all have some property, or all lack it.
What holds of the empty text, and of a run with a rest behind it as soon as it holds of the rest,
holds of every text.
-/

namespace Sections

/-- The longest parts of a text whose characters agree about a property, in order. -/
def runsOf (p : Char → Bool) (cs : List Char) : List (List Char) :=
  cs.splitBy fun a b => p a == p b

/--
A front part of a text whose characters all have the property, or all lack it, and that ends
where the next character is of the other kind.
-/
structure IsRun (p : Char → Bool) (side : Bool) (run rest : List Char) : Prop where
  ne_nil : run ≠ []
  agree : ∀ c ∈ run, p c = side
  ends : ∀ c ∈ rest.head?, p c = !side

section

variable {p : Char → Bool} {side : Bool} {run rest : List Char}

theorem IsRun.runsOf_append (hrun : IsRun p side run rest) :
    runsOf p (run ++ rest) = run :: runsOf p rest := by
  have hchain : run.IsChain fun a b => p a == p b := by
    refine (List.pairwise_of_forall_mem_list ?_).isChain
    intro a ha b hb
    rw [hrun.agree a ha, hrun.agree b hb]
    exact beq_self_eq_true side
  have hboundary : ∀ a ∈ run.getLast?, ∀ b ∈ rest.head?, (p a == p b) = false := by
    intro a ha b hb
    rw [hrun.agree a (List.mem_of_getLast? ha), hrun.ends b hb]
    cases side <;> rfl
  rw [runsOf, List.splitBy_append hboundary, List.splitBy_of_isChain hrun.ne_nil hchain]
  rfl

theorem isRun_takeWhile (p : Char → Bool) (c : Char) (cs : List Char) :
    IsRun p (p c) (c :: cs.takeWhile fun d => p d == p c) (cs.dropWhile fun d => p d == p c) := by
  refine ⟨List.cons_ne_nil _ _, ?_, ?_⟩
  · intro d hd
    rcases List.mem_cons.mp hd with rfl | hd
    · rfl
    · have hall := List.all_takeWhile (p := fun d => p d == p c) (l := cs)
      simpa using List.all_eq_true.mp hall d hd
  · intro d hd
    have hhead := List.head?_dropWhile_not (fun d => p d == p c) cs
    rw [Option.mem_def.mp hd] at hhead
    simpa [Bool.eq_not] using hhead

end

theorem runs_induction (p : Char → Bool) {motive : List Char → Prop} (nil : motive [])
    (append : ∀ side run rest, IsRun p side run rest → motive rest → motive (run ++ rest)) :
    ∀ cs, motive cs
  | [] => nil
  | c :: cs => by
      have hrest := runs_induction p nil append (cs.dropWhile fun d => p d == p c)
      have hwhole := append _ _ _ (isRun_takeWhile p c cs) hrest
      rwa [List.cons_append, List.takeWhile_append_dropWhile] at hwhole
termination_by cs => cs.length
decreasing_by exact Nat.lt_succ_of_le (List.dropWhile_sublist _).length_le

end Sections
