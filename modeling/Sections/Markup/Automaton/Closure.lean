import Sections.Markup.Automaton.Item

/-!
# Closures

Where a phrase may come next, so may whatever the phrase begins with.  The closure of a set of items
adds these beginnings, with the tokens that may follow them.
-/

namespace Sections

namespace ItemGrammar

def firsts (g : ItemGrammar) : Array TokenSet :=
  let size := g.grammar.symbols.size
  let initial := Array.ofFn fun (symbol : Fin size) =>
    if symbol < g.grammar.tokens then 1 <<< symbol.val else 0
  go size initial
where
  step (known : Array TokenSet) : Array TokenSet :=
    g.grammar.alternatives.zipIdx.map fun (alternatives, symbol) =>
      alternatives.foldl (fun set alternative =>
        match alternative.parts with
        | [] => set
        | part :: _ => set ||| known.getD part.symbol 0) (known.getD symbol 0)
  go : Nat → Array TokenSet → Array TokenSet
    | 0, known => known
    | fuel + 1, known =>
      let next := step known
      if next = known then known else go fuel next

end ItemGrammar

/--
A beginning of a phrase: the tokens that may follow it within the phrase, and whether what
may follow the phrase may follow it too.
-/
structure Follow where
  inner : TokenSet
  inherits : Bool
  deriving DecidableEq, Inhabited

namespace Follow

def join (first second : Follow) : Follow :=
  ⟨first.inner ||| second.inner, first.inherits || second.inherits⟩

def resolve (follow : Follow) (outer : TokenSet) : TokenSet :=
  if follow.inherits then follow.inner ||| outer else follow.inner

end Follow

structure Beginnings where
  firsts : Array TokenSet
  leads : Array (List (Nat × Follow))

namespace ItemGrammar

def directLeads (g : ItemGrammar) (firsts : Array TokenSet) (symbol : Nat) : List (Nat × Follow) :=
  (g.grammar.alternatives.getD symbol []).filterMap fun alternative =>
    match alternative.parts with
    | part :: rest =>
      if part.symbol < g.grammar.tokens then none
      else match rest with
        | after :: _ => some (part.symbol, ⟨firsts.getD after.symbol 0, false⟩)
        | [] => some (part.symbol, ⟨0, true⟩)
    | [] => none

def allLeads (direct : Array (List (Nat × Follow))) (symbol : Nat) : Array (Option Follow) :=
  go direct.size ((Array.replicate direct.size none).setIfInBounds symbol (some ⟨0, true⟩))
where
  spread (known : Array (Option Follow)) (phrase : Nat) : Array (Option Follow) :=
    match known.getD phrase none with
    | none => known
    | some follow => (direct.getD phrase []).foldl (fun known (lead, ahead) =>
        let found : Follow := ⟨ahead.resolve follow.inner, ahead.inherits && follow.inherits⟩
        let joined := match known.getD lead none with
          | some old => old.join found
          | none => found
        known.setIfInBounds lead (some joined)) known
  go : Nat → Array (Option Follow) → Array (Option Follow)
    | 0, known => known
    | fuel + 1, known =>
      let next := (List.range direct.size).foldl spread known
      if next = known then known else go fuel next

def beginnings (g : ItemGrammar) : Beginnings :=
  let firsts := g.firsts
  let size := g.grammar.symbols.size
  let direct := (Array.range size).map (g.directLeads firsts)
  { firsts
    leads := (Array.range size).map fun symbol =>
      if symbol < g.grammar.tokens then []
      else (allLeads direct symbol).toList.zipIdx.flatMap fun (follow?, phrase) =>
        match follow? with
        | none => []
        | some follow => (g.starts.getD phrase []).map fun item => (item, follow) }

end ItemGrammar

abbrev ItemSet := List (Nat × TokenSet)

namespace ItemGrammar

def closure (g : ItemGrammar) (beginnings : Beginnings) (kernel : ItemSet) : ItemSet :=
  let initial : Std.HashMap Nat TokenSet := .ofList kernel
  (kernel.foldl (fun found (number, outer) =>
    match (g.items.getD number default).item.rest with
    | [] => found
    | part :: rest =>
      let after := match rest with
        | next :: _ => beginnings.firsts.getD next.symbol 0
        | [] => outer
      (beginnings.leads.getD part.symbol []).foldl (fun found (item, follow) =>
        found.insert item (found.getD item 0 ||| follow.resolve after)) found) initial).toList

end ItemGrammar

end Sections
