import Sections.Markup.Grammar.Coded

/-!
# Items

An item says how far an alternative has been read.  Alternatives that agree in what is left of them
share their items.
-/

namespace Sections

abbrev TokenSet := Nat

structure Item where
  goal? : Option Nat
  read : List (Option String)
  mark : ReadingMark
  rest : List (Part Nat)
  weight : Nat
  deriving DecidableEq, Repr, Hashable, Inhabited

namespace Item

def next? (item : Item) : Option Nat := item.rest.head?.map Part.symbol

def advance (item : Item) : Item :=
  match item.rest with
  | [] => item
  | part :: rest => { item with read := item.read ++ [part.name?], mark := part.mark, rest }

def following (item : Item) : List Item :=
  go item.rest.length item
where
  go : Nat → Item → List Item
    | 0, item => [item]
    | left + 1, item => item :: go left item.advance

end Item

structure NumberedItem where
  item : Item
  next? : Option Nat
  advanced : Nat
  deriving Inhabited

structure ItemTable where
  items : Array NumberedItem := #[]
  numbers : Std.HashMap Item Nat := {}

namespace ItemTable

def addRow (table : ItemTable) : List Item → Nat × ItemTable
  | [] => (0, table)
  | item :: rest =>
    let (advanced, table) := table.addRow rest
    match table.numbers[item]? with
    | some number => (number, table)
    | none =>
      let number := table.items.size
      (number, {
        items := table.items.push ⟨item, item.next?, advanced⟩
        numbers := table.numbers.insert item number })

def addGoal (goal : Nat) (alternatives : List (Alternative Nat)) (table : ItemTable) :
    List Nat × ItemTable :=
  alternatives.foldr (fun alternative (starts, table) =>
    let item : Item := ⟨some goal, [], {}, alternative.parts, alternative.weight⟩
    let (start, table) := table.addRow item.following
    (start :: starts, table)) ([], table)

end ItemTable

structure ItemGrammar where
  grammar : Grammar
  items : Array NumberedItem
  starts : Array (List Nat)
  start : Nat

def ItemGrammar.ofGrammar (grammar : Grammar) : ItemGrammar :=
  let whole : Item := ⟨none, [], {}, [⟨grammar.document, none, {}⟩], 0⟩
  let (start, table) := ({} : ItemTable).addRow whole.following
  let (starts, table) :=
    grammar.alternatives.zipIdx.foldl (fun (starts, table) (alternatives, goal) =>
    let (row, table) := table.addGoal goal alternatives
    (starts.push row, table)) ((#[] : Array (List Nat)), table)
  ⟨grammar, table.items, starts, start⟩

end Sections
