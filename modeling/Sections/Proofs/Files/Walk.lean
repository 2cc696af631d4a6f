import Sections.Files.Tree
import Sections.Proofs.Files.PathText

/-!
# Walks through a file tree

A walk that succeeds is a sequence of steps, each of them from a directory.  It can be cut anywhere,
and it stays the same when items are added to the tree.
-/

namespace Sections.FileTree

/-- A successful walk, with the numbers of links that may be followed before and after it. -/
inductive Leads (tree : FileTree) : Nat → Place → List String → Nat → Place → Prop
  | done (links : Nat) (place : Place) : Leads tree links place [] links place
  | dot {links left : Nat} {place reached : Place} {rest : List String}
      (hdirectory : tree.isDirectory place) (hrest : Leads tree links place rest left reached) :
      Leads tree links place ("." :: rest) left reached
  | up {links left : Nat} {place reached : Place} {rest : List String}
      (hdirectory : tree.isDirectory place)
      (hrest : Leads tree links place.dropLast rest left reached) :
      Leads tree links place (".." :: rest) left reached
  | link {links left : Nat} {place reached : Place} {step : String} {rest : List String}
      {target : PathText} (hdirectory : tree.isDirectory place) (hdot : step ≠ ".")
      (hup : step ≠ "..") (hlength : step.utf8ByteSize ≤ longestName)
      (hitem : tree.get? (place ++ [step]) = some (.link target))
      (hrest : Leads tree links (if target.isAbsolute then [] else place) (target.steps ++ rest)
        left reached) :
      Leads tree (links + 1) place (step :: rest) left reached
  | item {links left : Nat} {place reached : Place} {step : String} {rest : List String}
      {item : FileItem} (hdirectory : tree.isDirectory place) (hdot : step ≠ ".")
      (hup : step ≠ "..") (hlength : step.utf8ByteSize ≤ longestName)
      (hitem : tree.get? (place ++ [step]) = some item) (hlink : ∀ target, item ≠ .link target)
      (hrest : Leads tree links (place ++ [step]) rest left reached) :
      Leads tree links place (step :: rest) left reached

variable {tree larger : FileTree} {links left : Nat} {place reached : Place}
    {front back : List String}

theorem Leads.walk_append (hleads : Leads tree links place front left reached)
    (back : List String) :
    tree.walk links place (front ++ back) = tree.walk left reached back := by
  induction hleads with
  | done links place => rfl
  | dot hdirectory hrest ih =>
      rw [List.cons_append, walk]
      simpa [hdirectory] using ih
  | up hdirectory hrest ih =>
      rw [List.cons_append, walk]
      simpa [hdirectory] using ih
  | link hdirectory hdot hup hlength hitem hrest ih =>
      rw [List.cons_append, walk]
      simpa [hdirectory, hdot, hup, Nat.not_lt.mpr hlength, hitem] using ih
  | @item links left place reached step rest item hdirectory hdot hup hlength hitem hlink
    hrest ih =>
      rw [List.cons_append, walk]
      cases item with
      | link target => exact absurd rfl (hlink target)
      | directory | file content modified =>
          simpa [hdirectory, hdot, hup, Nat.not_lt.mpr hlength, hitem] using ih

theorem Leads.walk (hleads : Leads tree links place front left reached) :
    tree.walk links place front = .ok reached := by
  have hwalk := hleads.walk_append []
  rw [List.append_nil] at hwalk
  rw [hwalk, FileTree.walk]

theorem exists_leads_of_walk_append {links : Nat} {place : Place} {front : List String}
    (hwalk : tree.walk links place (front ++ back) = .ok reached) :
    ∃ left middle, Leads tree links place front left middle ∧
      tree.walk left middle back = .ok reached := by
  cases front with
  | nil => exact ⟨links, place, .done links place, hwalk⟩
  | cons step rest =>
      rw [List.cons_append, FileTree.walk] at hwalk
      by_cases hdirectory : tree.isDirectory place
      case neg => simp [hdirectory] at hwalk
      by_cases hdot : step = "."
      case pos =>
        simp only [hdirectory, hdot] at hwalk
        obtain ⟨left, middle, hleads, hback⟩ := exists_leads_of_walk_append hwalk
        exact ⟨left, middle, hdot ▸ .dot hdirectory hleads, hback⟩
      by_cases hup : step = ".."
      case pos =>
        simp only [hdirectory, hup] at hwalk
        obtain ⟨left, middle, hleads, hback⟩ := exists_leads_of_walk_append hwalk
        exact ⟨left, middle, hup ▸ .up hdirectory hleads, hback⟩
      by_cases hlength : longestName < step.utf8ByteSize
      case pos => simp [hdirectory, hdot, hup, hlength] at hwalk
      cases hitem : tree.get? (place ++ [step]) with
      | none => simp [hdirectory, hdot, hup, hlength, hitem] at hwalk
      | some item =>
          cases item with
          | link target =>
              cases links with
              | zero => simp [hdirectory, hdot, hup, hlength, hitem] at hwalk
              | succ links =>
                  simp only [hdirectory, hdot, hup, hlength, hitem, ← List.append_assoc] at hwalk
                  obtain ⟨left, middle, hleads, hback⟩ := exists_leads_of_walk_append hwalk
                  exact ⟨left, middle,
                    .link hdirectory hdot hup (Nat.not_lt.mp hlength) hitem hleads, hback⟩
          | directory | file content modified =>
              simp only [hdirectory, hdot, hup, hlength, hitem] at hwalk
              obtain ⟨left, middle, hleads, hback⟩ := exists_leads_of_walk_append hwalk
              exact ⟨left, middle,
                .item hdirectory hdot hup (Nat.not_lt.mp hlength) hitem (by simp) hleads, hback⟩
termination_by (links, front.length)

theorem exists_leads_of_walk (hwalk : tree.walk links place front = .ok reached) :
    ∃ left, Leads tree links place front left reached := by
  rw [← List.append_nil front] at hwalk
  obtain ⟨left, middle, hleads, hback⟩ := exists_leads_of_walk_append hwalk
  rw [FileTree.walk] at hback
  cases hback
  exact ⟨left, hleads⟩

/-! ## Larger trees -/

def Extends (tree larger : FileTree) : Prop :=
  ∀ place item, tree.get? place = some item → larger.get? place = some item

theorem Extends.isDirectory (hextends : Extends tree larger) (hdirectory : tree.isDirectory place) :
    larger.isDirectory place := by
  simp only [FileTree.isDirectory, beq_iff_eq] at hdirectory ⊢
  exact hextends place _ hdirectory

theorem Leads.mono (hextends : Extends tree larger)
    (hleads : Leads tree links place front left reached) :
    Leads larger links place front left reached := by
  induction hleads with
  | done links place => exact .done links place
  | dot hdirectory hrest ih => exact .dot (hextends.isDirectory hdirectory) ih
  | up hdirectory hrest ih => exact .up (hextends.isDirectory hdirectory) ih
  | link hdirectory hdot hup hlength hitem hrest ih =>
      exact .link (hextends.isDirectory hdirectory) hdot hup hlength (hextends _ _ hitem) ih
  | item hdirectory hdot hup hlength hitem hlink hrest ih =>
      exact .item (hextends.isDirectory hdirectory) hdot hup hlength (hextends _ _ hitem) hlink ih

theorem Extends.walk (hextends : Extends tree larger)
    (hwalk : tree.walk links place front = .ok reached) :
    larger.walk links place front = .ok reached := by
  obtain ⟨left, hleads⟩ := exists_leads_of_walk hwalk
  exact (hleads.mono hextends).walk

end Sections.FileTree
