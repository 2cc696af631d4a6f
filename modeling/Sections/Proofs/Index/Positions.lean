import Sections.Proofs.Index.Landmark
import Sections.Proofs.Markup.Position

/-!
# Trees whose positions have offsets

A tree may be given with any positions in it.  Its index is built exactly if all landmarks have
spans, as they do where columns are not out of all proportion to the words of the machine.
-/

namespace Sections.Index

mutual

theorem rangesOf_eq (options : IndexOptions) : (node : Node) →
    rangesOf options node = (node.landmarks options).map Landmark.source
  | .mk kind range children => by
      have hbelow := rangesOfAll_eq options children
      unfold Node.landmarks Node.visited
      rw [Walk.filterMap_landmark_cons, List.map_append]
      cases kind with
      | heading level text | code language => cases range <;> rfl
      | paragraph | listItem | blockQuote =>
          simp only [rangesOf, Node.landmark?, hbelow]
          congr 1
          split <;> cases range <;> rfl
      | document | other name => exact hbelow

theorem rangesOfAll_eq (options : IndexOptions) : (nodes : List Node) →
    rangesOfAll options nodes =
      ((Node.visitedAll nodes).filterMap (Node.landmark? options)).map Landmark.source
  | [] => rfl
  | node :: rest => by
      rw [rangesOfAll, rangesOfAll_eq options rest, rangesOf_eq options node]
      simp [Node.visitedAll, Node.landmarks]

end

variable {document : Node} {text : String} {options : IndexOptions} {index : Index}

theorem build?_eq_some_iff :
    build? document text options = some index ↔
      (∀ mark ∈ document.landmarks options,
        ((LineIndex.ofText text).span? mark.source).isSome) ∧
        build document text options = index := by
  rw [build?, rangesOf_eq, Option.ite_none_right_eq_some, List.all_map, List.all_eq_true,
    Option.some.injEq]
  rfl

theorem build?_of_columns
    (hcolumns : ∀ mark ∈ document.landmarks options,
      text.utf8ByteSize + mark.source.start.column < wordSize ∧
        text.utf8ByteSize + mark.source.stop.column < wordSize) :
    build? document text options = some (build document text options) := by
  refine build?_eq_some_iff.mpr ⟨fun mark hmark => ?_, rfl⟩
  obtain ⟨hstart, hstop⟩ := hcolumns mark hmark
  exact Option.isSome_of_eq_some (LineIndex.span?_eq_some_iff.mpr
    ⟨LineIndex.isSome_offset? hstart, LineIndex.isSome_offset? hstop, rfl⟩)

end Sections.Index
