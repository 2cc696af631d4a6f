import Sections.Index

/-!
# What a walk records

A walk over a tree visits the nodes that are not below a heading or a code block.  Of these it
records the ones that stand at a known place and are headings, code blocks, or of a kind that the
options ask for.  What it does with the tree is what it does with the recorded nodes, one by one.
-/

namespace Sections

/--
What the index needs to know of a recorded node: its level if it is a heading, the slug it
asks for, and where it stands.
-/
structure Landmark where
  level? : Option Nat
  base : String
  source : SourceRange
  deriving DecidableEq, Repr

structure Placement where
  mark : Landmark
  path : SlugPath
  deriving DecidableEq, Repr

namespace Node

mutual

/-- The nodes that are visited, in order: all but those below a heading or a code block. -/
def visited : Node → List Node
  | .mk kind range children =>
    .mk kind range children ::
      match kind with
      | .heading _ _ | .code _ => []
      | .document | .paragraph | .listItem | .blockQuote | .other _ => visitedAll children

def visitedAll : List Node → List Node
  | [] => []
  | node :: rest => visited node ++ visitedAll rest

end

/-- The landmark that a visited node is, if it stands at a known place and is to be recorded. -/
def landmark? (options : IndexOptions) : Node → Option Landmark
  | .mk kind range _ =>
    match kind with
    | .heading level text => range.map fun source => ⟨some level, slugify text, source⟩
    | .code language => range.map fun source => ⟨none, Index.Walk.codeSlug language, source⟩
    | .paragraph =>
      if options.paragraphs then range.map fun source => ⟨none, "para", source⟩ else none
    | .listItem => if options.listItems then range.map fun source => ⟨none, "li", source⟩ else none
    | .blockQuote =>
      if options.blockQuotes then range.map fun source => ⟨none, "quote", source⟩ else none
    | .document | .other _ => none

def landmarks (options : IndexOptions) (node : Node) : List Landmark :=
  node.visited.filterMap (landmark? options)

end Node

inductive Landmark.MadeOf : NodeKind → Landmark → Prop
  | heading (level : Nat) (title : String) (source : SourceRange) :
      MadeOf (.heading level title) ⟨some level, slugify title, source⟩
  | code (language : Option String) (source : SourceRange) :
      MadeOf (.code language) ⟨none, Index.Walk.codeSlug language, source⟩
  | paragraph (source : SourceRange) : MadeOf .paragraph ⟨none, "para", source⟩
  | listItem (source : SourceRange) : MadeOf .listItem ⟨none, "li", source⟩
  | blockQuote (source : SourceRange) : MadeOf .blockQuote ⟨none, "quote", source⟩

theorem Node.madeOf {options : IndexOptions} {node : Node} {mark : Landmark}
    (hmark : node.landmark? options = some mark) : mark.MadeOf node.kind := by
  obtain ⟨kind, range, children⟩ := node
  cases kind with
  | heading level title =>
      obtain ⟨source, -, rfl⟩ := Option.map_eq_some_iff.mp hmark
      exact .heading level title source
  | code language =>
      obtain ⟨source, -, rfl⟩ := Option.map_eq_some_iff.mp hmark
      exact .code language source
  | paragraph =>
      rw [landmark?, Option.ite_none_right_eq_some] at hmark
      obtain ⟨source, -, rfl⟩ := Option.map_eq_some_iff.mp hmark.2
      exact .paragraph source
  | listItem =>
      rw [landmark?, Option.ite_none_right_eq_some] at hmark
      obtain ⟨source, -, rfl⟩ := Option.map_eq_some_iff.mp hmark.2
      exact .listItem source
  | blockQuote =>
      rw [landmark?, Option.ite_none_right_eq_some] at hmark
      obtain ⟨source, -, rfl⟩ := Option.map_eq_some_iff.mp hmark.2
      exact .blockQuote source
  | document => cases hmark
  | other name => cases hmark

namespace Index.Walk

def makeReady (lines : LineIndex) (walk : Walk) (mark : Landmark) : Walk :=
  match mark.level? with
  | some level => walk.closeFrames level (lines.span mark.source).start
  | none => walk

def address (lines : LineIndex) (walk : Walk) (mark : Landmark) : SlugPath :=
  let ready := walk.makeReady lines mark
  ready.path.child (ready.claim mark.base).1

def place (lines : LineIndex) (walk : Walk) (mark : Landmark) : Placement :=
  ⟨mark, walk.address lines mark⟩

/-- Records a landmark: a heading is opened, and anything else has its entry at once. -/
def record (lines : LineIndex) (walk : Walk) (mark : Landmark) : Walk :=
  let bytes := lines.span mark.source
  let claimed := ((walk.makeReady lines mark).claim mark.base).2
  match mark.level? with
  | some level =>
    { claimed with
      path := walk.address lines mark
      frames := ⟨level, bytes.start, mark.source, bytes⟩ :: claimed.frames }
  | none => { claimed with spans := claimed.spans.insert (walk.address lines mark) bytes }

def placements (lines : LineIndex) : Walk → List Landmark → List Placement
  | _, [] => []
  | walk, mark :: rest => walk.place lines mark :: placements lines (walk.record lines mark) rest

@[simp]
theorem place_mark (lines : LineIndex) (walk : Walk) (mark : Landmark) :
    (walk.place lines mark).mark = mark := rfl

@[simp]
theorem place_path (lines : LineIndex) (walk : Walk) (mark : Landmark) :
    (walk.place lines mark).path = walk.address lines mark := rfl

theorem map_mark_placements (lines : LineIndex) (walk : Walk) (marks : List Landmark) :
    (walk.placements lines marks).map Placement.mark = marks := by
  induction marks generalizing walk with
  | nil => rfl
  | cons mark rest ih => simp [placements, ih]

theorem openHeading_eq_foldl (lines : LineIndex) (walk : Walk) (range : Option SourceRange)
    (level : Nat) (text : String) :
    walk.openHeading lines range level text =
      (range.map fun source => Landmark.mk (some level) (slugify text) source).toList.foldl
        (record lines) walk := by
  cases range <;> rfl

theorem recordLeaf_eq_foldl (lines : LineIndex) (walk : Walk) (range : Option SourceRange)
    (base : String) :
    walk.recordLeaf lines range base =
      (range.map fun source => Landmark.mk none base source).toList.foldl (record lines) walk := by
  cases range <;> rfl

theorem ite_recordLeaf_eq_foldl (lines : LineIndex) (walk : Walk) (range : Option SourceRange)
    (base : String) (wanted : Bool) :
    (if wanted then walk.recordLeaf lines range base else walk) =
      (if wanted then range.map fun source => Landmark.mk none base source else none).toList.foldl
        (record lines) walk := by
  cases wanted
  · rfl
  · exact recordLeaf_eq_foldl lines walk range base

theorem filterMap_landmark_cons (options : IndexOptions) (node : Node) (rest : List Node) :
    (node :: rest).filterMap (Node.landmark? options) =
      (node.landmark? options).toList ++ rest.filterMap (Node.landmark? options) := by
  cases hmark : node.landmark? options <;> simp [hmark]

mutual

theorem visit_eq_foldl (lines : LineIndex) (options : IndexOptions) (walk : Walk) :
    (node : Node) →
      walk.visit lines options node = (node.landmarks options).foldl (record lines) walk
  | .mk kind range children => by
      have hbelow := fun walk => visitAll_eq_foldl lines options walk children
      unfold Node.landmarks Node.visited
      rw [filterMap_landmark_cons, List.foldl_append]
      cases kind with
      | heading level text =>
          simp [visit, Node.landmark?, openHeading_eq_foldl]
      | code language =>
          simp [visit, Node.landmark?, recordLeaf_eq_foldl]
      | paragraph | listItem | blockQuote =>
          simp only [visit, Node.landmark?, hbelow, ite_recordLeaf_eq_foldl]
      | document | other name =>
          simp [visit, Node.landmark?, hbelow]

theorem visitAll_eq_foldl (lines : LineIndex) (options : IndexOptions) (walk : Walk) :
    (nodes : List Node) →
      visitAll lines options walk nodes =
        ((Node.visitedAll nodes).filterMap (Node.landmark? options)).foldl (record lines) walk
  | [] => by simp [visitAll, Node.visitedAll]
  | node :: rest => by
      rw [visitAll, visitAll_eq_foldl lines options _ rest, visit_eq_foldl lines options walk node]
      simp [Node.visitedAll, Node.landmarks]

end

end Index.Walk

end Sections
