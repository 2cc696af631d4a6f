import Sections.Proofs.Index.Growth
import Sections.Proofs.Index.Tags
import Sections.Proofs.Markup.Descendants

/-!
# Sections and what is filed under them

Where the places of the nodes nest as the nodes do, everything below a heading starts within its
section.  It also ends there, with one exception: a leaf that holds a heading can outlast the
section that it stands in, because a heading ends sections wherever it stands.
-/

namespace Sections

namespace Node

def places (lines : LineIndex) (nodes : List Node) : List Span :=
  nodes.filterMap fun node => node.range.map lines.span

theorem mem_places {lines : LineIndex} {nodes : List Node} {node : Node} {source : SourceRange}
    (hnode : node ∈ nodes) (hsource : source ∈ node.range) :
    lines.span source ∈ places lines nodes := by
  refine List.mem_filterMap.mpr ⟨node, hnode, ?_⟩
  rw [Option.mem_def.mp hsource]
  rfl

theorem places_subset (lines : LineIndex) {nodes others : List Node} (h : nodes ⊆ others) :
    places lines nodes ⊆ places lines others :=
  List.filterMap_subset _ h

/-- All places in one tree stand before all those in another. -/
def Precedes (lines : LineIndex) (before after : Node) : Prop :=
  ∀ first ∈ places lines before.preorder, ∀ second ∈ places lines after.preorder,
    first.stop ≤ second.start

instance (lines : LineIndex) (before after : Node) : Decidable (before.Precedes lines after) :=
  inferInstanceAs (Decidable (∀ first ∈ places lines before.preorder, _))

/--
Whether all nodes hold what stands below them, and nodes beside each other stand one after
the other.  A node without a place is looked through.
-/
def Nested (lines : LineIndex) (document : Node) : Prop :=
  ∀ node ∈ document.preorder,
    (∀ source ∈ node.range, ∀ inner ∈ places lines (preorderAll node.children),
      (lines.span source).start ≤ inner.start ∧ inner.stop ≤ (lines.span source).stop) ∧
    node.children.Pairwise fun before after => before.Precedes lines after

instance (lines : LineIndex) (document : Node) : Decidable (document.Nested lines) :=
  inferInstanceAs (Decidable (∀ node ∈ document.preorder, _ ∧ _))

def inside (node : Node) : List Node := node.visited.tail

theorem visited_eq_cons (node : Node) : node.visited = node :: node.inside := by
  obtain ⟨kind, range, children⟩ := node
  simp [inside, visited]

theorem inside_subset (node : Node) : node.inside ⊆ preorderAll node.children := by
  obtain ⟨kind, range, children⟩ := node
  have hbelow := visitedAll_subset_preorderAll children
  simp only [inside, visited, List.tail_cons]
  cases kind <;> first | exact List.nil_subset _ | exact hbelow

theorem mem_preorderAll {node : Node} {nodes : List Node} :
    node ∈ preorderAll nodes ↔ ∃ tree ∈ nodes, node ∈ tree.preorder := by
  rw [preorderAll_eq_flatMap, List.mem_flatMap]

theorem Nested.child {lines : LineIndex} {document node : Node} (hnested : document.Nested lines)
    (hnode : node ∈ document.children) : node.Nested lines := by
  intro inner hinner
  refine hnested inner ?_
  rw [preorder_eq_cons]
  exact List.mem_cons_of_mem _ (mem_preorderAll.mpr ⟨node, hnode, hinner⟩)

def Closing (lines : LineIndex) (node : Node) (back : List Node) : Prop :=
  ∃ after, back = node.inside ++ after ∧
    ∀ source ∈ node.range, ∀ next ∈ places lines after, (lines.span source).stop ≤ next.start

mutual

theorem Nested.closing {lines : LineIndex} : (document : Node) → document.Nested lines →
    ∀ {front node back}, document.visited = front ++ node :: back → node.Closing lines back
  | .mk kind range children, hnested, front, node, back, hsplit => by
      cases front with
      | nil =>
          rw [visited_eq_cons, List.nil_append] at hsplit
          obtain ⟨rfl, rfl⟩ := List.cons.inj hsplit
          exact ⟨[], by simp, by simp [places]⟩
      | cons first front =>
          have hself := hnested (.mk kind range children) (by simp [preorder])
          have hbelow : visitedAll children = front ++ node :: back := by
            cases kind <;> simp_all [visited]
          exact closing_visitedAll children (fun _ hchild => hnested.child hchild) hself.2 hbelow

theorem closing_visitedAll {lines : LineIndex} : (nodes : List Node) →
    (∀ node ∈ nodes, node.Nested lines) →
    (nodes.Pairwise fun before after => before.Precedes lines after) →
    ∀ {front node back}, visitedAll nodes = front ++ node :: back → node.Closing lines back
  | [], _, _, front, node, back, hsplit => by simp [visitedAll] at hsplit
  | first :: rest, hnested, hapart, front, node, back, hsplit => by
      obtain ⟨hfirst, hrest⟩ := List.forall_mem_cons.mp hnested
      obtain ⟨hbefore, hapart⟩ := List.pairwise_cons.mp hapart
      rw [visitedAll] at hsplit
      rcases List.append_eq_append_iff.mp hsplit with
        ⟨middle, hfront, hback⟩ | ⟨middle, hvisited, hback⟩
      · exact closing_visitedAll rest hrest hapart hback
      · cases middle with
        | nil =>
            have hsplit : visitedAll rest = [] ++ node :: back := by simpa using hback.symm
            exact closing_visitedAll rest hrest hapart hsplit
        | cons head middle =>
            obtain ⟨rfl, rfl⟩ := List.cons.inj hback
            obtain ⟨after, rfl, hafter⟩ := hfirst.closing _ hvisited
            refine ⟨after ++ visitedAll rest, by simp, ?_⟩
            intro source hsource next hnext
            rw [places, List.filterMap_append, List.mem_append] at hnext
            rcases hnext with hwithin | hbeyond
            · exact hafter source hsource next hwithin
            · have hnode : node ∈ first.preorder :=
                visited_subset_preorder first (by simp [hvisited])
              obtain ⟨other, hother, hplace⟩ := List.mem_filterMap.mp hbeyond
              obtain ⟨tree, htree, hother⟩ :=
                mem_preorderAll.mp (visitedAll_subset_preorderAll rest hother)
              exact hbefore tree htree _ (mem_places hnode hsource) next
                (List.mem_filterMap.mpr ⟨other, hother, hplace⟩)

end

/-- The landmarks below a node, in the order they are visited. -/
def contents (options : IndexOptions) (node : Node) : List Landmark :=
  node.inside.filterMap (landmark? options)

theorem contents_of_isHeading {options : IndexOptions} {node : Node} {mark : Landmark}
    (hmark : node.landmark? options = some mark) (hheading : mark.isHeading) :
    node.contents options = [] := by
  obtain ⟨kind, range, children⟩ := node
  have hmade := madeOf hmark
  cases kind <;> cases hmade <;> first | rfl | cases hheading

end Node

/-! ## Open sections -/

namespace Placement

def StartsBefore (lines : LineIndex) (first second : Placement) : Prop :=
  (lines.span first.mark.source).start ≤ (lines.span second.mark.source).start

theorem exists_split_of_mem_openHeadings {done : List Placement} {heading : Placement}
    (hopen : heading ∈ openHeadings done) :
    ∃ before between, done = before ++ heading :: between ∧ heading.mark.staysOpen between := by
  induction done with
  | nil => cases hopen
  | cons first later ih =>
      rw [openHeadings, List.mem_append] at hopen
      rcases hopen with hlater | hfirst
      · obtain ⟨before, between, rfl, hstays⟩ := ih hlater
        exact ⟨first :: before, between, rfl, hstays⟩
      · by_cases hstays : first.mark.staysOpen later
        · obtain rfl : heading = first := by simpa [hstays] using hfirst
          exact ⟨[], later, rfl, hstays⟩
        · simp [hstays] at hfirst

end Placement

namespace Landmark

variable {lines : LineIndex} {mark : Landmark} {later : List Placement}

theorem extent_of_closed {next : Placement} (hheading : mark.isHeading)
    (hnext : (later.find? fun next => next.mark.closes mark) = some next) :
    mark.extent lines later =
      ⟨(lines.span mark.source).start,
        max (lines.span next.mark.source).start (lines.span mark.source).start⟩ := by
  simp [extent, hheading, hnext]

theorem extent_of_none (hheading : mark.isHeading)
    (hnone : (later.find? fun next => next.mark.closes mark) = none) :
    mark.extent lines later = ⟨(lines.span mark.source).start, lines.length⟩ := by
  simp [extent, hheading, hnone]

theorem extent_of_leaf (hleaf : mark.isHeading = false) :
    mark.extent lines later = lines.span mark.source := by
  simp [extent, hleaf]

theorem closes_of_closes {next outer : Landmark} (hmark : mark.isHeading)
    (hbelow : mark.closes outer = false) (hcloses : next.closes outer) : next.closes mark := by
  obtain ⟨level, hlevel⟩ := Option.isSome_iff_exists.mp hmark
  unfold closes at hbelow hcloses ⊢
  cases hnext : next.level? with
  | none => simp [hnext] at hcloses
  | some first =>
      cases houter : outer.level? with
      | none => simp [houter] at hcloses
      | some second =>
          simp [hnext, houter, hlevel] at hbelow hcloses ⊢
          omega

theorem le_stop_extent {offset : Nat} (hmark : mark.isHeading) (hlength : offset ≤ lines.length)
    (hlater : ∀ next ∈ later, offset ≤ (lines.span next.mark.source).start) :
    offset ≤ (mark.extent lines later).stop := by
  cases hfind : later.find? fun next => next.mark.closes mark with
  | none => rwa [extent_of_none hmark hfind]
  | some next =>
      rw [extent_of_closed hmark hfind]
      exact (hlater next (List.mem_of_find?_eq_some hfind)).trans (Nat.le_max_left _ _)

theorem stop_extent_le {outer : Landmark} (hmark : mark.isHeading) (houter : outer.isHeading)
    (hcloses : ∀ next : Landmark, next.closes outer → next.closes mark)
    (hstart : ∀ next ∈ later, (lines.span mark.source).start ≤ (lines.span next.mark.source).start)
    (hsorted : later.Pairwise (Placement.StartsBefore lines)) :
    (mark.extent lines later).stop ≤ (outer.extent lines later).stop := by
  cases hfind : later.find? fun next => next.mark.closes outer with
  | none =>
      rw [extent_of_none houter hfind]
      exact (mark.extent_within lines later).2
  | some next =>
      have hnext := List.mem_of_find?_eq_some hfind
      obtain ⟨first, hfirst⟩ : ∃ first,
          (later.find? fun next => next.mark.closes mark) = some first := by
        refine Option.isSome_iff_exists.mp (List.find?_isSome.mpr ⟨next, hnext, ?_⟩)
        exact hcloses _ (by simpa using List.find?_some hfind)
      have hle : (lines.span first.mark.source).start ≤ (lines.span next.mark.source).start := by
        obtain ⟨-, before, after, rfl, hbefore⟩ := List.find?_eq_some_iff_append.mp hfirst
        rcases List.mem_append.mp hnext with hmem | hmem
        · have hboth := hcloses _ (by simpa using List.find?_some hfind)
          have hnone := hbefore next hmem
          simp [hboth] at hnone
        · rcases List.mem_cons.mp hmem with rfl | hafter
          · exact Nat.le_refl _
          · exact (List.pairwise_cons.mp (List.pairwise_append.mp hsorted).2.1).1 next hafter
      rw [extent_of_closed hmark hfirst, extent_of_closed houter hfind]
      have hself := hstart next hnext
      dsimp only
      omega

end Landmark

namespace Index

variable {document : Node} {text : String} {options : IndexOptions}

theorem exists_enclosing_heading {earlier later : List Placement} {entry : Placement}
    (hsplit : placements document text options = earlier ++ entry :: later)
    (hparent : entry.path.parent ≠ .root) :
    ∃ heading ∈ earlier, heading.mark.isHeading ∧ heading.path = entry.path.parent ∧
      entry.mark.closes heading.mark = false ∧
      (build document text options).get? heading.path =
        some (heading.mark.extent (.ofText text) later) := by
  rw [parent_path hsplit, Placement.enclosing] at hparent
  cases hfind : (Placement.openHeadings earlier).find? fun heading =>
      !entry.mark.closes heading.mark with
  | none => simp [hfind] at hparent
  | some heading =>
      have hopen := List.mem_of_find?_eq_some hfind
      have hbelow : entry.mark.closes heading.mark = false := by
        simpa using List.find?_some hfind
      obtain ⟨before, between, rfl, hstays⟩ := Placement.exists_split_of_mem_openHeadings hopen
      have hstays : heading.mark.staysOpen (between ++ [entry]) := by
        rw [Landmark.staysOpen_append, hstays, hbelow]
        rfl
      have hwhole : placements document text options =
          before ++ heading :: ((between ++ [entry]) ++ later) := by simp [hsplit]
      refine ⟨heading, by simp, (Placement.mem_of_mem_openHeadings hopen).2, ?_, hbelow, ?_⟩
      · rw [parent_path hsplit, Placement.enclosing, hfind]
      · rw [get?_build hwhole, Landmark.extent_append_of_open hstays]

/-! ## Order -/

/-- How the landmarks after a recorded node divide into those inside it and those behind it. -/
structure Divides (lines : LineIndex) (options : IndexOptions) (item : Node × Placement)
    (below after : List (Node × Placement)) : Prop where
  marks : (below.map fun inner => inner.2.mark) = item.1.contents options
  starts : ∀ inner ∈ below,
    (lines.span item.2.mark.source).start ≤ (lines.span inner.2.mark.source).start
  stops : ∀ inner ∈ below,
    (lines.span inner.2.mark.source).start ≤ (lines.span item.2.mark.source).stop
  behind : ∀ next ∈ after,
    (lines.span item.2.mark.source).stop ≤ (lines.span next.2.mark.source).start

theorem exists_visited_split {earlier later : List (Node × Placement)} {item : Node × Placement}
    (hsplit : recorded document text options = earlier ++ item :: later) :
    ∃ front back, document.visited = front ++ item.1 :: back ∧
      (back.filter fun node => (node.landmark? options).isSome) = later.map Prod.fst := by
  have hnodes := map_fst_recorded document text options
  rw [hsplit, List.map_append, List.map_cons] at hnodes
  obtain ⟨front, rest, hvisited, -, hrest⟩ := List.filter_eq_append_iff.mp hnodes.symm
  obtain ⟨skipped, back, rfl, -, -, hback⟩ := List.filter_eq_cons_iff.mp hrest
  exact ⟨front ++ skipped, back, by simp [hvisited], hback⟩

theorem filterMap_landmark_eq {nodes : List Node} {items : List (Node × Placement)}
    (hnodes : (nodes.filter fun node => (node.landmark? options).isSome) = items.map Prod.fst)
    (hmarks : ∀ item ∈ items, item.1.landmark? options = some item.2.mark) :
    nodes.filterMap (Node.landmark? options) = items.map fun item => item.2.mark := by
  calc nodes.filterMap (Node.landmark? options)
      = (nodes.filter fun node => (node.landmark? options).isSome).filterMap
          (Node.landmark? options) := by
        rw [List.filterMap_filter]
        refine List.filterMap_congr ?_
        intro node _
        cases node.landmark? options <;> rfl
    _ = items.filterMap fun item => some item.2.mark := by
        rw [hnodes, List.filterMap_map]
        exact List.filterMap_congr hmarks
    _ = items.map fun item => item.2.mark := congrFun List.filterMap_eq_map' _

theorem exists_divides (hnested : document.Nested (.ofText text))
    {earlier later : List (Node × Placement)} {item : Node × Placement}
    (hsplit : recorded document text options = earlier ++ item :: later) :
    ∃ below after, later = below ++ after ∧
      Divides (.ofText text) options item below after := by
  obtain ⟨front, back, hvisited, hback⟩ := exists_visited_split hsplit
  obtain ⟨beyond, rfl, hbeyond⟩ := hnested.closing document hvisited
  rw [List.filter_append] at hback
  obtain ⟨below, after, rfl, hbelow, hafter⟩ := List.map_eq_append_iff.mp hback.symm
  have hmark {other : Node × Placement} (hother : other ∈ item :: (below ++ after)) :
      other.1.landmark? options = some other.2.mark :=
    landmark?_of_mem_recorded (by rw [hsplit]; exact List.mem_append_right _ hother)
  have hplace {other : Node × Placement} {nodes : List Node}
      (hother : other ∈ item :: (below ++ after)) (hnode : other.1 ∈ nodes) :
      LineIndex.span (.ofText text) other.2.mark.source ∈ Node.places (.ofText text) nodes :=
    Node.mem_places hnode (Node.range_of_landmark? (hmark hother))
  have hsource := Node.range_of_landmark? (hmark List.mem_cons_self)
  have hitem : item.1 ∈ document.preorder :=
    Node.visited_subset_preorder document (by simp [hvisited])
  have hinside {inner : Node × Placement} (hinner : inner ∈ below) :=
    (hnested item.1 hitem).1 _ hsource _ (Node.places_subset _ item.1.inside_subset
      (hplace (by simp [hinner]) (List.mem_filter.mp (hbelow ▸ List.mem_map_of_mem hinner)).1))
  refine ⟨below, after, rfl, ?_⟩
  constructor
  case marks =>
    refine (filterMap_landmark_eq hbelow.symm ?_).symm
    intro inner hinner
    exact hmark (by simp [hinner])
  case starts => exact fun inner hinner => (hinside hinner).1
  case stops =>
    intro inner hinner
    exact ((LineIndex.ofText text).span_within inner.2.mark.source).1.trans (hinside hinner).2
  case behind =>
    intro next hnext
    refine hbeyond _ hsource _ (hplace (by simp [hnext]) ?_)
    exact (List.mem_filter.mp (hafter ▸ List.mem_map_of_mem hnext)).1

theorem pairwise_startsBefore (hnested : document.Nested (.ofText text)) :
    (placements document text options).Pairwise (Placement.StartsBefore (.ofText text)) := by
  have hall {front back : List (Node × Placement)}
      (hsplit : recorded document text options = front ++ back) :
      (back.map Prod.snd).Pairwise (Placement.StartsBefore (.ofText text)) := by
    induction back generalizing front with
    | nil => exact .nil
    | cons item later ih =>
        have hnext : recorded document text options = (front ++ [item]) ++ later := by simp [hsplit]
        rw [List.map_cons, List.pairwise_cons]
        refine ⟨?_, ih hnext⟩
        obtain ⟨below, after, rfl, hdivides⟩ := exists_divides hnested hsplit
        intro next hnext
        obtain ⟨other, hother, rfl⟩ := List.mem_map.mp hnext
        rcases List.mem_append.mp hother with hinner | hbehind
        · exact hdivides.starts other hinner
        · exact ((LineIndex.ofText text).span_within item.2.mark.source).1.trans
            (hdivides.behind other hbehind)
  rw [← map_snd_recorded]
  exact hall (List.nil_append _).symm

/-! ## Containment -/

theorem exists_recorded_of_get? {path : SlugPath} {span : Span}
    (hspan : (build document text options).get? path = some span) :
    ∃ earlier item later, recorded document text options = earlier ++ item :: later ∧
      item.2.path = path ∧ item.2.mark.extent (.ofText text) (later.map Prod.snd) = span := by
  obtain ⟨front, entry, back, hsplit, hpath, hextent⟩ := exists_placement_of_get? hspan
  rw [← map_snd_recorded] at hsplit
  obtain ⟨earlier, rest, hrecorded, -, hrest⟩ := List.map_eq_append_iff.mp hsplit
  obtain ⟨item, later, rfl, rfl, rfl⟩ := List.map_eq_cons_iff.mp hrest
  exact ⟨earlier, item, later, hrecorded, hpath, hextent⟩

section

variable {item : Node × Placement} {below after : List (Node × Placement)} {outer : Landmark}

theorem Divides.stop_of_inner {lines : LineIndex}
    (hdivides : Divides lines options item below after)
    (houter : outer.isHeading)
    (hstart : (lines.span outer.source).start ≤ (lines.span item.2.mark.source).start)
    {inner : Landmark}
    (hinner : ((item.1.contents options).find? fun inner => inner.closes outer) = some inner) :
    (outer.extent lines ((below ++ after).map Prod.snd)).stop = (lines.span inner.source).start ∧
      (lines.span inner.source).start ≤ (lines.span item.2.mark.source).stop := by
  rw [← hdivides.marks, List.find?_map, Option.map_eq_some_iff] at hinner
  obtain ⟨ending, hending, rfl⟩ := hinner
  have hmem := List.mem_of_find?_eq_some hending
  have hfind : ((below ++ after).map Prod.snd).find? (fun next => next.mark.closes outer) =
      some ending.2 := by
    rw [List.find?_map, List.find?_append]
    simp only [Function.comp_def] at hending ⊢
    rw [hending]
    rfl
  rw [Landmark.extent_of_closed houter hfind]
  have hself := hdivides.starts ending hmem
  exact ⟨Nat.max_eq_left (hstart.trans hself), hdivides.stops ending hmem⟩

theorem Divides.stop_of_none {lines : LineIndex} (hdivides : Divides lines options item below after)
    (houter : outer.isHeading)
    (hnone : ((item.1.contents options).find? fun inner => inner.closes outer) = none) :
    (lines.span item.2.mark.source).stop ≤
      (outer.extent lines ((below ++ after).map Prod.snd)).stop := by
  rw [← hdivides.marks, List.find?_map, Option.map_eq_none_iff] at hnone
  cases hfind : ((below ++ after).map Prod.snd).find? fun next => next.mark.closes outer with
  | none =>
      rw [Landmark.extent_of_none houter hfind]
      exact (lines.span_within item.2.mark.source).2
  | some next =>
      rw [Landmark.extent_of_closed houter hfind]
      rw [List.find?_map, List.find?_append] at hfind
      simp only [Function.comp_def] at hnone hfind
      rw [hnone, Option.none_or, Option.map_eq_some_iff] at hfind
      obtain ⟨ending, hending, rfl⟩ := hfind
      have hbehind := hdivides.behind ending (List.mem_of_find?_eq_some hending)
      exact hbehind.trans (Nat.le_max_left _ _)

end

/--
Where the places of the nodes nest as the nodes do, every entry below a heading starts
within the section of the heading.  It ends there as well, unless it is a leaf and something inside
it ends the section: then the section ends where the first such heading starts.
-/
theorem entries_start_in_section_and_end_there (hnested : document.Nested (.ofText text))
    {path : SlugPath} {span : Span}
    (hspan : (build document text options).get? path = some span) (hparent : path.parent ≠ .root) :
    ∃ node entry heading outer, (node, entry) ∈ recorded document text options ∧
      entry.path = path ∧ heading ∈ placements document text options ∧ heading.mark.isHeading ∧
      heading.path = path.parent ∧
      (build document text options).get? path.parent = some outer ∧
      outer.start ≤ span.start ∧ span.start ≤ outer.stop ∧
      match (node.contents options).find? fun inner => inner.closes heading.mark with
      | none => span.stop ≤ outer.stop
      | some inner =>
        outer.stop = ((LineIndex.ofText text).span inner.source).start ∧ outer.stop ≤ span.stop := by
  obtain ⟨earlier, ⟨node, entry⟩, later, hsplit, rfl, rfl⟩ := exists_recorded_of_get? hspan
  have hmem : (node, entry) ∈ recorded document text options := by simp [hsplit]
  have hplaced := placements_of_recorded hsplit
  obtain ⟨heading, hearlier, hheading, hpath, hbelow, houter⟩ :=
    exists_enclosing_heading hplaced hparent
  have hsorted : (placements document text options).Pairwise
      (Placement.StartsBefore (.ofText text)) := pairwise_startsBefore hnested
  rw [hplaced] at hsorted
  obtain ⟨-, hlater, hacross⟩ := List.pairwise_append.mp hsorted
  obtain ⟨hself, hlater⟩ := List.pairwise_cons.mp hlater
  have hstart := hacross heading hearlier entry List.mem_cons_self
  refine ⟨node, entry, heading, _, hmem, rfl, ?_, hheading, hpath, hpath ▸ houter, ?_, ?_, ?_⟩
  · rw [hplaced]
    exact List.mem_append_left _ hearlier
  · rwa [Landmark.start_extent, Landmark.start_extent]
  · rw [Landmark.start_extent]
    exact Landmark.le_stop_extent hheading (LineIndex.start_span_le_length _ _) hself
  · obtain ⟨below, after, rfl, hdivides⟩ := exists_divides hnested hsplit
    cases hfind : (node.contents options).find? fun inner => inner.closes heading.mark with
    | some inner =>
        have hleaf : entry.mark.isHeading = false := by
          by_contra hentry
          simp [Node.contents_of_isHeading (landmark?_of_mem_recorded hmem)
            (by simpa using hentry)] at hfind
        obtain ⟨hstop, hle⟩ := hdivides.stop_of_inner hheading hstart hfind
        rw [Landmark.extent_of_leaf hleaf]
        exact ⟨hstop, hstop.trans_le hle⟩
    | none =>
        cases hentry : entry.mark.isHeading with
        | true =>
            exact Landmark.stop_extent_le hentry hheading
              (fun _ => Landmark.closes_of_closes hentry hbelow) hself hlater
        | false =>
            rw [Landmark.extent_of_leaf hentry]
            exact hdivides.stop_of_none hheading hfind

theorem plain_quote_stays_in_section :
    let document := Node.mk .document none
      [.mk (.heading 2 "A") (some ⟨⟨1, 1⟩, ⟨2, 1⟩⟩) [],
        .mk .blockQuote (some ⟨⟨2, 1⟩, ⟨3, 1⟩⟩) [.mk .paragraph (some ⟨⟨2, 3⟩, ⟨3, 1⟩⟩) []],
        .mk (.heading 1 "B") (some ⟨⟨3, 1⟩, ⟨4, 1⟩⟩) []]
    let text := "## A\n> b\n# B\n"
    document.Nested (.ofText text) ∧
      (build document text .all).get? ⟨["a", "quote"]⟩ = some ⟨5, 9⟩ ∧
      ∃ outer, (build document text .all).get? ⟨["a"]⟩ = some outer ∧ outer.start ≤ 5 ∧
        9 ≤ outer.stop := by
  intro document text
  have hnested : document.Nested (.ofText text) := by decide
  have hspan : (build document text .all).get? ⟨["a", "quote"]⟩ = some ⟨5, 9⟩ := by decide
  have hplain : ∀ item ∈ recorded document text .all, ∀ inner ∈ item.1.contents .all,
      inner.isHeading = false := by decide
  obtain ⟨node, entry, heading, outer, hmem, -, -, -, -, houter, hstart, -, hstop⟩ :=
    entries_start_in_section_and_end_there hnested hspan (by decide)
  have hnone : ((node.contents .all).find? fun inner => inner.closes heading.mark) = none := by
    refine List.find?_eq_none.mpr ?_
    intro inner hinner
    simp [Landmark.leaf_closes (hplain _ hmem inner hinner)]
  rw [hnone] at hstop
  exact ⟨hnested, hspan, outer, houter, hstart, hstop⟩

/-- A heading in a quote ends the section that the quote stands in, and the quote goes on. -/
theorem quote_outlasts_section :
    let document := Node.mk .document none
      [.mk (.heading 2 "A") (some ⟨⟨1, 1⟩, ⟨2, 1⟩⟩) [],
        .mk .blockQuote (some ⟨⟨2, 1⟩, ⟨3, 1⟩⟩) [.mk (.heading 1 "B") (some ⟨⟨2, 3⟩, ⟨3, 1⟩⟩) []]]
    let text := "## A\n> # B\n"
    document.Nested (.ofText text) ∧
      (build document text .all).get? ⟨["a", "quote"]⟩ = some ⟨5, 11⟩ ∧
      (build document text .all).get? ⟨["a"]⟩ = some ⟨0, 7⟩ := by
  decide

end Index

end Sections
