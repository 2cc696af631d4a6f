import Sections.Proofs.Index.Naming
import Sections.Proofs.Index.Resolve

/-!
# The tags of code blocks

A selector names a code block below its path by its language.  The block is looked up by the name
that the first block of the language asks for, `code-` and the tag.  Something else can have this
name: a block or a heading that got a number, or, where there is no such block, a heading of that
very title.
-/

namespace Sections

def NodeKind.hasTag (tag : String) : NodeKind → Bool
  | .code (some language) => slugify language == tag
  | _ => false

theorem Index.Walk.codeSlug_eq_iff {language : Option String} {tag : String} (htag : tag ≠ "") :
    codeSlug language = "code-" ++ tag ↔ language.map slugify = some tag := by
  have hbare : "code" ≠ "code-" ++ tag := by
    intro heq
    have hchars := congrArg String.toList heq
    simp at hchars
  unfold codeSlug
  cases language with
  | none => simpa using hbare
  | some name =>
      by_cases hempty : slugify name = ""
      · simpa [hempty, Ne.symm htag] using hbare
      · simp [hempty]

theorem Landmark.MadeOf.hasTag_iff {kind : NodeKind} {mark : Landmark} (hmade : mark.MadeOf kind)
    {tag : String} (htag : tag ≠ "") :
    kind.hasTag tag ↔ mark.isHeading = false ∧ mark.base = "code-" ++ tag := by
  have hother {name : String} (hname : name.toList.head? ≠ some 'c') : name ≠ "code-" ++ tag := by
    rintro rfl
    simp at hname
  unfold NodeKind.hasTag
  cases hmade with
  | heading level title source => simp [isHeading]
  | code language source =>
      rw [Index.Walk.codeSlug_eq_iff htag]
      cases language with
      | none => simp
      | some name => simp [isHeading]
  | paragraph source => simpa [isHeading] using hother (by decide)
  | listItem source => simpa [isHeading] using hother (by decide)
  | blockQuote source => simpa [isHeading] using hother (by decide)

namespace Index

/-- The recorded nodes of a document in the order they are visited, with their places. -/
def recorded (document : Node) (text : String) (options : IndexOptions) :
    List (Node × Placement) :=
  (document.visited.filter fun node => (node.landmark? options).isSome).zip
    (placements document text options)

/-- The first code block directly below a path whose language has the given slug. -/
def tagged? (document : Node) (text : String) (options : IndexOptions) (path : SlugPath)
    (tag : String) : Option (Node × Placement) :=
  (recorded document text options).find? fun item =>
    item.2.path.parent = path && item.1.kind.hasTag tag

/-- What has the name of a code block of the given language and is not one. -/
def rival? (document : Node) (text : String) (options : IndexOptions) (path : SlugPath)
    (tag : String) : Option (Node × Placement) :=
  (recorded document text options).find? fun item =>
    item.2.path = path.child ("code-" ++ tag) && !item.1.kind.hasTag tag

variable {document : Node} {text : String} {options : IndexOptions}

private theorem zip_landmarks {nodes : List Node} {placed : List Placement}
    (h : placed.map Placement.mark = nodes.filterMap (Node.landmark? options)) :
    let items := (nodes.filter fun node => (node.landmark? options).isSome).zip placed
    items.map Prod.snd = placed ∧
      ∀ item ∈ items, item.1.landmark? options = some item.2.mark := by
  induction nodes generalizing placed with
  | nil =>
      have hnil : placed = [] := by simpa using h
      simp [hnil]
  | cons node nodes ih =>
      cases hmark : node.landmark? options with
      | none => simpa [hmark] using ih (by simpa [hmark] using h)
      | some mark =>
          cases placed with
          | nil => simp [hmark] at h
          | cons first placed =>
              obtain ⟨hfirst, hrest⟩ : first.mark = mark ∧
                  placed.map Placement.mark = nodes.filterMap (Node.landmark? options) := by
                simpa [hmark] using h
              simpa [hmark, hfirst] using ih hrest

theorem map_snd_recorded (document : Node) (text : String) (options : IndexOptions) :
    (recorded document text options).map Prod.snd = placements document text options :=
  (zip_landmarks (map_mark_placements document text options)).1

theorem map_fst_recorded (document : Node) (text : String) (options : IndexOptions) :
    (recorded document text options).map Prod.fst =
      document.visited.filter fun node => (node.landmark? options).isSome := by
  refine List.map_fst_zip (Nat.le_of_eq ?_)
  have hlength := congrArg List.length (map_mark_placements document text options)
  rw [List.length_map, Node.landmarks, List.length_filterMap_eq_countP] at hlength
  rw [hlength, List.countP_eq_length_filter]

theorem landmark?_of_mem_recorded {item : Node × Placement}
    (hitem : item ∈ recorded document text options) :
    item.1.landmark? options = some item.2.mark :=
  (zip_landmarks (map_mark_placements document text options)).2 item hitem

theorem madeOf_of_mem_recorded {item : Node × Placement}
    (hitem : item ∈ recorded document text options) : item.2.mark.MadeOf item.1.kind :=
  item.1.madeOf (landmark?_of_mem_recorded hitem)

theorem placements_of_recorded {earlier later : List (Node × Placement)} {item : Node × Placement}
    (hsplit : recorded document text options = earlier ++ item :: later) :
    placements document text options =
      earlier.map Prod.snd ++ item.2 :: later.map Prod.snd := by
  rw [← map_snd_recorded, hsplit, List.map_append, List.map_cons]

theorem mem_placements_of_recorded {item : Node × Placement}
    (hitem : item ∈ recorded document text options) :
    item.2 ∈ placements document text options := by
  rw [← map_snd_recorded]
  exact List.mem_map_of_mem hitem

/-! ## The first block of a language -/

section

variable {path : SlugPath} {tag : String} {block rival : Node × Placement}

theorem tagged?_eq_some (hblock : tagged? document text options path tag = some block) :
    ∃ earlier later, recorded document text options = earlier ++ block :: later ∧
      block.2.path.parent = path ∧ block.1.kind.hasTag tag ∧
      ∀ item ∈ earlier, item.2.path.parent = path → item.1.kind.hasTag tag = false := by
  obtain ⟨hself, earlier, later, hsplit, hbefore⟩ := List.find?_eq_some_iff_append.mp hblock
  simp only [Bool.and_eq_true, decide_eq_true_eq] at hself
  refine ⟨earlier, later, hsplit, hself.1, hself.2, ?_⟩
  intro item hitem hparent
  simpa [hparent] using hbefore item hitem

theorem rival?_eq_some (hrival : rival? document text options path tag = some rival) :
    rival ∈ recorded document text options ∧ rival.2.path = path.child ("code-" ++ tag) ∧
      rival.1.kind.hasTag tag = false := by
  refine ⟨List.mem_of_find?_eq_some hrival, ?_⟩
  simpa using List.find?_some hrival

theorem path_of_no_rival (htag : tag ≠ "")
    (hblock : tagged? document text options path tag = some block)
    (hrival : rival? document text options path tag = none) :
    block.2.path = path.child ("code-" ++ tag) := by
  obtain ⟨earlier, later, hsplit, hparent, hself, hbefore⟩ := tagged?_eq_some hblock
  have hmem : block ∈ recorded document text options := by simp [hsplit]
  obtain ⟨-, hbase⟩ := ((madeOf_of_mem_recorded hmem).hasTag_iff htag).mp hself
  have hused := child_base_mem (placements_of_recorded hsplit)
  rw [hparent, hbase, List.map_append, List.mem_append] at hused
  rcases hused with htaken | hown
  · simp only [List.map_map, List.mem_map, Function.comp_apply] at htaken
    obtain ⟨item, hitem, hpath⟩ := htaken
    have hlisted : item ∈ recorded document text options := by simp [hsplit, hitem]
    have htagged := List.find?_eq_none.mp hrival item hlisted
    have hbelow : item.2.path.parent = path := by rw [hpath, SlugPath.parent_child]
    simp [hpath, hbefore item hitem hbelow] at htagged
  · symm
    simpa using hown

theorem notMem_paths_of_no_rival (hblock : tagged? document text options path tag = none)
    (hrival : rival? document text options path tag = none) :
    path.child ("code-" ++ tag) ∉ (build document text options).paths := by
  intro hpath
  obtain ⟨entry, hentry, hname⟩ :=
    List.mem_map.mp ((paths_build document text options).subset hpath)
  rw [← map_snd_recorded] at hentry
  obtain ⟨item, hitem, rfl⟩ := List.mem_map.mp hentry
  have hother := List.find?_eq_none.mp hrival item hitem
  have htagged := List.find?_eq_none.mp hblock item hitem
  simp [hname] at hother htagged
  simp [hother] at htagged

theorem tagged?_eq_none_of_heading (htag : tag ≠ "")
    (hmem : rival ∈ recorded document text options) (hheading : rival.2.mark.isHeading)
    (hpath : rival.2.path = path.child ("code-" ++ tag)) :
    tagged? document text options path tag = none := by
  by_contra hsome
  obtain ⟨block, hblock⟩ := Option.ne_none_iff_exists'.mp hsome
  obtain ⟨earlier, later, hsplit, hparent, hself, -⟩ := tagged?_eq_some hblock
  have hplaced := placements_of_recorded hsplit
  have hblockmem : block ∈ recorded document text options := by simp [hsplit]
  obtain ⟨hleaf, hbase⟩ := ((madeOf_of_mem_recorded hblockmem).hasTag_iff htag).mp hself
  rw [hsplit] at hmem
  rcases List.mem_append.mp hmem with hbefore | hafter
  · refine parent_ne_of_heading_before_leaf hplaced hleaf (List.mem_map_of_mem hbefore) hheading ?_
    rw [hpath, SlugPath.parent_child, hparent]
  · rcases List.mem_cons.mp hafter with rfl | hlater
    · simp [hheading] at hleaf
    · have hused := child_base_mem hplaced
      rw [hparent, hbase, ← hpath] at hused
      obtain ⟨holder, hholder, hsame⟩ := List.mem_map.mp hused
      have hfront : placements document text options =
          (earlier.map Prod.snd ++ [block.2]) ++ later.map Prod.snd := by simpa using hplaced
      exact path_ne_of_split hfront hholder (List.mem_map_of_mem hlater) hsame

theorem rival_cases (htag : tag ≠ "")
    (hrival : rival? document text options path tag = some rival) :
    (rival.2.mark.isHeading ∧ rival.2.mark.base = "code-" ++ tag ∧
        tagged? document text options path tag = none) ∨
      ∃ suffix, "code-" ++ tag = SiblingSlugs.suffixed rival.2.mark.base suffix := by
  obtain ⟨hmem, hpath, hother⟩ := rival?_eq_some hrival
  obtain ⟨parent, slug, hchild, hslug⟩ := exists_child_of_mem (mem_placements_of_recorded hmem)
  obtain ⟨-, rfl⟩ := SlugPath.child_injective (hchild.symm.trans hpath)
  rcases hslug with hbase | hsuffix
  · have hheading : rival.2.mark.isHeading := by
      by_contra hleaf
      have htagged := ((madeOf_of_mem_recorded hmem).hasTag_iff htag).mpr
        ⟨by simpa using hleaf, hbase.symm⟩
      simp [hother] at htagged
    exact .inl ⟨hheading, hbase.symm, tagged?_eq_none_of_heading htag hmem hheading hpath⟩
  · exact .inr hsuffix

end

/-! ## Selectors -/

/--
Unless a rival has its name, a tag stands for the first code block of that language
directly below the path, and for nothing where there is none.  A rival stands in for it.
-/
theorem field_stands_for_first_tagged_block (document : Node) (text : String)
    (options : IndexOptions) (path : SlugPath) {field : String} (hfield : slugify field ≠ "")
    (range : Option Span) :
    (rival? document text options path (slugify field) = none →
      resolveSpan (build document text options) ⟨path, some field, range⟩ text.utf8ByteSize =
        match tagged? document text options path (slugify field) with
        | some block => .ok ((LineIndex.ofText text).span block.2.mark.source)
        | none =>
          resolveSpan (build document text options) ⟨path, none, range⟩ text.utf8ByteSize) ∧
      ∀ rival, rival? document text options path (slugify field) = some rival →
        (∃ span, (build document text options).get? rival.2.path = some span ∧
          resolveSpan (build document text options) ⟨path, some field, range⟩ text.utf8ByteSize =
            .ok span) ∧
        ((rival.2.mark.isHeading ∧ rival.2.mark.base = "code-" ++ slugify field ∧
            tagged? document text options path (slugify field) = none) ∨
          ∃ suffix, "code-" ++ slugify field = SiblingSlugs.suffixed rival.2.mark.base suffix) := by
  constructor
  · intro hrival
    cases hblock : tagged? document text options path (slugify field) with
    | some block =>
        obtain ⟨earlier, later, hsplit, -, hself, -⟩ := tagged?_eq_some hblock
        have hmem : block ∈ recorded document text options := by simp [hsplit]
        have hleaf := (((madeOf_of_mem_recorded hmem).hasTag_iff hfield).mp hself).1
        have hspan := get?_build (placements_of_recorded hsplit)
        rw [path_of_no_rival hfield hblock hrival] at hspan
        have hwithin := block.2.mark.extent_within (.ofText text) (later.map Prod.snd)
        have hextent : block.2.mark.extent (.ofText text) (later.map Prod.snd) =
            (LineIndex.ofText text).span block.2.mark.source := by simp [Landmark.extent, hleaf]
        rw [hextent] at hspan hwithin
        exact resolveSpan_of_field hfield hspan hwithin range
    | none =>
        have hnone := get?_eq_none (notMem_paths_of_no_rival hblock hrival)
        rw [resolveSpan, taggedBlock?_eq _ path hfield range, hnone]
        rfl
  · intro rival hrival
    refine ⟨?_, rival_cases hfield hrival⟩
    obtain ⟨hmem, hpath, -⟩ := rival?_eq_some hrival
    have hlisted : rival.2.path ∈ (build document text options).paths :=
      (paths_build document text options).symm.subset
        (List.mem_map_of_mem (mem_placements_of_recorded hmem))
    obtain ⟨span, hspan, hwithin⟩ := exists_get?_of_mem_paths hlisted
    refine ⟨span, hspan, resolveSpan_of_field hfield ?_ hwithin range⟩
    rw [← hpath]
    exact hspan

theorem rust_tag_stands_for_its_block :
    let document := Node.ofLines [.heading 1 "Guide", .code (some "bash"), .code (some "Rust")]
    let text := "# Guide\na\nb\n"
    slugify "rust" ≠ "" ∧ rival? document text .bare ⟨["guide"]⟩ (slugify "rust") = none ∧
      resolveSpan (build document text .bare) ⟨⟨["guide"]⟩, some "rust", none⟩
        text.utf8ByteSize = .ok ⟨10, 12⟩ := by
  intro document text
  have hfield : slugify "rust" ≠ "" := by decide
  have hrival : rival? document text .bare ⟨["guide"]⟩ (slugify "rust") = none := by decide
  refine ⟨hfield, hrival, ?_⟩
  obtain ⟨block, hblock, hspan⟩ : ∃ block,
      tagged? document text .bare ⟨["guide"]⟩ (slugify "rust") = some block ∧
        (LineIndex.ofText text).span block.2.mark.source = ⟨10, 12⟩ := ⟨_, rfl, by decide⟩
  have hresolved := (field_stands_for_first_tagged_block document text .bare ⟨["guide"]⟩ hfield
    none).1 hrival
  rw [hblock] at hresolved
  exact hresolved.trans (congrArg Except.ok hspan)

/--
The second block without a language is called `code-1`, so it is taken for a block of a
language `1`; and a section about Rust code is taken for a block of Rust code.
-/
theorem tag_stands_for_number_and_title :
    let document := Node.ofLines
      [.heading 1 "Guide", .code none, .code none, .code (some "1"), .heading 2 "Code Rust"]
    let text := "# Guide\na\nb\nc\n## Code Rust\n"
    let resolveTag := fun tag =>
      resolveSpan (build document text .bare) ⟨⟨["guide"]⟩, tag, none⟩ text.utf8ByteSize
    ((tagged? document text .bare ⟨["guide"]⟩ (slugify "1")).map fun block =>
        (LineIndex.ofText text).span block.2.mark.source) = some ⟨12, 14⟩ ∧
      resolveTag (some "1") = .ok ⟨10, 12⟩ ∧
      tagged? document text .bare ⟨["guide"]⟩ (slugify "rust") = none ∧
      resolveTag none = .ok ⟨0, 27⟩ ∧ resolveTag (some "rust") = .ok ⟨14, 27⟩ := by
  intro document text resolveTag
  refine ⟨by decide, ?_, by decide, ?_, ?_⟩
  · exact resolveSpan_of_field (by decide) (by decide) ⟨by decide, by decide⟩ none
  · exact resolveSpan_ofPath (by decide) ⟨by decide, by decide⟩
  · exact resolveSpan_of_field (by decide) (by decide) ⟨by decide, by decide⟩ none

end Index

end Sections
