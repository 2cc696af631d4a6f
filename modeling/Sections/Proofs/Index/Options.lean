import Sections.Proofs.Index.Boundaries
import Sections.Proofs.Index.Matching

/-!
# Options that ask for more

Paragraphs, list items and block quotes are recorded where the options ask for them.  Options that
ask for more record all that was recorded, with the same bytes and declarations, and leaves besides.
These leaves take names, though: a heading beside them whose title reads as such a name gets another
number, and with it all that stands below it.
-/

namespace Sections

namespace IndexOptions

instance : LE IndexOptions :=
  ⟨fun few many => (few.paragraphs → many.paragraphs) ∧ (few.listItems → many.listItems) ∧
    (few.blockQuotes → many.blockQuotes)⟩

instance (few many : IndexOptions) : Decidable (few ≤ many) :=
  inferInstanceAs (Decidable (_ ∧ _ ∧ _))

def recordsLeaf (options : IndexOptions) (word : String) : Bool :=
  if word = "para" then options.paragraphs
  else if word = "li" then options.listItems
  else if word = "quote" then options.blockQuotes
  else true

/-- Whether the options ask for what a landmark is. -/
def records (options : IndexOptions) (mark : Landmark) : Bool :=
  mark.isHeading || options.recordsLeaf mark.base

def optionalWords : List String := ["para", "li", "quote"]

variable {options few many : IndexOptions} {mark : Landmark} {word : String}

theorem mem_optionalWords (hleft : options.recordsLeaf word = false) : word ∈ optionalWords := by
  by_contra hother
  simp [optionalWords] at hother
  simp [recordsLeaf, hother] at hleft

theorem prefix_codeSlug (language : Option String) :
    "code".toList <+: (Index.Walk.codeSlug language).toList := by
  unfold Index.Walk.codeSlug
  split
  · split
    · exact List.prefix_rfl
    · next tag _ _ => exact ⟨'-' :: tag.toList, by simp⟩
  · exact List.prefix_rfl

theorem recordsLeaf_codeSlug (options : IndexOptions) (language : Option String) :
    options.recordsLeaf (Index.Walk.codeSlug language) = true := by
  have happart : ∀ word ∈ optionalWords, ¬"code".toList <+: word.toList := by decide
  by_contra hleft
  exact happart _ (mem_optionalWords (by simpa using hleft)) (prefix_codeSlug language)

theorem isHeading_of_numbered {kind : NodeKind} (hmade : mark.MadeOf kind)
    (hrecords : options.records mark) (hleft : options.recordsLeaf word = false)
    (hnumbered : Numbered word mark.base) : mark.isHeading := by
  have hword := mem_optionalWords hleft
  have hprefix := hnumbered.isPrefix
  have hrecorded (hbase : mark.base ∈ optionalWords) : mark.isHeading := by
    have happart : ∀ word ∈ optionalWords, ∀ other ∈ optionalWords,
        word.toList <+: other.toList → word = other := by decide
    rw [happart word hword _ hbase hprefix] at hleft
    simpa [records, hleft] using hrecords
  cases hmade with
  | heading level title source => rfl
  | code language source =>
      have happart : ∀ word ∈ optionalWords,
          ¬("code".toList <+: word.toList ∨ word.toList <+: "code".toList) := by decide
      exact absurd (List.prefix_or_prefix_of_prefix (prefix_codeSlug language) hprefix)
        (happart word hword)
  | paragraph source | listItem source | blockQuote source =>
      exact hrecorded (by simp [optionalWords])

end IndexOptions

variable {few many : IndexOptions}

theorem Landmark.ite_eq_filter {asked askedToo : Bool} (hle : asked → askedToo)
    {keep : Landmark → Bool} {mark : Landmark} (hkeep : keep mark = asked) :
    (if asked then some mark else none) =
      (if askedToo then some mark else none).filter keep := by
  cases asked <;> cases askedToo <;> simp_all [Option.filter]

theorem Node.landmark?_eq_filter (hle : few ≤ many) (node : Node) :
    node.landmark? few = (node.landmark? many).filter few.records := by
  obtain ⟨hpara, hitem, hquote⟩ := hle
  obtain ⟨kind, range, children⟩ := node
  cases range with
  | none => cases kind <;> simp [landmark?]
  | some source =>
      cases kind with
      | document | other name => rfl
      | heading level title => rfl
      | code language =>
          have hkeep : few.records ⟨none, Index.Walk.codeSlug language, source⟩ :=
            few.recordsLeaf_codeSlug language
          exact (Option.filter_some_pos hkeep).symm
      | paragraph => exact Landmark.ite_eq_filter hpara rfl
      | listItem => exact Landmark.ite_eq_filter hitem rfl
      | blockQuote => exact Landmark.ite_eq_filter hquote rfl

theorem Node.landmarks_eq_filter (hle : few ≤ many) (document : Node) :
    document.landmarks few = (document.landmarks many).filter few.records := by
  rw [landmarks, landmarks, List.filter_filterMap]
  exact List.filterMap_congr fun node _ => landmark?_eq_filter hle node

namespace Index

variable {document : Node} {text : String} {options : IndexOptions}

theorem named_placements (document : Node) (text : String) (options : IndexOptions) :
    Placement.Named (placements document text options) :=
  fun _ _ _ hsplit => leastFree_of_placements hsplit

theorem leavesOut_placements (document : Node) (text : String) (few many : IndexOptions) :
    Placement.LeavesOut few.records (placements document text many) := by
  intro entry _ hleft
  obtain ⟨hleaf, hword⟩ := Bool.or_eq_false_iff.mp hleft
  have hhyphen : ∀ word ∈ IndexOptions.optionalWords, '-' ∉ word.toList := by decide
  exact ⟨hleaf, hhyphen _ (IndexOptions.mem_optionalWords hword)⟩

theorem map_mark_kept (hle : few ≤ many) (document : Node) (text : String) :
    (placements document text few).map Placement.mark =
      (Placement.kept few.records (placements document text many)).map Placement.mark := by
  have hkept : (Placement.kept few.records (placements document text many)).map Placement.mark =
      ((placements document text many).map Placement.mark).filter few.records := by
    rw [List.filter_map]
    rfl
  rw [hkept, map_mark_placements, map_mark_placements, Node.landmarks_eq_filter hle]

/--
What some options record, options that ask for more record too, with the same bytes and
the same declaration.  Its path is the same unless it leads through a heading whose slug is the word
of leaves that are recorded beside the heading only now, perhaps with numbers behind the word.
-/
theorem entries_survive_further_kinds (hle : few ≤ many) (document : Node) (text : String) :
    ∀ path ∈ (build document text few).paths,
      ∃ entry ∈ placements document text few, entry.path = path ∧
        ∃ other ∈ placements document text many, other.mark = entry.mark ∧
          (∃ span, (build document text few).get? path = some span ∧
            (build document text many).get? other.path = some span) ∧
          (build document text many).heading? other.path =
            (build document text few).heading? path ∧
          (other.path = path ∨
            ∃ heading ∈ placements document text many, heading.mark.isHeading ∧
              heading.path.segments <+: other.path.segments ∧
              Placement.Contested few.records (placements document text many) heading.path.parent
                heading.mark.base) := by
  intro path hpath
  have hleaves := leavesOut_placements document text few many
  obtain ⟨pairs, hmatches⟩ := Placement.exists_matches hleaves (named_placements document text few)
    (named_placements document text many) (map_mark_kept hle document text)
  obtain ⟨_, entry, _, hsplit, rfl⟩ := exists_placement_of_mem_paths hpath
  have hentry : entry ∈ pairs.map Prod.fst := by simp [hmatches.first, hsplit]
  obtain ⟨pair, hpair, rfl⟩ := List.mem_map.mp hentry
  have hmark := hmatches.marks pair hpair
  have hfew := hmatches.mem_few hpair
  have hmany := hmatches.mem_many hpair
  refine ⟨pair.1, hfew, rfl, pair.2, hmany, hmark.symm, ?_, ?_, ?_⟩
  · obtain ⟨earlier, later, earlier', later', hsplit, hsplit', hheadings⟩ :=
      hmatches.exists_splits hleaves hpair
    refine ⟨_, get?_build hsplit, ?_⟩
    rw [get?_build hsplit', ← hmark, Landmark.extent_congr hheadings]
  · cases hheading : pair.1.mark.isHeading with
    | true => rw [heading?_build hfew hheading, heading?_build hmany (hmark ▸ hheading), hmark]
    | false => rw [heading?_of_leaf hfew hheading, heading?_of_leaf hmany (hmark ▸ hheading)]
  · rcases hmatches.path_eq_or hpair with hsame | ⟨above, habove, hprefix, hcontested⟩
    · exact .inl hsame.symm
    · refine .inr ⟨above.2, hmatches.mem_many habove, ?_, hprefix, hcontested⟩
      obtain ⟨leaf, -, hleft, -, hnumbered⟩ := hcontested
      obtain ⟨kind, hmade⟩ := exists_madeOf_of_mem (hmatches.mem_many habove)
      have hkept : above.2 ∈ Placement.kept few.records (placements document text many) :=
        hmatches.second ▸ List.mem_map_of_mem habove
      exact IndexOptions.isHeading_of_numbered hmade (List.mem_filter.mp hkept).2
        (Bool.or_eq_false_iff.mp hleft).2 hnumbered

theorem heading_beside_paragraph_survives :
    let document := Node.ofLines [.paragraph, .heading 1 "Intro"]
    let text := "Text.\n# Intro\n"
    IndexOptions.bare ≤ IndexOptions.bare.withParagraphs ∧
      ∃ span, (build document text .bare).get? ⟨["intro"]⟩ = some span ∧
        ∃ path, (build document text IndexOptions.bare.withParagraphs).get? path = some span ∧
          (build document text IndexOptions.bare.withParagraphs).heading? path =
            (build document text .bare).heading? ⟨["intro"]⟩ := by
  intro document text
  have hle : IndexOptions.bare ≤ IndexOptions.bare.withParagraphs := by decide
  obtain ⟨-, -, -, other, -, -, ⟨span, hfew, hmany⟩, hheading, -⟩ :=
    entries_survive_further_kinds hle document text ⟨["intro"]⟩ (by decide)
  exact ⟨hle, span, hfew, other.path, hmany, hheading⟩

/-- A paragraph that is listed too takes the name of a heading that reads as one. -/
theorem paragraph_takes_name_of_heading :
    let document := Node.ofLines [.paragraph, .heading 1 "Para"]
    let text := "Text.\n# Para\n"
    IndexOptions.bare ≤ IndexOptions.bare.withParagraphs ∧
      (build document text .bare).get? ⟨["para"]⟩ = some ⟨6, 13⟩ ∧
      (build document text .bare).heading? ⟨["para"]⟩ =
        some ⟨⟨⟨2, 1⟩, ⟨3, 1⟩⟩, ⟨6, 13⟩⟩ ∧
      (build document text IndexOptions.bare.withParagraphs).get? ⟨["para"]⟩ = some ⟨0, 6⟩ ∧
      (build document text IndexOptions.bare.withParagraphs).heading? ⟨["para"]⟩ = none := by
  decide

end Index

end Sections
