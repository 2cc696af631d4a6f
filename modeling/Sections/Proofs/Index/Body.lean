import Sections.Proofs.Index.Growth

/-!
# Bodies of sections

A section is the line of its heading and the body behind it.  A later heading can start before the
line ends; the line then counts only up to there, and the body is empty.
-/

namespace Sections

namespace Span

variable {text : String} {start mid stop : Nat}

theorem slice_eq_ok_of_joined {front middle back : List Char}
    (hjoined : front ++ middle ++ back = text.toList) (hstart : byteLength front = start)
    (hstop : byteLength front + byteLength middle = stop) :
    (Span.mk start stop).slice text = .ok (.ofList middle) := by
  have hsplit : (Span.mk start stop).split? text = some (front, middle, back) :=
    split?_eq_some_iff.mpr ⟨hjoined, hstart, hstop⟩
  rw [slice, hsplit]

theorem exists_slice_append (hstart : IsBoundary text start) (hmid : IsBoundary text mid)
    (hstop : IsBoundary text stop) (hle : start ≤ mid) (hle' : mid ≤ stop) :
    ∃ first second, (Span.mk start mid).slice text = .ok first ∧
      (Span.mk mid stop).slice text = .ok second ∧
      (Span.mk start stop).slice text = .ok (first ++ second) := by
  obtain ⟨front, rest, hcut⟩ := isBoundary_iff_cutAt.mp hstart
  obtain ⟨longer, rest', hcut'⟩ := isBoundary_iff_cutAt.mp hmid
  obtain ⟨longest, back, hcut''⟩ := isBoundary_iff_cutAt.mp hstop
  obtain ⟨hfront, rfl⟩ := cutAt_eq_some_iff.mp hcut
  obtain ⟨hlonger, rfl⟩ := cutAt_eq_some_iff.mp hcut'
  obtain ⟨hlongest, rfl⟩ := cutAt_eq_some_iff.mp hcut''
  obtain ⟨first, rfl⟩ := prefix_of_byteLength_le ⟨rest, hfront⟩ ⟨rest', hlonger⟩ hle
  obtain ⟨second, rfl⟩ := prefix_of_byteLength_le ⟨rest', hlonger⟩ ⟨back, hlongest⟩ hle'
  refine ⟨.ofList first, .ofList second, ?_, ?_, ?_⟩
  · exact slice_eq_ok_of_joined hlonger rfl (byteLength_append _ _).symm
  · exact slice_eq_ok_of_joined hlongest rfl (byteLength_append _ _).symm
  · have hjoined : front ++ (first ++ second) ++ back = text.toList := by
      simpa only [List.append_assoc] using hlongest
    have hlength : byteLength front + byteLength (first ++ second) =
        byteLength (front ++ first ++ second) := by
      rw [← byteLength_append, List.append_assoc]
    rw [← String.ofList_append]
    exact slice_eq_ok_of_joined hjoined rfl hlength

end Span

theorem toOption_isSome_iff {ε α : Type} {answer : Except ε α} :
    answer.toOption.isSome ↔ answer.isOk := by
  cases answer <;> simp [Except.toOption, Except.isOk, Except.toBool]

namespace Index

variable {document : Node} {text : String} {options : IndexOptions} {path : SlugPath}
  {index : Index} {declaration : HeadingDeclaration} {span : Span}

theorem sectionBody?_eq (hdeclared : index.heading? path = some declaration)
    (hspan : index.get? path = some span) (text : String) :
    index.sectionBody? path text =
      ((Span.mk (min declaration.bytes.stop span.stop) span.stop).slice text).toOption := by
  simp [sectionBody?, hdeclared, hspan]

theorem sectionBody?_eq_none (hundeclared : index.heading? path = none) (text : String) :
    index.sectionBody? path text = none := by
  simp [sectionBody?, hundeclared]

theorem isBodyEmpty_iff : index.isBodyEmpty path text ↔
    ∃ body, index.sectionBody? path text = some body ∧ ∀ c ∈ body.toList, isBlank c := by
  simp [isBodyEmpty, Option.any_eq_true]

theorem exists_section {entry : Placement} (hentry : entry ∈ placements document text options)
    (hheading : entry.mark.isHeading) :
    ∃ declaration span, (build document text options).heading? entry.path = some declaration ∧
      (build document text options).get? entry.path = some span ∧
      declaration.bytes.start = span.start ∧
      declaration.bytes.start ≤ declaration.bytes.stop := by
  obtain ⟨earlier, later, hsplit⟩ := List.append_of_mem hentry
  refine ⟨_, _, heading?_build hentry hheading, get?_build hsplit, ?_, ?_⟩
  · exact (Landmark.start_extent (.ofText text) entry.mark later).symm
  · exact ((LineIndex.ofText text).span_within entry.mark.source).1

theorem sectionBody?_isSome_iff (hdeclared : index.heading? path = some declaration)
    (hspan : index.get? path = some span) (text : String) :
    (index.sectionBody? path text).isSome ↔
      IsBoundary text (min declaration.bytes.stop span.stop) ∧ IsBoundary text span.stop := by
  rw [sectionBody?_eq hdeclared hspan, toOption_isSome_iff, Span.slice_isOk_iff]
  exact and_iff_right (Nat.min_le_right _ _)

theorem exists_line_of_sectionBody? (hdeclared : index.heading? path = some declaration)
    (hspan : index.get? path = some span) (hstart : declaration.bytes.start = span.start)
    (hline : declaration.bytes.start ≤ declaration.bytes.stop) {body whole : String}
    (hbody : index.sectionBody? path text = some body) (hwhole : span.slice text = .ok whole) :
    ∃ line, (Span.mk span.start (min declaration.bytes.stop span.stop)).slice text = .ok line ∧
      whole = line ++ body := by
  have hwholeOk : (span.slice text).isOk := by simp [hwhole, Except.isOk, Except.toBool]
  obtain ⟨hle, hfirst, hlast⟩ := Span.slice_isOk_iff.mp hwholeOk
  have hsome : (index.sectionBody? path text).isSome := by simp [hbody]
  obtain ⟨hmid, -⟩ := (sectionBody?_isSome_iff hdeclared hspan text).mp hsome
  obtain ⟨line, rest, hsliceLine, hsliceRest, hsliceWhole⟩ :=
    Span.exists_slice_append hfirst hmid hlast (by omega) (Nat.min_le_right _ _)
  refine ⟨line, hsliceLine, ?_⟩
  rw [sectionBody?_eq hdeclared hspan, hsliceRest] at hbody
  rw [hsliceWhole] at hwhole
  cases hbody
  cases hwhole
  rfl

theorem sectionBody?_of_undeclared (hundeclared : index.heading? path = none) (text : String) :
    index.sectionBody? path text = none ∧ index.isBodyEmpty path text = false := by
  have hbody := sectionBody?_eq_none hundeclared text
  exact ⟨hbody, by simp [isBodyEmpty, hbody]⟩

/--
The section of a heading starts with the declared line, as far as the line lies in the
section, and the rest is its body.  There is a body if it lies between characters, and nothing but
headings has one.
-/
theorem section_is_line_and_body (document : Node) (text : String) (options : IndexOptions) :
    (∀ entry ∈ placements document text options, entry.mark.isHeading →
      ∃ declaration span, (build document text options).heading? entry.path = some declaration ∧
        (build document text options).get? entry.path = some span ∧
        declaration.bytes.start = span.start ∧
        (((build document text options).sectionBody? entry.path text).isSome ↔
          IsBoundary text (min declaration.bytes.stop span.stop) ∧ IsBoundary text span.stop) ∧
        ∀ body whole, (build document text options).sectionBody? entry.path text = some body →
          span.slice text = .ok whole →
          ∃ line, (Span.mk span.start (min declaration.bytes.stop span.stop)).slice text =
              .ok line ∧ whole = line ++ body) ∧
      (∀ path, (build document text options).isBodyEmpty path text ↔
        ∃ body, (build document text options).sectionBody? path text = some body ∧
          ∀ c ∈ body.toList, isBlank c) ∧
      (∀ path, (∀ entry ∈ placements document text options,
          entry.mark.isHeading → entry.path ≠ path) →
        (build document text options).sectionBody? path text = none ∧
          (build document text options).isBodyEmpty path text = false) ∧
      ∀ leaf ∈ placements document text options, leaf.mark.isHeading = false →
        (build document text options).sectionBody? leaf.path text = none ∧
          (build document text options).isBodyEmpty leaf.path text = false := by
  refine ⟨?_, fun path => isBodyEmpty_iff, ?_, ?_⟩
  · intro entry hentry hheading
    obtain ⟨declaration, span, hdeclared, hspan, hstart, hline⟩ :=
      exists_section hentry hheading
    refine ⟨declaration, span, hdeclared, hspan, hstart,
      sectionBody?_isSome_iff hdeclared hspan text, ?_⟩
    intro body whole hbody hwhole
    exact exists_line_of_sectionBody? hdeclared hspan hstart hline hbody hwhole
  · intro path hpath
    refine sectionBody?_of_undeclared ?_ text
    by_contra hdeclared
    obtain ⟨declaration, hdeclared⟩ := Option.ne_none_iff_exists'.mp hdeclared
    obtain ⟨entry, hentry, hheading, hsame⟩ := exists_placement_of_heading? hdeclared
    exact hpath entry hentry hheading hsame
  · intro leaf hmem hleaf
    exact sectionBody?_of_undeclared (heading?_of_leaf hmem hleaf) text

theorem overlapped_section_is_line_alone :
    let document := Node.mk .document none
      [.mk (.heading 1 "A") (some ⟨⟨1, 1⟩, ⟨3, 1⟩⟩) [],
        .mk (.heading 1 "B é") (some ⟨⟨2, 1⟩, ⟨3, 1⟩⟩) []]
    let text := "# A\n# B é\nc\n"
    let index := build document text .bare
    index.heading? ⟨["a"]⟩ = some ⟨⟨⟨1, 1⟩, ⟨3, 1⟩⟩, ⟨0, 11⟩⟩ ∧ index.get? ⟨["a"]⟩ = some ⟨0, 4⟩ ∧
      index.sectionBody? ⟨["a"]⟩ text = some "" ∧
      ∃ line, (Span.mk 0 4).slice text = .ok line ∧ "# A\n" = line ++ "" := by
  intro document text index
  have hentry : ⟨⟨some 1, "a", ⟨⟨1, 1⟩, ⟨3, 1⟩⟩⟩, ⟨["a"]⟩⟩ ∈ placements document text .bare := by
    decide
  have hheading : index.heading? ⟨["a"]⟩ = some ⟨⟨⟨1, 1⟩, ⟨3, 1⟩⟩, ⟨0, 11⟩⟩ := by decide
  have hsection : index.get? ⟨["a"]⟩ = some ⟨0, 4⟩ := by decide
  have hbody : index.sectionBody? ⟨["a"]⟩ text = some "" := by decide
  have hwhole : (Span.mk 0 4).slice text = .ok "# A\n" := by decide
  obtain ⟨hsections, -⟩ := section_is_line_and_body document text .bare
  obtain ⟨declaration, span, hdeclared, hspan, -, -, hparts⟩ := hsections _ hentry rfl
  obtain rfl : declaration = ⟨⟨⟨1, 1⟩, ⟨3, 1⟩⟩, ⟨0, 11⟩⟩ :=
    Option.some.inj (hdeclared.symm.trans hheading)
  obtain rfl : span = ⟨0, 4⟩ := Option.some.inj (hspan.symm.trans hsection)
  exact ⟨hheading, hsection, hbody, hparts "" "# A\n" hbody hwhole⟩

end Index

end Sections
