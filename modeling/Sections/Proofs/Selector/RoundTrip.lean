import Sections.Proofs.Outcome
import Sections.Proofs.Selector
import Sections.Proofs.Text.Numeral

/-!
# Printing what was read

Reading forgets how a selector was written: blanks, empty segments, signs and zeros in front of a
number.  What it keeps is readable, and a readable selector is read from its printed form.  So
printing chooses one text for a selector among those that it is read from.
-/

namespace Sections

/-! ## Ranges -/

theorem isBlank_of_mem_decimal {number : Nat} {c : Char} (hc : c ∈ Nat.toDigits 10 number) :
    isBlank c = false := by
  have hdigit := isDigit_of_mem_decimal hc
  obtain ⟨hlow, hhigh⟩ : 48 ≤ c.toNat ∧ c.toNat ≤ 57 := by
    simpa [Char.isDigit, UInt32.le_iff_toNat_le] using hdigit
  exact isBlank_of_bounds (by omega) (by omega)

theorem trim_decimal (number : Nat) : trim (Nat.toDigits 10 number) = Nat.toDigits 10 number :=
  (IsTrimmed.of_forall fun _ => isBlank_of_mem_decimal).trim_eq_self

namespace Span

def IsWords (span : Span) : Prop := span.start ≤ largestWord ∧ span.stop ≤ largestWord

theorem toList_render (span : Span) :
    span.render.toList =
      Nat.toDigits 10 span.start ++ '.' :: '.' :: Nat.toDigits 10 span.stop := by
  simp [render]

theorem notMem_render {c : Char} (hdot : c ≠ '.') (hdigit : c.isDigit = false) (span : Span) :
    c ∉ span.render.toList := by
  simp [toList_render, notMem_decimal hdigit, hdot]

theorem isTrimmed_mark_render (span : Span) : IsTrimmed ('@' :: span.render.toList) := by
  refine .of_forall ?_
  simp only [List.forall_mem_cons, toList_render, List.forall_mem_append]
  exact ⟨rfl, fun _ => isBlank_of_mem_decimal, rfl, rfl, fun _ => isBlank_of_mem_decimal⟩

end Span

namespace Selector

theorem readRange_render {range : Span} (hwords : range.IsWords) :
    readRange range.render.toList = .ok range := by
  have hdot : '.' ∉ Nat.toDigits 10 range.start := notMem_decimal rfl range.start
  rw [readRange, Span.toList_render, splitDots?_append hdot]
  simp [trim_decimal, readWord?_decimal hwords.1, readWord?_decimal hwords.2]

theorem isWords_of_readRange_eq_ok {cs : List Char} {range : Span}
    (hread : readRange cs = .ok range) : range.IsWords := by
  simp only [readRange] at hread
  split at hread
  · next found hfound =>
      obtain ⟨⟨first, last⟩, -, hfound⟩ := Option.bind_eq_some_iff.mp hfound
      obtain ⟨start, hstart, hfound⟩ := Option.bind_eq_some_iff.mp hfound
      obtain ⟨stop, hstop, hfound⟩ := Option.bind_eq_some_iff.mp hfound
      cases hfound
      cases hread
      exact ⟨le_of_readWord?_eq_some hstart, le_of_readWord?_eq_some hstop⟩
  · cases hread

/-! ## The part in front of the range -/

def place (selector : Selector) : List Char :=
  selector.path.joined.toList ++ (selector.field.map fun field => '#' :: field.toList).getD []

theorem toList_render (selector : Selector) :
    selector.render.toList =
      selector.place ++ (selector.range.map fun range => '@' :: range.render.toList).getD [] := by
  cases hfield : selector.field <;> cases hrange : selector.range <;>
    simp [render, place, hfield, hrange]

def readPlace (cs : List Char) (range : Option Span) : Selector :=
  match splitFirst? '#' cs with
  | some (path, field) =>
    ⟨readPath path, if field.isEmpty then none else some (String.ofList field), range⟩
  | none => ⟨readPath cs, none, range⟩

theorem read_eq (input : String) :
    read input =
      match splitLast? '@' (trim input.toList) with
      | some (cs, range) => (readRange range).map fun range => readPlace cs (some range)
      | none => .ok (readPlace (trim input.toList) none) := by
  rw [read]
  cases splitLast? '@' (trim input.toList) with
  | none => cases hfield : splitFirst? '#' (trim input.toList) <;> simp [readPlace, hfield] <;> rfl
  | some parts =>
      obtain ⟨cs, range⟩ := parts
      dsimp only
      cases readRange range with
      | error fault => rfl
      | ok range => cases hfield : splitFirst? '#' cs <;> simp [readPlace, hfield] <;> rfl

/-! ## Readable selectors -/

structure IsReadableSegment (segment : String) : Prop where
  ne : segment ≠ ""
  trimmed : IsTrimmed segment.toList
  slash : '/' ∉ segment.toList
  hash : '#' ∉ segment.toList

/--
What a text can say.  If there is no range, then no mark of one stands in the printed form, and
white space does not end it.
-/
structure IsReadable (selector : Selector) : Prop where
  segments : ∀ segment ∈ selector.path.segments, IsReadableSegment segment
  field : selector.field ≠ some ""
  range : ∀ range ∈ selector.range, range.IsWords
  unmarked : selector.range = none → '@' ∉ selector.place
  last : selector.range = none → ∀ c ∈ selector.place.getLast?, isBlank c = false

theorem mem_segments_readPath {cs : List Char} {segment : String}
    (hsegment : segment ∈ (readPath cs).segments) :
    ∃ piece ∈ cs.splitOn '/', trim piece ≠ [] ∧ String.ofList (trim piece) = segment := by
  simp only [readPath, List.mem_map, List.mem_filter] at hsegment
  obtain ⟨_, ⟨⟨piece, hpiece, rfl⟩, hne⟩, rfl⟩ := hsegment
  rw [splitAll_eq_splitOn] at hpiece
  exact ⟨piece, hpiece, by simpa using hne, rfl⟩

theorem isReadableSegment_of_mem_readPath {cs : List Char} (hhash : '#' ∉ cs) {segment : String}
    (hsegment : segment ∈ (readPath cs).segments) : IsReadableSegment segment := by
  obtain ⟨piece, hpiece, hne, rfl⟩ := mem_segments_readPath hsegment
  have hcs {c : Char} (hc : c ∈ trim piece) : c ∈ cs :=
    (sublist_of_mem_splitOn hpiece).mem (mem_of_mem_trim hc)
  refine ⟨by simpa using hne, ?_, ?_, ?_⟩ <;> rw [String.toList_ofList]
  · exact isTrimmed_trim piece
  · exact fun hmem => notMem_of_mem_splitOn hpiece (mem_of_mem_trim hmem)
  · exact fun hmem => hhash (hcs hmem)

theorem mem_of_mem_joined_readPath {cs : List Char} {c : Char} (hslash : c ≠ '/')
    (hc : c ∈ (readPath cs).joined.toList) : c ∈ cs := by
  rcases SlugPath.mem_of_mem_joined hc with heq | ⟨segment, hsegment, hmem⟩
  · exact absurd heq hslash
  · obtain ⟨piece, hpiece, -, rfl⟩ := mem_segments_readPath hsegment
    rw [String.toList_ofList] at hmem
    exact (sublist_of_mem_splitOn hpiece).mem (mem_of_mem_trim hmem)

theorem isTrimmed_joined {path : SlugPath}
    (hpath : ∀ segment ∈ path.segments, IsTrimmed segment.toList) :
    IsTrimmed path.joined.toList := by
  rw [SlugPath.toList_joined]
  exact .intercalate rfl (by simpa using hpath)

theorem readPlace_place {selector : Selector} (hselector : selector.IsReadable) :
    readPlace selector.place selector.range = selector := by
  obtain ⟨path, field, range⟩ := selector
  have hhash : '#' ∉ path.joined.toList := by
    intro hmem
    rcases SlugPath.mem_of_mem_joined hmem with heq | ⟨segment, hsegment, hmem⟩
    · exact absurd heq (by decide)
    · exact (hselector.segments segment hsegment).hash hmem
  have hpath : readPath path.joined.toList = path := by
    have hkept : path.segments.filter (· != "") = path.segments := by
      refine List.filter_eq_self.mpr ?_
      intro segment hsegment
      simpa using (hselector.segments segment hsegment).ne
    rw [readPath_joined (fun segment hsegment => (hselector.segments segment hsegment).slash)
      (fun segment hsegment => (hselector.segments segment hsegment).trimmed), hkept]
  cases field with
  | none => simp [readPlace, place, splitFirst?_eq_none hhash, hpath]
  | some field =>
      have hne : field ≠ "" := by
        rintro rfl
        exact hselector.field rfl
      simp [readPlace, place, splitFirst?_append_cons hhash, hpath, hne]

theorem readPlace_cases (cs : List Char) (range : Option Span) :
    ∃ path, '#' ∉ path ∧
      ((path <+: cs ∧ readPlace cs range = ⟨readPath path, none, range⟩) ∨
        ∃ field, field ≠ [] ∧ cs = path ++ '#' :: field ∧
          readPlace cs range = ⟨readPath path, some (String.ofList field), range⟩) := by
  rcases splitFirst?_cases '#' cs with ⟨hhash, hsplit⟩ | ⟨path, field, rfl, hhash, hsplit⟩
  · exact ⟨cs, hhash, .inl ⟨List.prefix_rfl, by rw [readPlace, hsplit]⟩⟩
  · refine ⟨path, hhash, ?_⟩
    by_cases hfield : field = []
    · refine .inl ⟨List.prefix_append _ _, ?_⟩
      rw [readPlace, hsplit]
      simp [hfield]
    · refine .inr ⟨field, hfield, rfl, ?_⟩
      rw [readPlace, hsplit]
      simp [hfield]

theorem isReadable_readPlace {cs : List Char} {range : Option Span}
    (hwords : ∀ words ∈ range, words.IsWords) (hmark : range = none → '@' ∉ cs)
    (hlast : range = none → ∀ c ∈ cs.getLast?, isBlank c = false) :
    (readPlace cs range).IsReadable := by
  obtain ⟨path, hhash, hcases⟩ := readPlace_cases cs range
  have hsegments (segment : String) (hsegment : segment ∈ (readPath path).segments) :
      IsReadableSegment segment := isReadableSegment_of_mem_readPath hhash hsegment
  have hat : '@' ∉ path → '@' ∉ (readPath path).joined.toList :=
    fun hpath hmem => hpath (mem_of_mem_joined_readPath (by decide) hmem)
  rcases hcases with ⟨hpath, hread⟩ | ⟨field, hfield, rfl, hread⟩
  · have hplace : (readPlace cs range).place = (readPath path).joined.toList := by
      simp [hread, place]
    refine ⟨by rwa [hread], by simp [hread], by rwa [hread], ?_, ?_⟩ <;> rw [hplace]
    · intro hrange
      refine hat fun hmem => hmark ?_ (hpath.mem hmem)
      rwa [hread] at hrange
    · intro _
      exact (isTrimmed_joined fun segment hsegment => (hsegments segment hsegment).trimmed).last
  · have hplace : (readPlace (path ++ '#' :: field) range).place =
        (readPath path).joined.toList ++ '#' :: field := by
      simp [hread, place]
    refine ⟨by rwa [hread], by simpa [hread] using hfield, by rwa [hread], ?_, ?_⟩ <;>
      rw [hplace, hread]
    · intro hrange hmem
      have hcs := hmark hrange
      rw [List.mem_append, not_or] at hcs
      rcases List.mem_append.mp hmem with hjoined | hback
      · exact hat hcs.1 hjoined
      · exact hcs.2 hback
    · intro hrange c hc
      refine hlast hrange c ?_
      rwa [List.getLast?_append_of_ne_nil _ (List.cons_ne_nil _ _)] at hc ⊢

theorem isReadable_of_read_eq_ok {input : String} {selector : Selector}
    (hread : read input = .ok selector) : selector.IsReadable := by
  rw [read_eq] at hread
  rcases splitLast?_cases '@' (trim input.toList) with
    ⟨hmark, hsplit⟩ | ⟨cs, range, -, -, hsplit⟩ <;> rw [hsplit] at hread
  · cases hread
    exact isReadable_readPlace (by simp) (fun _ => hmark) (fun _ => (isTrimmed_trim _).last)
  · obtain ⟨words, hwords, rfl⟩ := inv_map_ok hread
    refine isReadable_readPlace ?_ (by simp) (by simp)
    intro other hother
    cases hother
    exact isWords_of_readRange_eq_ok hwords

theorem head_place {selector : Selector} (hselector : selector.IsReadable) :
    ∀ c ∈ selector.place.head?, isBlank c = false := by
  have htrimmed : IsTrimmed selector.path.joined.toList :=
    isTrimmed_joined fun segment hsegment => (hselector.segments segment hsegment).trimmed
  intro c hc
  rw [place, List.head?_append, Option.mem_def, Option.or_eq_some_iff] at hc
  rcases hc with hpath | ⟨-, hfield⟩
  · exact htrimmed.head c hpath
  · cases hname : selector.field with
    | none => simp [hname] at hfield
    | some field =>
        obtain rfl : '#' = c := by simpa [hname] using hfield
        rfl

theorem read_render {selector : Selector} (hselector : selector.IsReadable) :
    read selector.render = .ok selector := by
  have hhead := head_place hselector
  have hplace := readPlace_place hselector
  rw [read_eq, toList_render]
  cases hrange : selector.range with
  | none =>
      have htrimmed : IsTrimmed selector.place := ⟨hhead, hselector.last hrange⟩
      rw [hrange] at hplace
      simp only [Option.map_none, Option.getD_none, List.append_nil, htrimmed.trim_eq_self,
        splitLast?_eq_none (hselector.unmarked hrange), hplace]
  | some range =>
      have htrimmed : IsTrimmed (selector.place ++ '@' :: range.render.toList) :=
        .append_of_ne_nil hhead range.isTrimmed_mark_render (List.cons_ne_nil _ _)
      have hat : '@' ∉ range.render.toList := range.notMem_render (by decide) rfl
      have hwords := hselector.range range hrange
      rw [hrange] at hplace
      simp only [Option.map_some, Option.getD_some, htrimmed.trim_eq_self,
        splitLast?_append_cons hat, readRange_render hwords, Except.map, hplace]

/-- Whatever text a selector was read from, it is read again from its printed form. -/
theorem read_render_of_read {input : String} {selector : Selector}
    (hread : read input = .ok selector) : read selector.render = .ok selector :=
  read_render (isReadable_of_read_eq_ok hread)

theorem read_render_of_marked_text :
    read "  a@b / /ü c # x#/ y@ @ +1 .. 002 " =
        .ok ⟨⟨["a@b", "ü c"]⟩, some " x#/ y@ ", some ⟨1, 2⟩⟩ ∧
      read (render ⟨⟨["a@b", "ü c"]⟩, some " x#/ y@ ", some ⟨1, 2⟩⟩) =
        .ok ⟨⟨["a@b", "ü c"]⟩, some " x#/ y@ ", some ⟨1, 2⟩⟩ := by
  have hread : read "  a@b / /ü c # x#/ y@ @ +1 .. 002 " =
      .ok ⟨⟨["a@b", "ü c"]⟩, some " x#/ y@ ", some ⟨1, 2⟩⟩ := by decide
  exact ⟨hread, read_render_of_read hread⟩

end Selector

end Sections
