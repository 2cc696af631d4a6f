import Sections.Proofs.Json.Reading
import Sections.Proofs.Selector.RoundTrip
import Sections.Wire

/-!
# Values in JSON

What is written is read back, in both printed forms, as long as its offsets are machine words; and
whatever text is read, the value that it spells can be written and read back.
-/

namespace Sections

open Json

namespace Wire

section

variable {α : Type} (toJson : α → Json) (ofJson? : Json → Option α) (IsWords : α → Prop)

def ReadsBack (value : α) : Prop :=
  ∀ text ∈ [(toJson value).compact, (toJson value).pretty],
    (Json.read? text).bind ofJson? = some value

/-- Whether values come back from their texts, all that are made of words and all that are read. -/
def RoundTrips : Prop :=
  (∀ value, IsWords value → ReadsBack toJson ofJson? value) ∧
    ∀ text value, (Json.read? text).bind ofJson? = some value →
      IsWords value ∧ ReadsBack toJson ofJson? value

/-- The JSON form of a value has all of it, and null is the form of none. -/
structure Lossless : Prop where
  read_write : ∀ value, ofJson? (toJson value) = some value
  ne_null : ∀ value, toJson value ≠ .null
  inWords : ∀ {value}, IsWords value → (toJson value).InWords
  isWords : ∀ {json value}, json.InWords → ofJson? json = some value → IsWords value

end

variable {α : Type} {toJson : α → Json} {ofJson? : Json → Option α} {IsWords : α → Prop}

theorem Lossless.roundTrips (hlossless : Lossless toJson ofJson? IsWords) :
    RoundTrips toJson ofJson? IsWords := by
  have hback (value : α) (hwords : IsWords value) : ReadsBack toJson ofJson? value := by
    have hjson := hlossless.inWords hwords
    have hread := hlossless.read_write value
    simp [ReadsBack, read?_compact hjson, read?_pretty hjson, hread]
  refine ⟨hback, ?_⟩
  intro text value hread
  obtain ⟨json, hjson, hvalue⟩ := Option.bind_eq_some_iff.mp hread
  have hwords := hlossless.isWords (inWords_of_read?_eq_some hjson) hvalue
  exact ⟨hwords, hback value hwords⟩

/-! ## Parts of values -/

theorem lossless_text : Lossless ofText text? fun _ => True where
  read_write := fun _ => rfl
  ne_null := nofun
  inWords := fun _ => .string _
  isWords := fun _ _ => trivial

theorem lossless_word : Lossless ofNat word? (· ≤ largestWord) where
  read_write := fun _ => rfl
  ne_null := nofun
  inWords := fun hword => .number (by simpa using hword)
  isWords := by
    intro json value hjson hread
    cases hjson with
    | number hwords => exact hwords value hread
    | null | bool flag | string text | array hitems | object hmembers => cases hread

theorem Lossless.mapM_map (hlossless : Lossless toJson ofJson? IsWords) (values : List α) :
    (values.map toJson).mapM ofJson? = some values := by
  induction values with
  | nil => rfl
  | cons value values ih => simp [hlossless.read_write, ih]

theorem Lossless.isWords_of_mapM (hlossless : Lossless toJson ofJson? IsWords) {items : List Json}
    (hitems : ∀ item ∈ items, item.InWords) {values : List α}
    (hread : items.mapM ofJson? = some values) : ∀ value ∈ values, IsWords value := by
  induction items generalizing values with
  | nil =>
      cases hread
      simp
  | cons item items ih =>
      obtain ⟨hitem, hitems⟩ := List.forall_mem_cons.mp hitems
      rw [List.mapM_cons] at hread
      obtain ⟨first, hfirst, hread⟩ := Option.bind_eq_some_iff.mp hread
      obtain ⟨others, hothers, hread⟩ := Option.bind_eq_some_iff.mp hread
      cases hread
      exact List.forall_mem_cons.mpr ⟨hlossless.isWords hitem hfirst, ih hitems hothers⟩

theorem Lossless.items (hlossless : Lossless toJson ofJson? IsWords) :
    Lossless (fun values => .array (values.map toJson)) (items? ofJson?)
      fun values => ∀ value ∈ values, IsWords value where
  read_write := hlossless.mapM_map
  ne_null := nofun
  inWords := by
    intro values hwords
    refine .array (List.forall_mem_map.mpr ?_)
    exact fun value hvalue => hlossless.inWords (hwords value hvalue)
  isWords := by
    intro json values hjson hread
    cases hjson with
    | array hitems => exact hlossless.isWords_of_mapM hitems hread
    | null | bool flag | string text | number hwords | object hmembers => cases hread

theorem Lossless.optional?_some (hlossless : Lossless toJson ofJson? IsWords) (value : α) :
    optional? ofJson? (some (toJson value)) = some (some value) := by
  have hnull := hlossless.ne_null value
  have hread := hlossless.read_write value
  generalize toJson value = json at hnull hread
  cases json with
  | null => exact absurd rfl hnull
  | bool flag | string text | number number | array items | object members =>
      exact congrArg (Option.map some) hread

theorem Lossless.optional?_map (hlossless : Lossless toJson ofJson? IsWords) (value : Option α) :
    optional? ofJson? (value.map toJson) = some value := by
  cases value with
  | none => rfl
  | some value => exact hlossless.optional?_some value

theorem Lossless.optional?_ofOption (hlossless : Lossless toJson ofJson? IsWords)
    (value : Option α) : optional? ofJson? (some (ofOption toJson value)) = some value := by
  cases value with
  | none => rfl
  | some value => exact hlossless.optional?_some value

theorem Lossless.isWords_of_optional? (hlossless : Lossless toJson ofJson? IsWords)
    {field : Option Json} {value : Option α} (hfield : ∀ json ∈ field, json.InWords)
    (hread : optional? ofJson? field = some value) : ∀ found ∈ value, IsWords found := by
  unfold optional? at hread
  split at hread
  · cases hread
    simp
  · cases hread
    simp
  · next json _ =>
    obtain ⟨found, hfound, rfl⟩ := Option.map_eq_some_iff.mp hread
    simpa using hlossless.isWords (hfield json rfl) hfound

theorem inWords_ofMembers {members : List (String × Json)}
    (hmembers : ∀ member ∈ members, member.2.InWords) : (Json.ofMembers members).InWords :=
  .object (List.forall_mem_map.mpr hmembers)

theorem inWords_memberIfSome {name : String} (hlossless : Lossless toJson ofJson? IsWords)
    {value : Option α} (hwords : ∀ found ∈ value, IsWords found) :
    ∀ member ∈ memberIfSome name toJson value, member.2.InWords := by
  cases value with
  | none => simp [memberIfSome]
  | some value => simpa [memberIfSome] using hlossless.inWords (hwords value rfl)

theorem inWords_ofOption (hlossless : Lossless toJson ofJson? IsWords) {value : Option α}
    (hwords : ∀ found ∈ value, IsWords found) : (ofOption toJson value).InWords := by
  cases value with
  | none => exact .null
  | some value => exact hlossless.inWords (hwords value rfl)

end Wire

open Wire

/-! ## Addresses -/

theorem SlugPath.lossless : Lossless toJson ofJson? fun _ => True where
  read_write := by
    intro path
    exact congrArg (Option.map SlugPath.mk) (lossless_text.items.read_write path.segments)
  ne_null := nofun
  inWords := fun _ => lossless_text.items.inWords fun _ _ => trivial
  isWords := fun _ _ => trivial

theorem Span.lossless : Lossless toJson ofJson? IsWords where
  read_write := fun _ => rfl
  ne_null := nofun
  inWords := by
    rintro span ⟨hstart, hstop⟩
    refine inWords_ofMembers ?_
    simp only [List.forall_mem_cons, List.not_mem_nil, false_imp_iff, implies_true, and_true]
    exact ⟨lossless_word.inWords hstart, lossless_word.inWords hstop⟩
  isWords := by
    intro json span hjson hread
    unfold ofJson? at hread
    split at hread
    · next start stop hfields =>
      have hvalues := hjson.of_fields? hfields
      simp only [List.forall_mem_cons, Option.mem_some_iff, forall_eq'] at hvalues
      obtain ⟨first, hfirst, hread⟩ := Option.bind_eq_some_iff.mp hread
      obtain ⟨last, hlast, hread⟩ := Option.bind_eq_some_iff.mp hread
      cases hread
      exact ⟨lossless_word.isWords hvalues.1 hfirst, lossless_word.isWords hvalues.2.1 hlast⟩
    · cases hread

theorem Revision.lossless : Lossless toJson ofJson? fun _ => True where
  read_write := fun _ => rfl
  ne_null := nofun
  inWords := fun _ => .string _
  isWords := fun _ _ => trivial

def Selector.IsWords (selector : Selector) : Prop := ∀ range ∈ selector.range, range.IsWords

theorem Selector.lossless : Lossless toJson ofJson? IsWords where
  read_write := by
    intro selector
    have hfields : selector.toJson.fields?
        [⟨"path", .never⟩, ⟨"field", .everywhere⟩, ⟨"range", .everywhere⟩] =
          some [some selector.path.toJson, selector.field.map ofText,
            selector.range.map Span.toJson] := by
      obtain ⟨path, field, range⟩ := selector
      cases field <;> cases range <;> rfl
    have hpath := SlugPath.lossless.read_write selector.path
    have hfield := lossless_text.optional?_map selector.field
    have hrange := Span.lossless.optional?_map selector.range
    simp [ofJson?, hfields, hpath, hfield, hrange]
  ne_null := nofun
  inWords := by
    intro selector hwords
    refine inWords_ofMembers ?_
    rw [List.cons_append, List.forall_mem_cons, List.forall_mem_append]
    exact ⟨SlugPath.lossless.inWords trivial,
      inWords_memberIfSome lossless_text fun _ _ => trivial,
      inWords_memberIfSome Span.lossless hwords⟩
  isWords := by
    intro json selector hjson hread
    unfold ofJson? at hread
    split at hread
    · next path field range hfields =>
      have hvalues := hjson.of_fields? hfields
      simp only [List.forall_mem_cons] at hvalues
      obtain ⟨_, -, hread⟩ := Option.bind_eq_some_iff.mp hread
      obtain ⟨_, -, hread⟩ := Option.bind_eq_some_iff.mp hread
      obtain ⟨_, hrange, hread⟩ := Option.bind_eq_some_iff.mp hread
      cases hread
      exact Span.lossless.isWords_of_optional? hvalues.2.2.1 hrange
    · cases hread

/-! ## Edits -/

theorem EditOp.lossless : Lossless toJson ofJson? fun _ => True where
  read_write := fun op => by cases op <;> rfl
  ne_null := nofun
  inWords := fun _ => .string _
  isWords := fun _ _ => trivial

def DocEdit.IsWords (edit : DocEdit) : Prop := edit.selector.IsWords

theorem DocEdit.lossless : Lossless toJson ofJson? IsWords where
  read_write := by
    intro edit
    have hfields : edit.toJson.fields?
        [⟨"op", .never⟩, ⟨"selector", .never⟩, ⟨"text", .everywhere⟩] =
          some [some edit.op.toJson, some edit.selector.toJson, edit.text.map ofText] := by
      obtain ⟨op, selector, text⟩ := edit
      cases text <;> rfl
    have hop := EditOp.lossless.read_write edit.op
    have hselector := Selector.lossless.read_write edit.selector
    have htext := lossless_text.optional?_map edit.text
    simp [ofJson?, hfields, hop, hselector, htext]
  ne_null := nofun
  inWords := by
    intro edit hwords
    refine inWords_ofMembers ?_
    simp only [List.cons_append, List.nil_append, List.forall_mem_cons]
    exact ⟨EditOp.lossless.inWords trivial, Selector.lossless.inWords hwords,
      inWords_memberIfSome lossless_text fun _ _ => trivial⟩
  isWords := by
    intro json edit hjson hread
    unfold ofJson? at hread
    split at hread
    · next op selector text hfields =>
      have hvalues := hjson.of_fields? hfields
      simp only [List.forall_mem_cons, Option.mem_some_iff, forall_eq'] at hvalues
      obtain ⟨_, -, hread⟩ := Option.bind_eq_some_iff.mp hread
      obtain ⟨_, hselector, hread⟩ := Option.bind_eq_some_iff.mp hread
      obtain ⟨_, -, hread⟩ := Option.bind_eq_some_iff.mp hread
      cases hread
      exact Selector.lossless.isWords hvalues.2.1 hselector
    · cases hread

/-! ## Outcomes -/

def Slice.IsWords (slice : Slice) : Prop := slice.span.IsWords

theorem Slice.lossless : Lossless toJson ofJson? IsWords where
  read_write := fun _ => rfl
  ne_null := nofun
  inWords := by
    intro slice hwords
    refine inWords_ofMembers ?_
    simp only [List.forall_mem_cons, List.not_mem_nil, false_imp_iff, implies_true, and_true]
    exact ⟨lossless_text.inWords trivial, Span.lossless.inWords hwords,
      Revision.lossless.inWords trivial⟩
  isWords := by
    intro json slice hjson hread
    unfold ofJson? at hread
    split at hread
    · next text span revision hfields =>
      have hvalues := hjson.of_fields? hfields
      simp only [List.forall_mem_cons, Option.mem_some_iff, forall_eq'] at hvalues
      obtain ⟨_, -, hread⟩ := Option.bind_eq_some_iff.mp hread
      obtain ⟨_, hspan, hread⟩ := Option.bind_eq_some_iff.mp hread
      obtain ⟨_, -, hread⟩ := Option.bind_eq_some_iff.mp hread
      cases hread
      exact Span.lossless.isWords hvalues.2.1 hspan
    · cases hread

def Change.IsWords (change : Change) : Prop := change.selector.IsWords

theorem Change.lossless : Lossless toJson ofJson? IsWords where
  read_write := by
    intro change
    have hfields : change.toJson.fields? [⟨"selector", .never⟩, ⟨"action", .never⟩,
        ⟨"old_text", .inObjects⟩, ⟨"new_text", .inObjects⟩] =
          some [some change.selector.toJson, some change.action.toJson,
            some (ofOption .ofText change.oldText), some (ofOption .ofText change.newText)] := rfl
    have hselector := Selector.lossless.read_write change.selector
    have haction := EditOp.lossless.read_write change.action
    have hold := lossless_text.optional?_ofOption change.oldText
    have hnew := lossless_text.optional?_ofOption change.newText
    simp [ofJson?, hfields, hselector, haction, hold, hnew]
  ne_null := nofun
  inWords := by
    intro change hwords
    refine inWords_ofMembers ?_
    simp only [List.forall_mem_cons, List.not_mem_nil, false_imp_iff, implies_true, and_true]
    exact ⟨Selector.lossless.inWords hwords, EditOp.lossless.inWords trivial,
      inWords_ofOption lossless_text fun _ _ => trivial,
      inWords_ofOption lossless_text fun _ _ => trivial⟩
  isWords := by
    intro json change hjson hread
    unfold ofJson? at hread
    split at hread
    · next selector action oldText newText hfields =>
      have hvalues := hjson.of_fields? hfields
      simp only [List.forall_mem_cons, Option.mem_some_iff, forall_eq'] at hvalues
      obtain ⟨_, hselector, hread⟩ := Option.bind_eq_some_iff.mp hread
      obtain ⟨_, -, hread⟩ := Option.bind_eq_some_iff.mp hread
      obtain ⟨_, -, hread⟩ := Option.bind_eq_some_iff.mp hread
      obtain ⟨_, -, hread⟩ := Option.bind_eq_some_iff.mp hread
      cases hread
      exact Selector.lossless.isWords hvalues.1 hselector
    · cases hread

def Envelope.IsWords (envelope : Envelope) : Prop := ∀ change ∈ envelope.changes, change.IsWords

theorem Envelope.lossless : Lossless toJson ofJson? IsWords where
  read_write := by
    intro envelope
    have hfields : envelope.toJson.fields? [⟨"doc_id", .never⟩, ⟨"base_revision", .never⟩,
        ⟨"new_revision", .never⟩, ⟨"changes", .never⟩, ⟨"patch", .never⟩] =
          some [some (ofText envelope.id), some envelope.baseRevision.toJson,
            some envelope.newRevision.toJson, some (.array (envelope.changes.map Change.toJson)),
            some (ofText envelope.patch)] := rfl
    have hbase := Revision.lossless.read_write envelope.baseRevision
    have hnew := Revision.lossless.read_write envelope.newRevision
    have hchanges := Change.lossless.items.read_write envelope.changes
    have htext (text : String) : text? (ofText text) = some text := rfl
    simp [ofJson?, hfields, hbase, hnew, hchanges, htext]
  ne_null := nofun
  inWords := by
    intro envelope hwords
    refine inWords_ofMembers ?_
    simp only [List.forall_mem_cons, List.not_mem_nil, false_imp_iff, implies_true, and_true]
    exact ⟨lossless_text.inWords trivial, Revision.lossless.inWords trivial,
      Revision.lossless.inWords trivial, Change.lossless.items.inWords hwords,
      lossless_text.inWords trivial⟩
  isWords := by
    intro json envelope hjson hread
    unfold ofJson? at hread
    split at hread
    · next id base new changes patch hfields =>
      have hvalues := hjson.of_fields? hfields
      simp only [List.forall_mem_cons, Option.mem_some_iff, forall_eq'] at hvalues
      obtain ⟨_, -, hread⟩ := Option.bind_eq_some_iff.mp hread
      obtain ⟨_, -, hread⟩ := Option.bind_eq_some_iff.mp hread
      obtain ⟨_, -, hread⟩ := Option.bind_eq_some_iff.mp hread
      obtain ⟨_, hchanges, hread⟩ := Option.bind_eq_some_iff.mp hread
      obtain ⟨_, -, hread⟩ := Option.bind_eq_some_iff.mp hread
      cases hread
      exact Change.lossless.items.isWords hvalues.2.2.2.1 hchanges
    · cases hread

/--
Every value of the wire formats whose offsets are machine words is read back from both of its
printed forms, and every text that is accepted spells such a value.
-/
theorem wire_round_trip :
    RoundTrips SlugPath.toJson SlugPath.ofJson? (fun _ => True) ∧
      RoundTrips Span.toJson Span.ofJson? Span.IsWords ∧
      RoundTrips Revision.toJson Revision.ofJson? (fun _ => True) ∧
      RoundTrips Selector.toJson Selector.ofJson? Selector.IsWords ∧
      RoundTrips EditOp.toJson EditOp.ofJson? (fun _ => True) ∧
      RoundTrips DocEdit.toJson DocEdit.ofJson? DocEdit.IsWords ∧
      RoundTrips Slice.toJson Slice.ofJson? Slice.IsWords ∧
      RoundTrips Change.toJson Change.ofJson? Change.IsWords ∧
      RoundTrips Envelope.toJson Envelope.ofJson? Envelope.IsWords :=
  ⟨SlugPath.lossless.roundTrips, Span.lossless.roundTrips, Revision.lossless.roundTrips,
    Selector.lossless.roundTrips, EditOp.lossless.roundTrips, DocEdit.lossless.roundTrips,
    Slice.lossless.roundTrips, Change.lossless.roundTrips, Envelope.lossless.roundTrips⟩

example : Selector.ofJson? (.array [.array [ofText "a", ofText "b"], .null]) =
    some (.ofPath ⟨["a", "b"]⟩) :=
  rfl

end Sections
