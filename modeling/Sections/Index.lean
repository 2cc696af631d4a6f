import Sections.Markup.LineIndex
import Sections.PathTable
import Sections.Slug
import Sections.Text.Blank

/-!
# The index of a document

The index gives every heading and every code block of a document a path and a byte span, and
paragraphs, list items and block quotes too where the options ask for them.  A heading's section
runs to the next heading of the same or a shallower level.
-/

namespace Sections

structure IndexOptions where
  paragraphs : Bool := false
  listItems : Bool := false
  blockQuotes : Bool := false
  deriving DecidableEq, Repr, Inhabited

namespace IndexOptions

def bare : IndexOptions := {}

def all : IndexOptions := ⟨true, true, true⟩

def withParagraphs (options : IndexOptions) : IndexOptions := { options with paragraphs := true }

def withListItems (options : IndexOptions) : IndexOptions := { options with listItems := true }

def withBlockQuotes (options : IndexOptions) : IndexOptions := { options with blockQuotes := true }

end IndexOptions

/-- Where the line of a heading stands, as opposed to the section that it opens. -/
structure HeadingDeclaration where
  source : SourceRange
  bytes : Span
  deriving DecidableEq, Repr

structure Index where
  spans : PathTable Span
  headings : PathTable HeadingDeclaration
  deriving DecidableEq, Repr

namespace Index

structure Frame where
  level : Nat
  start : Nat
  declaration : HeadingDeclaration
  deriving DecidableEq, Repr

structure Walk where
  path : SlugPath := .root
  frames : List Frame := []
  spans : PathTable Span := .empty
  headings : PathTable HeadingDeclaration := .empty
  siblings : List (SlugPath × SiblingSlugs) := []
  deriving Repr

namespace Walk

def claim (walk : Walk) (base : String) : String × Walk :=
  let (slug, siblings) := ((walk.siblings.lookup walk.path).getD {}).claim base
  (slug, { walk with
    siblings := (walk.path, siblings) :: walk.siblings.filter fun entry => entry.1 != walk.path })

/-- Closes the innermost heading; its section ends at `stop`, but not before it starts. -/
def closeFrame (walk : Walk) (frame : Frame) (rest : List Frame) (stop : Nat) : Walk :=
  { walk with
    path := walk.path.parent
    frames := rest
    spans := walk.spans.insert walk.path ⟨frame.start, max stop frame.start⟩
    headings := walk.headings.insert walk.path frame.declaration }

def closeFrames (walk : Walk) (level stop : Nat) : Walk :=
  go walk.frames walk
where
  go : List Frame → Walk → Walk
    | [], walk => walk
    | frame :: rest, walk =>
      if level ≤ frame.level then go rest (walk.closeFrame frame rest stop) else walk

def openHeading (walk : Walk) (lines : LineIndex) (range : Option SourceRange) (level : Nat)
    (text : String) : Walk :=
  match range with
  | none => walk
  | some source =>
    let bytes := lines.span source
    let (slug, walk) := (walk.closeFrames level bytes.start).claim (slugify text)
    { walk with
      path := walk.path.child slug
      frames := ⟨level, bytes.start, source, bytes⟩ :: walk.frames }

def recordLeaf (walk : Walk) (lines : LineIndex) (range : Option SourceRange) (base : String) :
    Walk :=
  match range with
  | none => walk
  | some source =>
    let (slug, walk) := walk.claim base
    { walk with spans := walk.spans.insert (walk.path.child slug) (lines.span source) }

def codeSlug (language : Option String) : String :=
  match language.map slugify with
  | some tag => if tag = "" then "code" else "code-" ++ tag
  | none => "code"

mutual

/-- Visits a node and the nodes below it; nothing below a heading or a code block is looked at. -/
def visit (lines : LineIndex) (options : IndexOptions) (walk : Walk) : Node → Walk
  | .mk kind range children =>
    match kind with
    | .heading level text => walk.openHeading lines range level text
    | .code language => walk.recordLeaf lines range (codeSlug language)
    | .paragraph =>
      visitAll lines options
        (if options.paragraphs then walk.recordLeaf lines range "para" else walk) children
    | .listItem =>
      visitAll lines options
        (if options.listItems then walk.recordLeaf lines range "li" else walk) children
    | .blockQuote =>
      visitAll lines options
        (if options.blockQuotes then walk.recordLeaf lines range "quote" else walk) children
    | .document | .other _ => visitAll lines options walk children

def visitAll (lines : LineIndex) (options : IndexOptions) (walk : Walk) : List Node → Walk
  | [] => walk
  | node :: rest => visitAll lines options (visit lines options walk node) rest

end

end Walk

def build (document : Node) (text : String) (options : IndexOptions) : Index :=
  let walk := (Walk.visit (.ofText text) options {} document).closeFrames 0 text.utf8ByteSize
  ⟨walk.spans, walk.headings⟩

mutual

/-- The ranges that a walk over a node looks up. -/
def rangesOf (options : IndexOptions) : Node → List SourceRange
  | .mk kind range children =>
    match kind with
    | .heading _ _ | .code _ => range.toList
    | .paragraph =>
      (if options.paragraphs then range.toList else []) ++ rangesOfAll options children
    | .listItem =>
      (if options.listItems then range.toList else []) ++ rangesOfAll options children
    | .blockQuote =>
      (if options.blockQuotes then range.toList else []) ++ rangesOfAll options children
    | .document | .other _ => rangesOfAll options children

def rangesOfAll (options : IndexOptions) : List Node → List SourceRange
  | [] => []
  | node :: rest => rangesOf options node ++ rangesOfAll options rest

end

/-- The index of any tree; there is none if the walk looks up a range that has no span. -/
def build? (document : Node) (text : String) (options : IndexOptions) : Option Index :=
  if (rangesOf options document).all fun range => ((LineIndex.ofText text).span? range).isSome then
    some (build document text options)
  else none

def get? (index : Index) (path : SlugPath) : Option Span := index.spans.get? path

def heading? (index : Index) (path : SlugPath) : Option HeadingDeclaration :=
  index.headings.get? path

def entries (index : Index) : List (SlugPath × Span) := index.spans.entries

def paths (index : Index) : List SlugPath := index.spans.paths

def size (index : Index) : Nat := index.spans.size

def isEmpty (index : Index) : Bool := index.spans.entries.isEmpty

def sectionBody? (index : Index) (path : SlugPath) (text : String) : Option String := do
  let heading ← index.heading? path
  let span ← index.get? path
  ((Span.mk (min heading.bytes.stop span.stop) span.stop).slice text).toOption

def isBodyEmpty (index : Index) (path : SlugPath) (text : String) : Bool :=
  (index.sectionBody? path text).any fun body => body.toList.all isBlank

end Index

end Sections
