import Sections.SlugPath
import Sections.Span
import Sections.Text.Blank
import Sections.Text.Numeral
import Sections.Text.Quoted
import Sections.Text.Split

/-!
# Selectors

A selector addresses a region of a document: `a/b` by path, `a/b#field` by the tag of a code block
under a path, `@3..9` by an explicit range, and combinations of these.
-/

namespace Sections

structure Selector where
  path : SlugPath
  field : Option String := none
  range : Option Span := none
  deriving DecidableEq, Repr, Inhabited

namespace Selector

def ofPath (path : SlugPath) : Selector := { path }

def ofRange (start stop : Nat) : Selector := { path := .root, range := some ⟨start, stop⟩ }

def introspection : Selector := ofPath .introspection

def withField (selector : Selector) (field : String) : Selector :=
  { selector with field := some field }

def withRange (selector : Selector) (start stop : Nat) : Selector :=
  { selector with range := some ⟨start, stop⟩ }

def readRange (cs : List Char) : Except DocError Span :=
  let range? : Option Span := do
    let (start, stop) ← splitDots? cs
    return ⟨← readWord? (trim start), ← readWord? (trim stop)⟩
  match range? with
  | some range => .ok range
  | none => .error (.invalidSelector (quoted cs))

def readPath (cs : List Char) : SlugPath :=
  ⟨(((splitAll '/' cs).map trim).filter fun segment => !segment.isEmpty).map String.ofList⟩

/--
Reads a selector from its printed form.  The last `@` starts the range, the first `#`
before it the field; an empty field counts as none.
-/
def read (input : String) : Except DocError Selector := do
  let cs := trim input.toList
  let (rest, range) ←
    match splitLast? '@' cs with
    | some (rest, range) => pure (rest, some (← readRange range))
    | none => pure (cs, none)
  let (path, field) :=
    match splitFirst? '#' rest with
    | some (path, field) => (path, if field.isEmpty then none else some (String.ofList field))
    | none => (rest, none)
  return ⟨readPath path, field, range⟩

def render (selector : Selector) : String :=
  selector.path.joined
    ++ (selector.field.map ("#" ++ ·)).getD ""
    ++ (selector.range.map fun range => "@" ++ range.render).getD ""

end Selector

end Sections
