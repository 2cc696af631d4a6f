/-!
# Paths of slugs

A path names a place in the hierarchy of sections.  The empty path is the whole document; a path
whose only segment is `*` asks for the list of all paths.
-/

namespace Sections

structure SlugPath where
  segments : List String
  deriving DecidableEq, Repr, Inhabited

namespace SlugPath

def root : SlugPath := ⟨[]⟩

def everything : String := "*"

def introspection : SlugPath := ⟨[everything]⟩

def isRoot (path : SlugPath) : Bool := path.segments.isEmpty

def isIntrospection (path : SlugPath) : Bool := path.segments == [everything]

def child (path : SlugPath) (slug : String) : SlugPath := ⟨path.segments ++ [slug]⟩

def parent (path : SlugPath) : SlugPath := ⟨path.segments.dropLast⟩

def length (path : SlugPath) : Nat := path.segments.length

def joined (path : SlugPath) : String := "/".intercalate path.segments

instance : LT SlugPath := ⟨fun a b => a.segments < b.segments⟩

instance (a b : SlugPath) : Decidable (a < b) :=
  inferInstanceAs (Decidable (a.segments < b.segments))

end SlugPath

end Sections
