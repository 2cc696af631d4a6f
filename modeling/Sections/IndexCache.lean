import Sections.Error
import Sections.Hash.Xxh3
import Sections.Index
import Sections.Markup.Document

/-!
# Index cache

A cache holds the index of the last text it was asked about.  It is used again for the same text
only; hashes are compared first because that is cheap.
-/

namespace Sections

abbrev TextParser := String → Except String Node

def Index.ofText (parse : String → Node) (options : IndexOptions) (text : String) : Index :=
  build (parse text) text options

def Index.read (parse : TextParser) (options : IndexOptions) (text : String) :
    Except DocError Index := do
  return build (← (parse text).mapError .parseFailure) text options

structure CachedIndex where
  hash : UInt64
  text : String
  index : Index
  deriving Repr

structure IndexCache where
  options : IndexOptions
  parse : TextParser := fun text => .ok (parseDocument text)
  entry : Option CachedIndex := none
  hits : Nat := 0
  misses : Nat := 0

namespace IndexCache

/-- The index of a text.  If a new one cannot be made the cache is empty afterwards. -/
def indexFor (hash : TextHash) (text : String) (cache : IndexCache) :
    Except DocError Index × IndexCache :=
  let key := hash text
  match cache.entry.filter fun entry => entry.hash == key && entry.text == text with
  | some entry => (.ok entry.index, { cache with hits := cache.hits + 1 })
  | none =>
    let index := Index.read cache.parse cache.options text
    (index, { cache with
      entry := index.toOption.map fun index => ⟨key, text, index⟩, misses := cache.misses + 1 })

def clear (cache : IndexCache) : IndexCache := { cache with entry := none }

end IndexCache

end Sections
