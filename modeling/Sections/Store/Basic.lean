import Sections.Error
import Sections.Hash.Xxh3
import Sections.Text.Numeral

/-!
# Document stores

A store keeps documents under revisions.  A save is a compare-and-swap: it takes place only if the
document is still at the expected revision.
-/

namespace Sections

structure Snapshot where
  text : String
  revision : Revision
  deriving DecidableEq, Repr, Inhabited

structure Commit where
  revision : Revision
  patch : String
  deriving DecidableEq, Repr

abbrev PatchWriter := String → String → String

abbrev StoreM (σ : Type) := ExceptT DocError (StateM σ)

/-- The operations of a store with states in `σ`; each is one atomic step. -/
structure Store (σ : Type) where
  load : String → StoreM σ Snapshot
  /--
  Saves a new text for a document if it is at the expected revision.  Documents that the
  store does not know are created, whatever revision is expected.
  -/
  save : String → String → Revision → PatchWriter → StoreM σ Commit

def fingerprint (hash : TextHash) (text : String) : String := paddedHex 16 (hash text).toNat

end Sections
