/-!
# Ordered entries

Lists of entries in the order of their keys, each key once.
-/

namespace Sections

variable {κ α : Type} [LT κ] [DecidableLT κ] [DecidableEq κ]

def insertEntry (key : κ) (value : α) : List (κ × α) → List (κ × α)
  | [] => [(key, value)]
  | entry :: rest =>
    if key < entry.1 then (key, value) :: entry :: rest
    else if key = entry.1 then (key, value) :: rest
    else entry :: insertEntry key value rest

/-- The same entries in order.  Of those for one key the last one stays. -/
def orderEntries (entries : List (κ × α)) : List (κ × α) :=
  entries.foldl (fun ordered (key, value) => insertEntry key value ordered) []

end Sections
