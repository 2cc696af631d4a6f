/-!
# TOML values

Tables remember how they came about, because that decides whether they may be extended later.
-/

namespace Sections

inductive TableOrigin where
  | header
  | implied
  | dotted
  | inline
  deriving DecidableEq, Repr

inductive Toml where
  | text (value : String)
  | bool (value : Bool)
  | number
  | moment
  | array (items : List Toml)
  | table (origin : TableOrigin) (entries : List (String × Toml))
  | tables (items : List (List (String × Toml)))
  deriving Repr, Inhabited

namespace Toml

abbrev Entries := List (String × Toml)

def replaceEntry (key : String) (value : Toml) : Entries → Entries
  | [] => [(key, value)]
  | entry :: rest =>
    if entry.1 = key then (key, value) :: rest else entry :: replaceEntry key value rest

def updateLast (update : Entries → Option Entries) : List Entries → Option (List Entries)
  | [] => none
  | [last] => (update last).map fun last => [last]
  | first :: rest => (updateLast update rest).map (first :: ·)

def updateAt (update : Option Toml → Option Toml) : List String → Entries → Option Entries
  | [], _ => none
  | [key], entries => (update (entries.lookup key)).map fun value => replaceEntry key value entries
  | key :: rest, entries =>
    match entries.lookup key with
    | none =>
      (updateAt update rest []).map fun inner => replaceEntry key (table .implied inner) entries
    | some (table .inline _) => none
    | some (table origin inner) =>
      (updateAt update rest inner).map fun inner => replaceEntry key (table origin inner) entries
    | some (tables items) =>
      (updateLast (updateAt update rest) items).map fun items =>
        replaceEntry key (tables items) entries
    | some _ => none

def openTable : Option Toml → Option Toml
  | none => some (table .header [])
  | some (table .implied entries) => some (table .header entries)
  | some _ => none

def openNext : Option Toml → Option Toml
  | none => some (tables [[]])
  | some (tables items) => some (tables (items ++ [[]]))
  | some _ => none

/--
Adds a value under a dotted key.  `fits` tells whether the table at hand may take the last
of the keys: tables made by dotted keys take further dotted keys only.
-/
def insertDotted (value : Toml) (fits : Bool) : List String → Entries → Option Entries
  | [], _ => none
  | [key], entries =>
    if fits && (entries.lookup key).isNone then some (entries ++ [(key, value)]) else none
  | key :: rest, entries =>
    match entries.lookup key with
    | none =>
      (insertDotted value true rest []).map fun inner => entries ++ [(key, table .dotted inner)]
    | some (table .dotted inner) =>
      (insertDotted value true rest inner).map fun inner =>
        replaceEntry key (table .dotted inner) entries
    | some (table .implied inner) =>
      (insertDotted value false rest inner).map fun inner =>
        replaceEntry key (table .implied inner) entries
    | some (tables items) =>
      (updateLast (insertDotted value false rest) items).map fun items =>
        replaceEntry key (tables items) entries
    | some _ => none

def insertBelow (header : List String) (keys : List String) (value : Toml) (entries : Entries) :
    Option Entries :=
  if header.isEmpty then insertDotted value true keys entries
  else
    updateAt (fun
      | some (table origin inner) => (insertDotted value true keys inner).map (table origin)
      | some (tables items) => (updateLast (insertDotted value true keys) items).map tables
      | _ => none) header entries

/--
The values under some names: by name in a table, by order in an array.  A date or time has
none of them, and other values have no named parts at all.
-/
def fields? (names : List String) : Toml → Option (List (Option Toml))
  | table _ entries => some (names.map fun name => entries.lookup name)
  | array items => some ((List.range names.length).map fun place => items[place]?)
  | tables items =>
    some ((List.range names.length).map fun place => items[place]?.map (table .header))
  | moment => some (names.map fun _ => none)
  | text _ | bool _ | number => none

def isHollow : Toml → Bool
  | table _ entries => entries.isEmpty
  | array items => items.isEmpty
  | tables items => items.isEmpty
  | text _ | bool _ | number | moment => false

def text? : Toml → Option String
  | text value => some value
  | _ => none

def bool? : Toml → Option Bool
  | bool value => some value
  | _ => none

end Toml

end Sections
