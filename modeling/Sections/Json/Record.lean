import Sections.Json.Basic

/-!
# Records in JSON

A record is written as an object and may also be given as an array of its fields in their order.
-/

namespace Sections

inductive Absence where
  | never
  | inObjects
  | everywhere
  deriving DecidableEq, Repr

structure Field where
  name : String
  absence : Absence := .never
  deriving DecidableEq, Repr

namespace Json

def fieldsOfItems : List Field → List Json → Option (List (Option Json))
  | [], [] => some []
  | [], _ :: _ => none
  | _ :: fields, value :: values => (fieldsOfItems fields values).map (some value :: ·)
  | field :: fields, [] =>
    if field.absence = .everywhere then (fieldsOfItems fields []).map (none :: ·) else none

def valuesOf (name : String) (members : List (Option String × Json)) : List Json :=
  members.filterMap fun (key, value) => if key = some name then some value else none

def fieldsOfMembers (members : List (Option String × Json)) :
    List Field → Option (List (Option Json))
  | [] => some []
  | field :: fields =>
    match valuesOf field.name members with
    | [] =>
      if field.absence = .never then none
      else (fieldsOfMembers members fields).map (none :: ·)
    | [value] => (fieldsOfMembers members fields).map (some value :: ·)
    | _ => none

def fields? (fields : List Field) : Json → Option (List (Option Json))
  | array items => fieldsOfItems fields items
  | object members =>
    if members.any fun member => member.1.isNone then none else fieldsOfMembers members fields
  | _ => none

def text? : Json → Option String
  | string value => value
  | _ => none

def word? : Json → Option Nat
  | number value => value
  | _ => none

def bool? : Json → Option Bool
  | bool value => some value
  | _ => none

def items? {α : Type} (read : Json → Option α) : Json → Option (List α)
  | array items => items.mapM read
  | _ => none

def optional? {α : Type} (read : Json → Option α) : Option Json → Option (Option α)
  | none | some null => some none
  | some value => (read value).map some

def ofOption {α : Type} (write : α → Json) (value : Option α) : Json := (value.map write).getD null

def memberIfSome {α : Type} (name : String) (write : α → Json) : Option α → List (String × Json)
  | some value => [(name, write value)]
  | none => []

end Json

end Sections
