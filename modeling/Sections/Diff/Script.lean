/-!
# Edit scripts

A script turns one list into another by keeping, deleting and inserting items in order.  It is
written as a list of runs.
-/

namespace Sections

inductive Action where
  | keep
  | delete
  | insert
  deriving DecidableEq, Repr

structure EditRun (α : Type) where
  action : Action
  items : List α
  deriving DecidableEq, Repr

abbrev EditScript (α : Type) := List (EditRun α)

namespace EditScript

variable {α : Type}

def source (script : EditScript α) : List α :=
  script.flatMap fun run => if run.action = .insert then [] else run.items

def target (script : EditScript α) : List α :=
  script.flatMap fun run => if run.action = .delete then [] else run.items

def kept (script : EditScript α) : List α :=
  script.flatMap fun run => if run.action = .keep then run.items else []

def run (action : Action) (items : List α) : EditScript α :=
  if items.isEmpty then [] else [⟨action, items⟩]

def replaceAll (old new : List α) : EditScript α := run .delete old ++ run .insert new

end EditScript

def commonPrefix {α : Type} [DecidableEq α] : List α → List α → List α
  | a :: as, b :: bs => if a = b then a :: commonPrefix as bs else []
  | _, _ => []

def commonSuffix {α : Type} [DecidableEq α] (as bs : List α) : List α :=
  (commonPrefix as.reverse bs.reverse).reverse

end Sections
