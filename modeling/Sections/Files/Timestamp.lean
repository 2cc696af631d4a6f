import Sections.Text.Numeral

/-!
# Timestamps

Modification times with nanoseconds.
-/

namespace Sections

structure Timestamp where
  seconds : Int
  nanos : Nat
  deriving DecidableEq, Repr, Inhabited

namespace Timestamp

def nanosPerSecond : Nat := 1000000000

instance : LT Timestamp :=
  ⟨fun a b => a.seconds < b.seconds ∨ a.seconds = b.seconds ∧ a.nanos < b.nanos⟩

instance (a b : Timestamp) : Decidable (a < b) :=
  inferInstanceAs (Decidable (a.seconds < b.seconds ∨ a.seconds = b.seconds ∧ a.nanos < b.nanos))

def succ (time : Timestamp) : Timestamp :=
  if nanosPerSecond ≤ time.nanos + 1 then ⟨time.seconds + 1, 0⟩ else ⟨time.seconds, time.nanos + 1⟩

/-- A time later than the previous one: the present if that is later. -/
def following (previous : Option Timestamp) (now : Timestamp) : Timestamp :=
  match previous with
  | some previous => if previous < now then now else previous.succ
  | none => now

def render (time : Timestamp) : String := toString time.seconds ++ "." ++ paddedDecimal 9 time.nanos

end Timestamp

end Sections
