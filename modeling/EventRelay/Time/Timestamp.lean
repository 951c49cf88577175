/-!
# Timestamps

An instant is a whole number of Unix seconds and the nanoseconds since then,
in the years -262143 to 262142. A leap second has no Unix second of its own:
it is kept as nanoseconds 10⁹ and more of the second before it. A duration is
whole seconds and nanoseconds, never negative.
-/

set_option autoImplicit false

namespace EventRelay

/-! ## Durations -/

structure Duration where
  seconds : Nat
  nanos : Nat := 0
  deriving DecidableEq, Repr

namespace Duration

def ofMillis (n : Nat) : Duration := ⟨n / 1000, n % 1000 * 1000000⟩

def millis (d : Duration) : Nat := d.seconds * 1000 + d.nanos / 1000000

end Duration

/-! ## Instants -/

namespace Time

def firstSecond : Int := -8334601228800

def lastSecond : Int := 8210266876799

def nanosPerSecond : Nat := 1000000000

def Representable (seconds : Int) (nanos : Nat) : Prop :=
  firstSecond ≤ seconds ∧ seconds ≤ lastSecond ∧
    (nanos < nanosPerSecond ∨ nanos < 2 * nanosPerSecond ∧ seconds % 60 = 59)

instance (seconds : Int) (nanos : Nat) : Decidable (Representable seconds nanos) := by
  unfold Representable; infer_instance

end Time

structure Timestamp where
  seconds : Int
  nanos : Nat
  representable : Time.Representable seconds nanos
  deriving DecidableEq

namespace Timestamp

open Time

def make? (seconds : Int) (nanos : Nat) : Option Timestamp :=
  if h : Representable seconds nanos then some ⟨seconds, nanos, h⟩ else none

def ofSeconds? (seconds : Int) : Option Timestamp := make? seconds 0

def epoch : Timestamp := ⟨0, 0, by decide⟩

def latest : Timestamp := ⟨lastSecond, nanosPerSecond - 1, by decide⟩

def isBefore (a b : Timestamp) : Prop :=
  a.seconds < b.seconds ∨ a.seconds = b.seconds ∧ a.nanos < b.nanos

instance : LT Timestamp := ⟨isBefore⟩

instance (a b : Timestamp) : Decidable (a < b) :=
  inferInstanceAs (Decidable (_ ∨ _))

instance : LE Timestamp := ⟨fun a b => ¬ b < a⟩

instance (a b : Timestamp) : Decidable (a ≤ b) :=
  inferInstanceAs (Decidable (¬ _))

/-- The instant a duration later, or `latest` where there is none. A duration that stays within
the leap second it starts in leads to a later part of that leap second. -/
def plus (t : Timestamp) (d : Duration) : Timestamp :=
  let seconds := d.seconds + d.nanos / nanosPerSecond
  let nanos := d.nanos % nanosPerSecond
  let sum := t.nanos + nanos
  let later :=
    if nanosPerSecond ≤ t.nanos ∧ seconds = 0 ∧ sum < 2 * nanosPerSecond then
      make? t.seconds sum
    else
      let sum := if nanosPerSecond ≤ t.nanos then sum - nanosPerSecond else sum
      make? (t.seconds + seconds + (sum / nanosPerSecond : Nat)) (sum % nanosPerSecond)
  later.getD latest

def wholeSecond (t : Timestamp) : Timestamp :=
  ⟨t.seconds, 0, t.representable.1, t.representable.2.1, Or.inl (by decide)⟩

/-- Nanoseconds since 1970, or 2⁶³ - 1 where they do not fit 64 bits. -/
def unixNanos (t : Timestamp) : Int :=
  let n := t.seconds * 1000000000 + t.nanos
  if -9223372036854775808 ≤ n ∧ n ≤ 9223372036854775807 then n else 9223372036854775807

end Timestamp

end EventRelay
