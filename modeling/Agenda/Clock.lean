/-!
Points in time and spans between them.

An instant is an `Int`: whole nanoseconds since the start of the clock, negative before it.  The
clock counts seconds in 63 bits, so that a span can end beyond its last instant, and a span that
does not do so today may do so later.
-/

namespace Agenda

namespace Clock

def nanosPerMilli : Nat := 1000000

/-- The last instant that the clock can represent. -/
def last : Int := 9223372036854775807 * 1000000000 + 999999999

def ofMillis (millis nanos : Int) : Int :=
  millis * nanosPerMilli + nanos

def toMillis (instant : Int) : Int :=
  instant / (nanosPerMilli : Int)

end Clock

/-- How long to wait.  The endless delay is longer than any clock can represent. -/
inductive Delay where
  | span (nanos : Nat)
  | endless
  deriving DecidableEq, Repr

namespace Delay

def ofMillis (millis : Nat) : Delay :=
  .span (millis * Clock.nanosPerMilli)

/-- The instant at which the delay is over, if the clock can represent it. -/
def after? (now : Int) : Delay → Option Int
  | .span nanos => if now + nanos ≤ Clock.last then some (now + nanos) else none
  | .endless => none

theorem after?_eq_some_iff {now deadline : Int} {nanos : Nat} :
    (Delay.span nanos).after? now = some deadline ↔
      now + nanos ≤ Clock.last ∧ now + nanos = deadline := by
  simp [after?]

/-- What a caller is told whose delay ends beyond the last instant of the clock. -/
def overflowMessage : String := "overflow when adding duration to instant"

end Delay

inductive Due where
  | after (delay : Delay)
  | at (instant : Int)
  deriving DecidableEq, Repr

def Due.instant? (now : Int) : Due → Option Int
  | .after delay => delay.after? now
  | .at instant => some instant

end Agenda
