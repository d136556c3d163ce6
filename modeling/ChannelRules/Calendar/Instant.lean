import ChannelRules.Calendar.Day

/-!
# Instants

An instant is a second, counted from the start of 1970, and nanoseconds after it. During a leap
second the count of seconds stands still and the nanoseconds go on past one billion. Offsets of
time are in nanoseconds; the arithmetic treats a leap second as a second only while one is
inside it.
-/

namespace ChannelRules.Calendar

/-- A point in time, in seconds and nanoseconds. -/
structure Instant where
  seconds : Int
  nanos : Nat
  deriving DecidableEq, Repr

def nanosPerSecond : Nat := 1000000000

def secondsPerDay : Int := 86400

namespace Instant

def dayNumber (t : Instant) : Int := Int.fdiv t.seconds secondsPerDay

def secondOfDay (t : Instant) : Int := t.seconds - t.dayNumber * secondsPerDay

/-- Whether the instant lies inside a leap second. -/
def isLeap (t : Instant) : Bool := decide (nanosPerSecond ≤ t.nanos)

/-- Instants are restricted to the days in range. -/
def inRange (t : Instant) : Bool :=
  decide (Day.firstNumber ≤ t.dayNumber) && decide (t.dayNumber ≤ Day.lastNumber)

/-- Midnight of a day, if the day exists. -/
def midnight? (d : Day) : Option Instant :=
  if d.valid then some ⟨d.number * secondsPerDay, 0⟩ else none

/-- Earlier, equal or later. -/
def compare (a b : Instant) : Ordering :=
  (Ord.compare a.seconds b.seconds).then (Ord.compare a.nanos b.nanos)

/-- Move an instant by whole seconds and a rest below one second, both of the sign of the offset.
Leaving a leap second counts it once; moving inside it keeps it. -/
def shift (t : Instant) (seconds rest : Int) : Instant :=
  let nanos : Int := t.nanos
  let settle (s n : Int) : Instant :=
    let s := s + seconds
    let n := n + rest
    if n < 0 then ⟨s - 1, (n + nanosPerSecond).toNat⟩
    else if (nanosPerSecond : Int) ≤ n then ⟨s + 1, (n - nanosPerSecond).toNat⟩
    else ⟨s, n.toNat⟩
  if t.isLeap then
    if 0 < seconds ∨ (0 < rest ∧ 2 * nanosPerSecond - rest ≤ nanos) then
      settle t.seconds (nanos - nanosPerSecond)
    else if seconds < 0 then settle (t.seconds + 1) (nanos - nanosPerSecond)
    else ⟨t.seconds, (nanos + rest).toNat⟩
  else settle t.seconds nanos

/-- Move an instant by milliseconds, if the result is in range. -/
def addMillis? (t : Instant) (millis : Int) : Option Instant :=
  let moved := t.shift (Int.tdiv millis 1000) (Int.tmod millis 1000 * 1000000)
  if moved.inRange then some moved else none

/-- The nanoseconds from one instant to another. A leap second that lies between two times of the
day counts as a second. -/
def nanosSince (a b : Instant) : Int :=
  let leap : Int :=
    if b.secondOfDay < a.secondOfDay then (if b.isLeap then 1 else 0)
    else if a.secondOfDay < b.secondOfDay then (if a.isLeap then -1 else 0)
    else 0
  (a.seconds - b.seconds + leap) * nanosPerSecond + ((a.nanos : Int) - b.nanos)

/-- The whole milliseconds from one instant to another. -/
def millisSince (a b : Instant) : Int := Int.tdiv (a.nanosSince b) 1000000

end Instant

end ChannelRules.Calendar
