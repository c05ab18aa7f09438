import SocAnalyst.Builtins

/-!
# Points in time

Python's `datetime`: a wall-clock reading with or without an offset from UTC.
Readings with an offset are ordered by the instant they name, readings without
one by the clock; an ordering between the two kinds raises.
-/
namespace SocAnalyst.Times
open SocAnalyst.Builtins

/-- Microseconds in a day. -/
def dayMicros : Int := 86400000000
/-- The days of the years 1 to 9999. -/
def maxDays : Int := 3652059

/-- A `datetime`: microseconds on the clock since the start of year 1, and the
    offset from UTC in microseconds when there is one. -/
structure DateTime where
  clock : Int
  offset : Option Int
  in_range : 0 ≤ clock ∧ clock < maxDays * dayMicros
  deriving DecidableEq

/-- Whether the reading carries an offset. -/
def DateTime.aware (t : DateTime) : Bool := t.offset.isSome

/-- The instant named, or the clock itself without an offset. -/
def DateTime.instant (t : DateTime) : Int := t.clock - t.offset.getD 0

/-- Two readings that can be ordered. -/
def Comparable (s t : DateTime) : Prop := s.aware = t.aware

instance (s t : DateTime) : Decidable (Comparable s t) := inferInstanceAs (Decidable (_ = _))

/-- The `<` of two readings. -/
def DateTime.lt (s t : DateTime) : Except PyError Bool :=
  if Comparable s t then .ok (s.instant < t.instant) else .error .TypeError

/-- `min(first, second)`: the first unless the second is smaller. -/
def DateTime.min (first second : DateTime) : Except PyError DateTime :=
  (second.lt first).map fun smaller => if smaller then second else first
/-- `max(first, second)`: the first unless the second is greater. -/
def DateTime.max (first second : DateTime) : Except PyError DateTime :=
  (first.lt second).map fun smaller => if smaller then second else first

theorem lt_comparable {s t : DateTime} (h : Comparable s t) : s.lt t = .ok (s.instant < t.instant) := by
  simp [DateTime.lt,h]

/-! ### Printing -/

/-- A number with zeros before it up to a width. -/
def padded (width n : Nat) : Text := List.replicate (width - (lit (toString n)).length) 48 ++ lit (toString n)

def isLeap (year : Nat) : Bool := year % 4 == 0 && (year % 100 != 0 || year % 400 == 0)

def monthLengths (year : Nat) : List Nat := [31,if isLeap year then 29 else 28,31,30,31,30,31,31,30,31,30,31]

/-- The month of a day of the year and the day in it, from a month on. -/
def monthDay : List Nat → Nat → Nat → Nat × Nat
  | [], month, day => (month,day + 1)
  | length :: lengths, month, day => if day < length then (month,day + 1) else monthDay lengths (month + 1) (day - length)

/-- The year of a day since the start of year 1, and the day in it. -/
def yearDay (day : Nat) : Nat × Nat :=
  -- The last day of a cycle still belongs to its last century, and to its last year.
  let ofCycle := day % 146097
  let centuries := min 3 (ofCycle / 36524)
  let ofCentury := ofCycle - 36524 * centuries
  let ofLeaps := ofCentury % 1461
  let years := min 3 (ofLeaps / 365)
  (400 * (day / 146097) + 100 * centuries + 4 * (ofCentury / 1461) + years + 1,ofLeaps - 365 * years)

def secondMicros : Nat := 1000000

def dateText (day : Nat) : Text :=
  let year := (yearDay day).1
  let ofYear := monthDay (monthLengths year) 1 (yearDay day).2
  padded 4 year ++ lit "-" ++ padded 2 ofYear.1 ++ lit "-" ++ padded 2 ofYear.2

/-- Hours and minutes. -/
def minutesText (micros : Nat) : Text :=
  padded 2 (micros / secondMicros / 3600) ++ lit ":" ++ padded 2 (micros / secondMicros / 60 % 60)

/-- Seconds, with a fraction if there is one. -/
def secondsText (micros : Nat) : Text :=
  lit ":" ++ padded 2 (micros / secondMicros % 60) ++
    if micros % secondMicros = 0 then [] else lit "." ++ padded 6 (micros % secondMicros)

def offsetText (offset : Int) : Text :=
  (if offset < 0 then lit "-" else lit "+") ++ minutesText offset.natAbs ++
    if offset.natAbs / secondMicros % 60 = 0 ∧ offset.natAbs % secondMicros = 0 then [] else secondsText offset.natAbs

/-- `datetime.isoformat`. -/
def DateTime.isoformat (t : DateTime) : Text :=
  let day := dayMicros.toNat
  dateText (t.clock.toNat / day) ++ lit "T" ++ minutesText (t.clock.toNat % day) ++ secondsText (t.clock.toNat % day) ++
    (t.offset.map offsetText).getD []

/-- A text of the characters that a printed reading has: between `+` and `T`. -/
def Printed (text : Text) : Prop := ∀ c ∈ text, 43 ≤ c ∧ c ≤ 84

instance (text : Text) : Decidable (Printed text) := inferInstanceAs (Decidable (∀ c ∈ text, 43 ≤ c ∧ c ≤ 84))

theorem Printed.append {first second : Text} (left : Printed first) (right : Printed second) : Printed (first ++ second) :=
  List.forall_mem_append.mpr ⟨left,right⟩

theorem printed_padded (width n : Nat) : Printed (padded width n) := by
  apply Printed.append
  · intro c zero
    rw [List.eq_of_mem_replicate zero]
    decide
  · intro c member
    have digit := digits_number member
    omega

theorem printed_date (day : Nat) : Printed (dateText day) := by
  unfold dateText
  have dash : Printed (lit "-") := by decide
  exact ((((printed_padded _ _).append dash).append (printed_padded _ _)).append dash).append (printed_padded _ _)

theorem printed_minutes (micros : Nat) : Printed (minutesText micros) := by
  have colon : Printed (lit ":") := by decide
  exact ((printed_padded _ _).append colon).append (printed_padded _ _)

theorem printed_seconds (micros : Nat) : Printed (secondsText micros) := by
  have colon : Printed (lit ":") := by decide
  have point : Printed (lit ".") := by decide
  apply (colon.append (printed_padded _ _)).append
  split_ifs
  · decide
  · exact point.append (printed_padded _ _)

theorem printed_offset (offset : Int) : Printed (offsetText offset) := by
  have sign : Printed (if offset < 0 then lit "-" else lit "+") := by split_ifs <;> decide
  apply (sign.append (printed_minutes _)).append
  split_ifs
  · decide
  · exact printed_seconds _

theorem printed_isoformat (t : DateTime) : Printed t.isoformat := by
  have middle : Printed (lit "T") := by decide
  refine ((((printed_date _).append middle).append (printed_minutes _)).append (printed_seconds _)).append ?_
  cases t.offset with
  | none => decide
  | some offset => exact printed_offset offset

end SocAnalyst.Times
