/-!
# Calendar times

Dates of the Gregorian calendar, times of day, and both together with an optional distance from
universal time. `Date.ofDays` and `Date.days` convert between dates and days since 1970-01-01; the
texts follow ISO 8601.
-/

namespace QueryDesk

structure Date where
  year : Int
  month : Nat
  day : Nat
  deriving DecidableEq, Repr

structure Clock where
  hour : Nat
  minute : Nat
  second : Nat := 0
  microsecond : Nat := 0
  deriving DecidableEq, Repr

/-- A date with a time of day; `offset` is the distance from universal time in seconds. -/
structure DateTime where
  date : Date
  clock : Clock
  offset : Option Int := none
  deriving DecidableEq, Repr

namespace Date

/-- Days since 1970-01-01. Years are counted from March, in eras of four hundred years. -/
def days (d : Date) : Int :=
  let year := if d.month ≤ 2 then d.year - 1 else d.year
  let era := Int.fdiv year 400
  let yearOfEra := year - era * 400
  let monthFromMarch : Int := (d.month + 9) % 12
  let dayOfYear := (153 * monthFromMarch + 2) / 5 + d.day - 1
  let dayOfEra := yearOfEra * 365 + yearOfEra / 4 - yearOfEra / 100 + dayOfYear
  era * 146097 + dayOfEra - 719468

/-- The date that many days after 1970-01-01. -/
def ofDays (n : Int) : Date :=
  let shifted := n + 719468
  let era := Int.fdiv shifted 146097
  let dayOfEra := shifted - era * 146097
  let yearOfEra := (dayOfEra - dayOfEra / 1460 + dayOfEra / 36524 - dayOfEra / 146096) / 365
  let dayOfYear := dayOfEra - (365 * yearOfEra + yearOfEra / 4 - yearOfEra / 100)
  let monthFromMarch := (5 * dayOfYear + 2) / 153
  let day := dayOfYear - (153 * monthFromMarch + 2) / 5 + 1
  let month := if monthFromMarch < 10 then monthFromMarch + 3 else monthFromMarch - 9
  let year := yearOfEra + era * 400 + if month ≤ 2 then 1 else 0
  ⟨year, month.toNat, day.toNat⟩

end Date

/-- A number in at least `width` digits. -/
def paddedNumber (width n : Nat) : String :=
  let digits := toString n
  .ofList (List.replicate (width - digits.length) '0') ++ digits

def Date.text (d : Date) : String :=
  s!"{paddedNumber 4 d.year.toNat}-{paddedNumber 2 d.month}-{paddedNumber 2 d.day}"

def Clock.seconds (c : Clock) : String :=
  s!"{paddedNumber 2 c.hour}:{paddedNumber 2 c.minute}:{paddedNumber 2 c.second}"

/-- The time of day, with microseconds if there are any. -/
def Clock.text (c : Clock) : String :=
  c.seconds ++ if c.microsecond = 0 then "" else s!".{paddedNumber 6 c.microsecond}"

/-- A distance from universal time; seconds are shown if there are any. -/
def offsetText (separator : String) (offset : Int) : String :=
  let size := offset.natAbs
  let sign := if offset < 0 then "-" else "+"
  let seconds := size % 60
  sign ++ paddedNumber 2 (size / 3600) ++ separator ++ paddedNumber 2 (size / 60 % 60) ++
    if seconds = 0 then "" else separator ++ paddedNumber 2 seconds

namespace DateTime

/-- The text of a date and time with a separator between the two. -/
def textWith (separator : String) (t : DateTime) : String :=
  t.date.text ++ separator ++ t.clock.text ++
    match t.offset with
    | none => ""
    | some offset => offsetText ":" offset

def text (t : DateTime) : String :=
  t.textWith "T"

/-- Milliseconds since 1970 in universal time, to which a time without an offset belongs. -/
def milliseconds (t : DateTime) : Int :=
  let second := t.date.days * 86400 + t.clock.hour * 3600 + t.clock.minute * 60 + t.clock.second
  (second - t.offset.getD 0) * 1000 + (t.clock.microsecond / 1000 : Nat)

/-- Whether the time is before the year 1 in universal time. -/
def isBeforeCalendar (t : DateTime) : Bool :=
  t.milliseconds < -62135596800000

def isBeforeEpoch (t : DateTime) : Bool :=
  t.milliseconds < 0

/-- The time in universal time that many milliseconds after the start of 1970. -/
def ofMilliseconds (n : Int) : DateTime :=
  let day := Int.fdiv n 86400000
  let rest := (n - day * 86400000).toNat
  { date := .ofDays day
    clock :=
      { hour := rest / 3600000
        minute := rest / 60000 % 60
        second := rest / 1000 % 60
        microsecond := rest % 1000 * 1000 }
    offset := some 0 }

/-- The text that extended JSON gives a date from 1970 on: milliseconds if there are any, and `Z`
for universal time. -/
def extendedText (t : DateTime) : String :=
  let milli := t.clock.microsecond / 1000
  t.date.text ++ "T" ++ t.clock.seconds ++
    (if milli = 0 then "" else s!".{paddedNumber 3 milli}") ++
    if t.offset.getD 0 = 0 then "Z" else offsetText "" (t.offset.getD 0)

end DateTime

end QueryDesk
