/-!
# Timestamps

An instant in nanoseconds since 1970 with the offset of the clock that shows it, in the proleptic
Gregorian calendar.

* `Timestamp.make?` — an instant whose date lies in the years −9999 to 9999, there and in Greenwich.
* `Timestamp.text` — the date and time as RFC 3339 has it, or the whole second where the year is
  negative or the offset is not made of minutes within a day.
-/

namespace ChillerGateway

/-- A date of the proleptic Gregorian calendar. -/
structure Date where
  year : Int
  month : Nat
  day : Nat
  deriving DecidableEq, Repr

/-- The date of a day counted from 1 January 1970. -/
def Date.ofDays (days : Int) : Date :=
  -- Days and years are counted from 1 March of the year 0, so a leap day ends its year.
  let fromEpoch := days + 719468
  let era := fromEpoch / 146097
  let dayOfEra := (fromEpoch % 146097).toNat
  let yearOfEra := (dayOfEra - dayOfEra / 1460 + dayOfEra / 36524 - dayOfEra / 146096) / 365
  let dayOfYear := dayOfEra - (365 * yearOfEra + yearOfEra / 4 - yearOfEra / 100)
  let shifted := (5 * dayOfYear + 2) / 153
  let month := if shifted < 10 then shifted + 3 else shifted - 9
  let year := era * 400 + yearOfEra + if month ≤ 2 then 1 else 0
  ⟨year, month, dayOfYear - (153 * shifted + 2) / 5 + 1⟩

/-- An instant, with the offset in seconds of the clock that shows it. -/
structure Timestamp where
  nanoseconds : Int
  offset : Int
  deriving DecidableEq, Repr

namespace Timestamp

/-- The second, toward the past. -/
def unixSecond (t : Timestamp) : Int := t.nanoseconds / 1000000000

/-- The second that the clock shows. -/
def localSecond (t : Timestamp) : Int := t.unixSecond + t.offset

def yearOf (second : Int) : Int := (Date.ofDays (second / 86400)).year

def InCalendar (second : Int) : Prop := -9999 ≤ yearOf second ∧ yearOf second ≤ 9999

instance (second : Int) : Decidable (InCalendar second) := by unfold InCalendar; infer_instance

/-- The instant, if the calendar has it on both clocks. -/
def make? (nanoseconds offset : Int) : Option Timestamp :=
  let t : Timestamp := ⟨nanoseconds, offset⟩
  if InCalendar t.unixSecond ∧ InCalendar t.localSecond then some t else none

/-- A number with at least so many digits. -/
def padded (width n : Nat) : String :=
  let digits := toString n
  String.ofList (List.replicate (width - digits.length) '0') ++ digits

/-- The digits after the point, without zeros at the end. -/
def fractionText (nanoseconds : Nat) : String :=
  if nanoseconds = 0 then ""
  else
    let digits := (padded 9 nanoseconds).toList
    "." ++ String.ofList (digits.reverse.dropWhile (· = '0')).reverse

def offsetText (offset : Int) : String :=
  if offset = 0 then "Z"
  else
    let minutes := offset.natAbs / 60
    (if offset < 0 then "-" else "+") ++ padded 2 (minutes / 60) ++ ":" ++ padded 2 (minutes % 60)

/-- Whether the instant has an RFC 3339 text. -/
def HasText (t : Timestamp) : Prop :=
  0 ≤ yearOf t.localSecond ∧ t.offset % 60 = 0 ∧ t.offset.natAbs < 86400

instance (t : Timestamp) : Decidable t.HasText := by unfold HasText; infer_instance

/-- The text of an instant. -/
def text (t : Timestamp) : String :=
  if t.HasText then
    let date := Date.ofDays (t.localSecond / 86400)
    let second := (t.localSecond % 86400).toNat
    padded 4 date.year.toNat ++ "-" ++ padded 2 date.month ++ "-" ++ padded 2 date.day ++ "T" ++
      padded 2 (second / 3600) ++ ":" ++ padded 2 (second / 60 % 60) ++ ":" ++
      padded 2 (second % 60) ++ fractionText (t.nanoseconds % 1000000000).toNat ++
      offsetText t.offset
  else toString t.unixSecond

end Timestamp

end ChillerGateway
