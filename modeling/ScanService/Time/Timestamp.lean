import ScanService.Text.Blank
import ScanService.Text.Numeral
import ScanService.Time.Date

/-!
# Points in time

A `Timestamp` is a date and a time of day in UTC, to the nanosecond, with room for a leap second.

* `Timestamp.text` writes it as RFC 3339 does: `Z` for UTC and 0, 3, 6 or 9 decimals of the second,
  the fewest that lose nothing.
* `Timestamp.parse?` reads that form and its usual relaxations: blanks around numbers and signs,
  numbers without their leading zeros, a blank or a small `t` before the time, and an offset from
  UTC, which is taken off.
* `Timestamp.rank` places all of them on one line; the order is that of the ranks.
-/

namespace ScanService

/-- The rules for the parts of a time of day; second 60 is a leap second. -/
def IsClockTime (hour minute second nanosecond : Nat) : Prop :=
  hour < 24 ∧ minute < 60 ∧ second ≤ 60 ∧ nanosecond < 1000000000

instance (hour minute second nanosecond : Nat) :
    Decidable (IsClockTime hour minute second nanosecond) := by
  unfold IsClockTime; infer_instance

/-- A point in time, by its date and time of day in UTC. -/
structure Timestamp where
  /-- The day. -/
  date : Date
  /-- Hours since midnight. -/
  hour : Nat
  /-- Minutes of the hour. -/
  minute : Nat
  /-- Seconds of the minute. -/
  second : Nat
  /-- Nanoseconds of the second. -/
  nanosecond : Nat
  /-- The time of day exists. -/
  isClockTime : IsClockTime hour minute second nanosecond
  deriving DecidableEq

namespace Timestamp

theorem isDate_unixEpoch : IsDate 1970 1 1 := by decide

theorem isClockTime_midnight : IsClockTime 0 0 0 0 := by decide

/-- The point in time from which Unix counts. -/
def unixEpoch : Timestamp := ⟨⟨1970, 1, 1, isDate_unixEpoch⟩, 0, 0, 0, 0, isClockTime_midnight⟩

/-- Where the point lies among all points in time. -/
def rank (t : Timestamp) : Int :=
  (((((t.date.year * 13 + t.date.month) * 32 + t.date.day) * 24 + t.hour) * 60 + t.minute) * 61
    + t.second) * 1000000000 + t.nanosecond

instance : LE Timestamp := ⟨fun a b => a.rank ≤ b.rank⟩
instance (a b : Timestamp) : Decidable (a ≤ b) := Int.decLe _ _

theorem le_iff {a b : Timestamp} : a ≤ b ↔ a.rank ≤ b.rank := Iff.rfl

/-- Different points in time have different ranks. -/
theorem rank_inj {a b : Timestamp} (h : a.rank = b.rank) : a = b := by
  obtain ⟨⟨ya, ma, da, hda⟩, ha, mia, sa, na, hca⟩ := a
  obtain ⟨⟨yb, mb, db, hdb⟩, hb, mib, sb, nb, hcb⟩ := b
  have h1 := Date.daysInMonth_le ya ma
  have h2 := Date.daysInMonth_le yb mb
  obtain ⟨-, -, -, hma, -, hda'⟩ := id hda
  obtain ⟨-, -, -, hmb, -, hdb'⟩ := id hdb
  obtain ⟨hha, hmia, hsa, hna⟩ := id hca
  obtain ⟨hhb, hmib, hsb, hnb⟩ := id hcb
  simp only [rank] at h
  have : ya = yb ∧ ma = mb ∧ da = db ∧ ha = hb ∧ mia = mib ∧ sa = sb ∧ na = nb := by omega
  obtain ⟨rfl, rfl, rfl, rfl, rfl, rfl, rfl⟩ := this
  rfl

/-- The later of two points in time. -/
def later (a b : Timestamp) : Timestamp := if a ≤ b then b else a

/-- The latest of some points in time. -/
def latest? : List Timestamp → Option Timestamp
  | [] => none
  | t :: ts => some (ts.foldl later t)

/-! ## Writing -/

/-- A year: four digits from 0 to 9999, and outside with its sign and at least four digits. -/
def yearText (year : Int) : List Char :=
  if 0 ≤ year ∧ year ≤ 9999 then Text.zeroPad 4 (Text.decimal year.toNat)
  else (if year < 0 then '-' else '+') :: Text.zeroPad 4 (Text.decimal year.natAbs)

/-- The decimals of a second: none, or three, six or nine digits. -/
def fractionText (nanosecond : Nat) : List Char :=
  if nanosecond = 0 then []
  else if nanosecond % 1000000 = 0 then
    '.' :: Text.zeroPad 3 (Text.decimal (nanosecond / 1000000))
  else if nanosecond % 1000 = 0 then '.' :: Text.zeroPad 6 (Text.decimal (nanosecond / 1000))
  else '.' :: Text.zeroPad 9 (Text.decimal nanosecond)

/-- Two digits. -/
def twoDigits (n : Nat) : List Char := Text.zeroPad 2 (Text.decimal n)

/-- The characters of the RFC 3339 form. -/
def chars (t : Timestamp) : List Char :=
  yearText t.date.year ++ '-' :: twoDigits t.date.month ++ '-' :: twoDigits t.date.day
    ++ 'T' :: twoDigits t.hour ++ ':' :: twoDigits t.minute ++ ':' :: twoDigits t.second
    ++ fractionText t.nanosecond ++ ['Z']

/-- The RFC 3339 form. -/
def text (t : Timestamp) : String := String.ofList t.chars

/-! ## Reading -/

/-- Drops blanks in front. -/
def skipBlank (s : List Char) : List Char := s.dropWhile Text.isBlank

/-- Reads one to `width` digits, after blanks. -/
def readNumber (width : Nat) (s : List Char) : Option (Nat × List Char) :=
  let s := skipBlank s
  match Text.takeDigits (s.take width) with
  | ([], _) => none
  | (values, rest) => some (Text.ofDigits 10 values, rest ++ s.drop width)

/-- Reads a year: up to four digits, or any number of them after a sign. -/
def readYear (s : List Char) : Option (Int × List Char) :=
  match skipBlank s with
  | '-' :: s => signed (-1) s
  | '+' :: s => signed 1 s
  | s => (readNumber 4 s).map fun (n, rest) => ((n : Int), rest)
where
  /-- All digits that follow a sign. -/
  signed (sign : Int) (s : List Char) : Option (Int × List Char) :=
    match Text.takeDigits s with
    | ([], _) => none
    | (values, rest) => some (sign * Text.ofDigits 10 values, rest)

/-- Reads a mark after blanks. -/
def readMark (mark : Char) (s : List Char) : Option (List Char) :=
  match skipBlank s with
  | c :: rest => if c = mark then some rest else none
  | [] => none

/-- Reads the decimals of a second, if a point follows; what lies below the nanosecond is
dropped. -/
def readFraction : List Char → Option (Nat × List Char)
  | '.' :: s =>
    match Text.takeDigits s with
    | ([], _) => none
    | (values, rest) => some (Text.ofDigits 10 ((values ++ List.replicate 9 0).take 9), rest)
  | s => some (0, s)

/-- Two decimal digits. -/
def readTwoDigits : List Char → Option (Nat × List Char)
  | a :: b :: rest => do
    let tens ← Text.decimalValue a
    let units ← Text.decimalValue b
    return (10 * tens + units, rest)
  | _ => none

/-- Reads the minutes by which a zone is ahead of UTC. -/
def readOffset (s : List Char) : Option (Int × List Char) :=
  match s with
  | 'Z' :: rest | 'z' :: rest => some (0, rest)
  | '+' :: rest => ahead 1 rest
  | '-' :: rest | '−' :: rest => ahead (-1) rest
  | a :: b :: c :: rest =>
    if [a, b, c].map Char.toUpper = ['U', 'T', 'C'] then some (0, rest) else none
  | _ => none
where
  /-- Hours and minutes, with colons or blanks between them. -/
  ahead (sign : Int) (s : List Char) : Option (Int × List Char) := do
    let (hours, s) ← readTwoDigits s
    let (minutes, s) ← readTwoDigits (s.dropWhile fun c => c == ':' || Text.isBlank c)
    if minutes < 60 ∧ hours < 24 then return (sign * (60 * hours + minutes), s) else none

/-- The point in time that a local date and time denote, `offset` minutes ahead of UTC. -/
def ofLocal? (date : Date) (hour minute second nanosecond : Nat) (offset : Int) :
    Option Timestamp := do
  let minutes : Int := 60 * hour + minute - offset
  let date ← if minutes < 0 then date.previous? else if 1440 ≤ minutes then date.next? else date
  let minutes := (minutes % 1440).toNat
  if h : IsClockTime (minutes / 60) (minutes % 60) second nanosecond then
    return ⟨date, minutes / 60, minutes % 60, second, nanosecond, h⟩
  else none

/-- Reads a point in time; nothing but blanks may follow it. -/
def parse? (s : List Char) : Option Timestamp := do
  let (year, s) ← readYear s
  let s ← readMark '-' s
  let (month, s) ← readNumber 2 s
  let s ← readMark '-' s
  let (day, s) ← readNumber 2 s
  let s ← match s with
    | 'T' :: s | 't' :: s | ' ' :: s => some s
    | _ => none
  let (hour, s) ← readNumber 2 s
  let s ← readMark ':' s
  let (minute, s) ← readNumber 2 s
  let s ← readMark ':' s
  let (second, s) ← readNumber 2 s
  let (nanosecond, s) ← readFraction s
  let (offset, s) ← readOffset (skipBlank s)
  if skipBlank s ≠ [] then none
  let date ← Date.of? year month day
  if IsClockTime hour minute second nanosecond then
    ofLocal? date hour minute second nanosecond offset
  else none

/-! ## Whole microseconds -/

/-- The nanoseconds since midnight, a leap second counted as the one that follows. -/
def nanosOfDay (t : Timestamp) : Nat :=
  ((t.hour * 60 + t.minute) * 60 + t.second) * 1000000000 + t.nanosecond

/-- The point so many nanoseconds after midnight of a day, of which there may be a little too many. -/
def ofNanosOfDay (date : Date) (nanos : Nat) : Timestamp :=
  let date := if nanos < 86400000000000 then date else date.next?.getD date
  let nanos := nanos % 86400000000000
  let seconds := nanos / 1000000000
  ⟨date, seconds / 3600, seconds / 60 % 60, seconds % 60, nanos % 1000000000, by
    unfold IsClockTime; omega⟩

/-- The point in whole microseconds that is next to a point on the side of the year 2000. -/
def toMicros (t : Timestamp) : Timestamp :=
  let micros :=
    if 2000 ≤ t.date.year then t.nanosOfDay / 1000 else (t.nanosOfDay + 999) / 1000
  ofNanosOfDay t.date (micros * 1000)

end Timestamp
end ScanService
