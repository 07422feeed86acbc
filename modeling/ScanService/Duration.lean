import ScanService.Text.Numeral

/-!
# Spans of time

A `Duration` counts whole nanoseconds.  Its text names the largest unit of which at least one is
full, with as many decimals as needed: `5s`, `1.5s`, `500ms`, `1µs`, `0ns`.
-/

namespace ScanService

/-- A span of time in whole nanoseconds. -/
structure Duration where
  /-- How many nanoseconds the span lasts. -/
  nanos : Nat
  deriving DecidableEq, Repr, Inhabited

namespace Duration

/-- So many seconds. -/
def ofSeconds (n : Nat) : Duration := ⟨n * 1000000000⟩

/-- So many milliseconds. -/
def ofMillis (n : Nat) : Duration := ⟨n * 1000000⟩

/-- So many microseconds. -/
def ofMicros (n : Nat) : Duration := ⟨n * 1000⟩

/-- The span in whole milliseconds, the rest dropped. -/
def millis (d : Duration) : Nat := d.nanos / 1000000

instance : Add Duration := ⟨fun a b => ⟨a.nanos + b.nanos⟩⟩
instance : LE Duration := ⟨fun a b => a.nanos ≤ b.nanos⟩
instance : LT Duration := ⟨fun a b => a.nanos < b.nanos⟩
instance (a b : Duration) : Decidable (a ≤ b) := Nat.decLe _ _
instance (a b : Duration) : Decidable (a < b) := Nat.decLt _ _

@[simp] theorem nanos_add (a b : Duration) : (a + b).nanos = a.nanos + b.nanos := rfl
theorem le_iff {a b : Duration} : a ≤ b ↔ a.nanos ≤ b.nanos := Iff.rfl
theorem lt_iff {a b : Duration} : a < b ↔ a.nanos < b.nanos := Iff.rfl

/-- A number of units, `places` decimals of the next unit kept as far as they say something. -/
def inUnit (nanos unit places : Nat) (name : String) : String :=
  let rest := nanos % unit
  let decimals := ((Text.zeroPad places (Text.decimal rest)).reverse.dropWhile (· == '0')).reverse
  let point := if rest = 0 then [] else '.' :: decimals
  String.ofList (Text.decimal (nanos / unit) ++ point) ++ name

/-- The span in the largest unit of which one is full. -/
def text (d : Duration) : String :=
  if 1000000000 ≤ d.nanos then inUnit d.nanos 1000000000 9 "s"
  else if 1000000 ≤ d.nanos then inUnit d.nanos 1000000 6 "ms"
  else if 1000 ≤ d.nanos then inUnit d.nanos 1000 3 "µs"
  else inUnit d.nanos 1 0 "ns"

end Duration
end ScanService
