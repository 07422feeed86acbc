import ScanService.Text.Numeral

/-!
# Double-precision numbers

A finite double is a sign and a number `mantissa * 2 ^ exponent`, exactly.  Rounding, products,
quotients and the shortest decimal text are computed in natural numbers, so that every result is a
fact about naturals.

* `Binary64.round`: the nearest double to a quotient, the even one of two equally near.
* `Binary64.ofDecimal?`: the double that a significand and a power of ten give, with the rounding
  of the two steps (the significand, then the scaling).
* `Binary64.text`: the fewest digits that no other double is nearer to.
-/

namespace ScanService

/-- A finite double: sign and magnitude. -/
structure Binary64 where
  /-- Whether the number carries a minus sign; zero may. -/
  negative : Bool
  /-- The integer that the power of two scales. -/
  mantissa : Nat
  /-- The power of two. -/
  exponent : Int
  deriving DecidableEq, Repr

namespace Binary64

/-- A magnitude `mantissa * 2 ^ exponent`. -/
abbrev Magnitude := Nat × Int

/-- The numerator of a magnitude written as a quotient. -/
def numerator (x : Magnitude) : Nat := x.1 <<< x.2.toNat

/-- The denominator of a magnitude written as a quotient. -/
def denominator (x : Magnitude) : Nat := 1 <<< (-x.2).toNat

/-- The power of two of the last place of a quotient, before the least exponent is considered. -/
def lastPlace (num den : Nat) : Int :=
  let l : Int := (Nat.log2 num : Int) - Nat.log2 den
  let full := if 0 ≤ l then den <<< l.toNat ≤ num else den ≤ num <<< (-l).toNat
  if full then l - 52 else l - 53

/-- The nearest magnitude to the quotient of two numbers; `none` beyond the largest. -/
def round (num den : Nat) : Option Magnitude :=
  if num = 0 then some (0, -1074)
  else
    let e := max (lastPlace num den) (-1074)
    let n := num <<< (-e).toNat
    let d := den <<< e.toNat
    let q := n / d
    let r := n % d
    let q := if d < 2 * r ∨ (d = 2 * r ∧ q % 2 = 1) then q + 1 else q
    let (q, e) := if q = 1 <<< 53 then (1 <<< 52, e + 1) else (q, e)
    if 971 < e then none else some (q, e)

/-- The rounded product. -/
def mul (x y : Magnitude) : Option Magnitude :=
  round (numerator x * numerator y) (denominator x * denominator y)

/-- The rounded quotient. -/
def div (x y : Magnitude) : Option Magnitude :=
  round (numerator x * denominator y) (denominator x * numerator y)

/-- The nearest magnitude to a power of ten. -/
def powerOfTen (k : Nat) : Option Magnitude := round (Nat.pow 10 k) 1

/-- Divides by `10 ^ k` in steps of at most 308 powers, each of them rounded. -/
def scaleDown (x : Magnitude) : Nat → Nat → Option Magnitude
  | 0, _ => none
  | fuel + 1, k =>
    if k ≤ 308 then (powerOfTen k).bind (div x)
    else if x.1 = 0 then some x
    else do
      let step ← powerOfTen 308
      let y ← div x step
      scaleDown y fuel (k - 308)

/-- The double for `significand * 10 ^ exponent`: the significand is rounded, then the result of
scaling it.  `none` when the result is beyond the largest double. -/
def ofDecimal? (negative : Bool) (significand : Nat) (exponent : Int) : Option Binary64 := do
  let x ← round significand 1
  let scaled ←
    if x.1 = 0 then some x
    else if exponent < 0 then scaleDown x ((-exponent).toNat / 308 + 1) (-exponent).toNat
    else if 308 < exponent then none
    else (powerOfTen exponent.toNat).bind (mul x)
  return ⟨negative, scaled.1, scaled.2⟩

/-! ## The shortest text -/

/-- The number of decimal digits. -/
def digitCount (n : Nat) : Nat := (Text.decimal n).length

/-- The power of ten of the first digit of a quotient. -/
def leadingPower (num den : Nat) : Int :=
  if den ≤ num then (digitCount (num / den) : Int) - 1
  else -(digitCount ((den + num - 1) / num - 1) : Int)

/-- Whether `c * 10 ^ p` lies in the interval of reals that round to `mantissa * 2 ^ exponent`. -/
def roundsTo (x : Magnitude) (c : Nat) (p : Int) : Bool :=
  let below := if x.1 = 1 <<< 52 ∧ -1074 < x.2 then 1 else 2
  let unitNum := Nat.pow 10 (-p).toNat <<< (x.2 - 2).toNat
  let unitDen := Nat.pow 10 p.toNat <<< (2 - x.2).toNat
  let low := (4 * x.1 - below) * unitNum
  let high := (4 * x.1 + 2) * unitNum
  let v := c * unitDen
  if x.1 % 2 = 0 then low ≤ v && v ≤ high else low < v && v < high

/-- The best number of `n` digits near `num / den`, as digits and power of ten, if it reads back. -/
def shortestWith (x : Magnitude) (n : Nat) : Option (Nat × Int) :=
  let num := numerator x
  let den := denominator x
  let p := leadingPower num den + 1 - n
  let scaledNum := num * Nat.pow 10 (-p).toNat
  let scaledDen := den * Nat.pow 10 p.toNat
  let c := scaledNum / scaledDen
  let closerUp := scaledDen < 2 * (scaledNum % scaledDen)
    ∨ (scaledDen = 2 * (scaledNum % scaledDen) ∧ c % 2 = 1)
  match roundsTo x c p, roundsTo x (c + 1) p with
  | true, true => some (if closerUp then c + 1 else c, p)
  | true, false => some (c, p)
  | false, true => some (c + 1, p)
  | false, false => none

/-- Takes the zeros off the end of a number, into the power of ten. -/
def stripZeros : Nat → Nat × Int → Nat × Int
  | 0, d => d
  | fuel + 1, (c, p) =>
    if c ≠ 0 ∧ c % 10 = 0 then stripZeros fuel (c / 10, p + 1) else (c, p)

/-- The shortest decimal that reads back as the magnitude. -/
def shortest (x : Magnitude) : Nat × Int :=
  stripZeros 18
    (((List.range 17).findSome? fun n => shortestWith x (n + 1)).getD (x.1, 0))

/-- Lays out `c * 10 ^ p`: positionally with the point up to sixteen places behind the first digit
or four zeros in front of it, with a signed power of ten otherwise. -/
def layout (c : Nat) (p : Int) : List Char :=
  let digits := Text.decimal c
  let point : Int := digits.length + p
  if 0 ≤ p ∧ point ≤ 16 then digits ++ List.replicate p.toNat '0' ++ ['.', '0']
  else if 0 < point ∧ point ≤ 16 then
    digits.take point.toNat ++ '.' :: digits.drop point.toNat
  else if -5 < point ∧ point ≤ 0 then
    ['0', '.'] ++ List.replicate (-point).toNat '0' ++ digits
  else
    let power := point - 1
    let sign := if power < 0 then '-' else '+'
    let fraction := if digits.length = 1 then [] else '.' :: digits.drop 1
    digits.take 1 ++ fraction ++ 'e' :: sign :: Text.decimal power.natAbs

/-- The shortest text that reads back as the double. -/
def chars (x : Binary64) : List Char :=
  let sign := if x.negative then ['-'] else []
  if x.mantissa = 0 then sign ++ ['0', '.', '0']
  else
    let (c, p) := shortest (x.mantissa, x.exponent)
    sign ++ layout c p

end Binary64
end ScanService
