import Toolchain.Version

/-!
# Decimal numbers and their shortest text

A fraction in a record is kept only to be quoted in a message, and the message shows it as
the nearest 64-bit binary number, in the fewest decimal digits that read back as it.

All arithmetic is exact, on naturals:

  * `Binary.nearest?` — the binary number `m · 2^q` nearest to `d · 10^e`, a half going to
    the even neighbour. There is none where the value is too large.
  * `Binary.shortest` — of the decimal numbers with 1, 2, … 17 digits the first that lies in
    the interval of values that round to the number; of two the nearer.
  * `Numerals` — how the digits are laid out.
-/

namespace Toolchain

/-- `mantissa · 2 ^ exponent`. -/
structure Binary where
  mantissa : Nat
  exponent : Int
  deriving DecidableEq, Repr

/-- A fraction: a decimal number, or what a format has beside the numbers. -/
inductive Fraction
  /-- `digits · 10 ^ exponent`, with a sign that zero has too. -/
  | finite (negative : Bool) (digits : Nat) (exponent : Int)
  | infinite (negative : Bool)
  | notANumber
  deriving DecidableEq, Repr

namespace Binary

/-- A power of two or ten as a numerator and a denominator. -/
def scale (base : Nat) (e : Int) : Nat × Nat :=
  if 0 ≤ e then (base.pow e.toNat, 1) else (1, base.pow (-e).toNat)

/-- The quotient rounded to the nearest natural, a half going to the even one. -/
def roundHalfEven (num den : Nat) : Nat :=
  let q := num / den
  let twice := 2 * (num % den)
  if twice < den then q
  else if den < twice then q + 1
  else if q % 2 = 0 then q else q + 1

/-- The least exponent of a 64-bit number. -/
def leastExponent : Int := -1074

/-- The first number that the mantissa of a 64-bit number cannot hold. -/
def mantissaLimit : Nat := Nat.pow 2 53

/-- The least mantissa, unless the exponent is the least one. -/
def leastMantissa : Nat := Nat.pow 2 52

/-- The exponent at which `num / den` has a mantissa of 53 bits, or the least one. -/
def exponentFor (num den : Nat) : Int :=
  let guess : Int := (Nat.log2 num : Int) - (Nat.log2 den : Int) - 53
  let fits (q : Int) : Bool :=
    let (n, d) := scale 2 q
    decide (num < mantissaLimit * den * n / d +
      (if mantissaLimit * den * n % d = 0 then 0 else 1))
  let q := if fits guess then guess else if fits (guess + 1) then guess + 1 else guess + 2
  if q < leastExponent then leastExponent else q

/-- The nearest 64-bit number to `digits · 10 ^ exponent`, if it is not too large. -/
def nearest? (digits : Nat) (exponent : Int) : Option Binary :=
  let size : Int := (Text.decimal digits).length + exponent
  if digits = 0 ∨ size < -330 then some ⟨0, leastExponent⟩
  else if 310 < size then none
  else
    let (n, d) := scale 10 exponent
    let num := digits * n
    let q := exponentFor num d
    let (n₂, d₂) := scale 2 q
    let m := roundHalfEven (num * d₂) (d * n₂)
    let b : Binary := if m = mantissaLimit then ⟨leastMantissa, q + 1⟩ else ⟨m, q⟩
    if 971 < b.exponent then none else some b

/-- The place of the first decimal digit of `num / den`: the greatest `t` among the
neighbours of a guess with `10 ^ t ≤ num / den`. -/
def decimalPlace (num den : Nat) : Int :=
  let guess : Int := ((Text.decimal num).length : Int) - (Text.decimal den).length
  let reaches (t : Int) : Bool := let (n, d) := scale 10 t; decide (den * n ≤ num * d)
  if reaches guess then guess else guess - 1

/-- The shortest decimal digits that read back as a number that is not zero, and the power
of ten of the last digit. -/
def shortest (b : Binary) : Nat × Int :=
  let (n, d) := scale 2 (b.exponent - 2)
  let closed := b.mantissa % 2 = 0
  let narrow := b.mantissa = leastMantissa ∧ leastExponent < b.exponent
  let low := (if narrow then 4 * b.mantissa - 1 else 4 * b.mantissa - 2) * n
  let value := 4 * b.mantissa * n
  let high := (4 * b.mantissa + 2) * n
  let place := decimalPlace value d
  let inside (c : Nat) (g h : Nat) : Bool :=
    if closed then decide (low * h ≤ c * g * d) && decide (c * g * d ≤ high * h)
    else decide (low * h < c * g * d) && decide (c * g * d < high * h)
  let attempt (k : Nat) : Option (Nat × Int) :=
    let unit := place - k
    let (g, h) := scale 10 unit
    let below := value * h / (d * g)
    let rest := value * h % (d * g)
    let above := below + 1
    match inside below g h, inside above g h with
    | true, true => some (if 2 * rest ≤ d * g then (below, unit) else (above, unit))
    | true, false => some (below, unit)
    | false, true => some (above, unit)
    | false, false => none
  ((List.range 17).findSome? attempt).getD (value / d, 0)

end Binary

/-- How the digits of a fraction are laid out. -/
structure Numerals where
  /-- A value below `10 ^ pointLimit` is written without an exponent. -/
  pointLimit : Option Int
  /-- So is one that is at least `10 ^ smallLimit`. -/
  smallLimit : Option Int
  /-- The text of what is not a number. -/
  notANumber : String
  deriving DecidableEq, Repr

namespace Numerals

/-- Positional at any size. -/
def positional : Numerals := ⟨none, none, "NaN"⟩

/-- Positional from 1e-5 up to 1e16, with an exponent beyond. -/
def scientific : Numerals := ⟨some 16, some (-5), "NaN"⟩

/-- Digits with a point `k` places from the left, zeros where digits are missing and one
after the point at least. -/
def pointed (ds : List Char) (k : Int) : List Char :=
  if k ≤ 0 then ['0', '.'] ++ List.replicate (-k).toNat '0' ++ ds
  else
    let whole := k.toNat
    if ds.length ≤ whole then ds ++ List.replicate (whole - ds.length) '0' ++ ['.', '0']
    else ds.take whole ++ ['.'] ++ ds.drop whole

/-- Digits with an exponent, the point after the first digit. -/
def withExponent (ds : List Char) (k : Int) : List Char :=
  let rest := ds.drop 1
  ds.take 1 ++ (if rest = [] then [] else '.' :: rest) ++ ['e'] ++ (toString (k - 1)).toList

/-- The magnitude of a number that is not negative. -/
def magnitude (n : Numerals) (digits : Nat) (exponent : Int) : List Char :=
  match Binary.nearest? digits exponent with
  | none => "inf".toList
  | some b =>
    if b.mantissa = 0 then "0.0".toList
    else
      let (m, unit) := b.shortest
      let ds := Text.decimal m
      let trailing := (ds.reverse.takeWhile (· == '0')).length
      let kept := ds.take (ds.length - trailing)
      let k : Int := ds.length + unit
      let inRange := (match n.pointLimit with
          | some limit => decide (k ≤ limit)
          | none => true) && (match n.smallLimit with
          | some limit => decide (limit < k)
          | none => true)
      if inRange then pointed kept k else withExponent kept k

/-- A fraction as text. -/
def write (n : Numerals) : Fraction → String
  | .notANumber => n.notANumber
  | .infinite negative => if negative then "-inf" else "inf"
  | .finite negative digits exponent =>
    (if negative then "-" else "") ++ String.ofList (n.magnitude digits exponent)

example : scientific.write (.finite false 15 (-1)) = "1.5" := by decide +kernel
example : scientific.write (.finite true 20 (-1)) = "-2.0" := by decide +kernel
example : scientific.write (.finite false 1 23) = "1e23" := by decide +kernel
example : scientific.write (.finite false 1 (-7)) = "1e-7" := by decide +kernel
example : positional.write (.finite false 1 (-7)) = "0.0000001" := by decide +kernel
example : positional.write (.finite false 3 (-1)) = "0.3" := by decide +kernel
example : positional.write (.finite false 12345678901234567890 0) = "12345678901234567000.0" := by
  decide +kernel

end Numerals

end Toolchain
