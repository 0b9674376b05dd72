/-! Floating-point numbers of 64 bits and their shortest decimals.

A positive number is a whole number times a power of two. `ofRatio` takes the nearest one, and
`shortest` the fewest decimal digits that read back as the number; of two such decimals it takes
the nearer. Both round by `roundDiv`. -/
namespace PackageVet.Text

/-- The number `mantissa * 2 ^ exponent`. -/
structure Double where
  mantissa : Nat
  exponent : Int
  deriving DecidableEq, Repr, Inhabited

/-- Some digits and the power of ten to be taken of them. -/
structure ShortDecimal where
  digits : Nat
  scale : Int
  deriving DecidableEq, Repr, Inhabited

/-- A quotient rounded to a whole number; a half goes to the even neighbour. -/
def roundDiv (n d : Nat) : Nat :=
  let q := n / d
  let r := 2 * (n % d)
  if r < d ∨ (r = d ∧ q % 2 = 0) then q else q + 1

/-- The fraction `n / d` times a power, as a fraction. -/
def scaleBy (base : Nat) (power : Int) (n d : Nat) : Nat × Nat :=
  if 0 ≤ power then (n * Nat.pow base power.toNat, d) else (n, d * Nat.pow base (-power).toNat)

namespace Double

/-- The least mantissa of numbers that have all their bits, two to the power of 52. -/
def leastMantissa : Nat := 4503599627370496

/-- The number nearest to a positive fraction. -/
def ofRatio (n d : Nat) : Double :=
  if n = 0 then ⟨0, -1074⟩
  else
    let exponent : Int := (Nat.log2 n : Int) - Nat.log2 d - 52
    let below (e : Int) : Nat := let (n, d) := scaleBy 2 (-e) n d; n / d
    let exponent := if below exponent < leastMantissa then exponent - 1 else exponent
    let exponent := max exponent (-1074)
    let (n, d) := scaleBy 2 (-exponent) n d
    let mantissa := roundDiv n d
    if mantissa = 2 * leastMantissa then ⟨leastMantissa, exponent + 1⟩ else ⟨mantissa, exponent⟩

/-- The number as a fraction. -/
def ratio (x : Double) : Nat × Nat := scaleBy 2 x.exponent x.mantissa 1

def mul (x y : Double) : Double :=
  let (a, b) := x.ratio
  let (c, d) := y.ratio
  ofRatio (a * c) (b * d)

def div (x y : Double) : Double :=
  let (a, b) := x.ratio
  let (c, d) := y.ratio
  ofRatio (a * d) (b * c)

def ofNat (n : Nat) : Double := ofRatio n 1

/-- Divides by a power of ten, of which each step takes at most 308. -/
def divTen (x : Double) (power : Nat) : Nat → Double
  | 0 => x.div (ofNat (Nat.pow 10 power))
  | steps + 1 =>
    if power ≤ 308 then x.div (ofNat (Nat.pow 10 power))
    else divTen (x.div (ofNat (Nat.pow 10 308))) (power - 308) steps

/-- Digits times a power of ten, each rounded before they are put together. -/
def ofDecimal (digits : Nat) (scale : Int) : Double :=
  let x := ofNat digits
  if digits = 0 then x
  else if 0 ≤ scale then x.mul (ofNat (Nat.pow 10 scale.toNat))
  else divTen x (-scale).toNat 4

/-- Whether a decimal reads back as the number: it lies between the midpoints to the neighbours,
or on one when the mantissa is even. -/
def isReadFrom (x : Double) (decimal : ShortDecimal) : Bool :=
  let (n, d) := scaleBy 10 decimal.scale decimal.digits 1
  let quarter (m : Nat) : Nat × Nat := scaleBy 2 (x.exponent - 2) m 1
  let below := if x.mantissa = leastMantissa ∧ -1074 < x.exponent then 1 else 2
  let (lowN, lowD) := quarter (4 * x.mantissa - below)
  let (highN, highD) := quarter (4 * x.mantissa + 2)
  if x.mantissa % 2 = 0 then lowN * d ≤ n * lowD && n * highD ≤ highN * d
  else lowN * d < n * lowD && n * highD < highN * d

/-- The decimal with so many places before its last digit that is nearest to the number and reads
back as it; a half goes to the even digit. -/
def decimalAt? (x : Double) (scale : Int) : Option ShortDecimal :=
  let (n, d) := x.ratio
  let (n, d) := scaleBy 10 (-scale) n d
  let near := roundDiv n d
  let other := if near * d ≤ n then near + 1 else near - 1
  [near, other].findSome? fun digits =>
    let decimal : ShortDecimal := ⟨digits, scale⟩
    if 0 < digits && x.isReadFrom decimal then some decimal else none

/-- The decimal with the fewest digits that reads back as the number, tried from the coarsest of
some powers of ten. -/
def firstDecimal (x : Double) (coarsest : Int) : Nat → ShortDecimal
  | 0 => ⟨0, 0⟩
  | places + 1 =>
    match x.decimalAt? coarsest with
    | some decimal => decimal
    | none => firstDecimal x (coarsest - 1) places

/-- Takes the zeros off the end. -/
def trimZeros (decimal : ShortDecimal) : Nat → ShortDecimal
  | 0 => decimal
  | steps + 1 =>
    if decimal.digits ≠ 0 ∧ decimal.digits % 10 = 0 then
      trimZeros ⟨decimal.digits / 10, decimal.scale + 1⟩ steps
    else decimal

def shortest (x : Double) : ShortDecimal :=
  let (n, d) := x.ratio
  let size : Int := ((Nat.toDigits 10 (n / d)).length : Int)
  let leading : Int :=
    if 0 < n / d then size else 1 - (Nat.toDigits 10 (d / (max n 1))).length
  trimZeros (x.firstDecimal (leading + 1) 24) 24

/-- The text of a number: positional up to sixteen digits before the point and four zeros after
it, and with an exponent otherwise. -/
def render (x : Double) : String :=
  if x.mantissa = 0 then "0.0"
  else
    let decimal := x.shortest
    let digits := Nat.toDigits 10 decimal.digits
    let point : Int := digits.length + decimal.scale
    let zeros (n : Int) : List Char := List.replicate n.toNat '0'
    String.ofList <|
      if 0 ≤ decimal.scale ∧ point ≤ 16 then digits ++ zeros decimal.scale ++ ['.', '0']
      else if 0 < point ∧ point ≤ 16 then
        digits.take point.toNat ++ '.' :: digits.drop point.toNat
      else if -5 < point ∧ point ≤ 0 then ['0', '.'] ++ zeros (-point) ++ digits
      else
        let fraction := if digits.length = 1 then [] else '.' :: digits.drop 1
        digits.take 1 ++ fraction ++ 'e' :: (toString (point - 1)).toList

end Double

end PackageVet.Text
