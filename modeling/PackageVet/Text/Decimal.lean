/-! Whole numbers in decimal.

A number is read from digits alone, with one sign before them where the reader allows it; no
blank, no separator and no empty run of digits is a number. A reader is given the greatest value
that it accepts, and refuses every greater one. -/
namespace PackageVet.Text

/-- The value of one decimal digit. -/
def digit? (c : Char) : Option Nat :=
  if '0' ≤ c ∧ c ≤ '9' then some (c.toNat - 48) else none

/-- The value of a run of digits read after a number; none as soon as something else stands
there. -/
def digitsFrom (value : Nat) : List Char → Option Nat
  | [] => some value
  | c :: rest => (digit? c).bind fun d => digitsFrom (10 * value + d) rest

/-- The value of a run of at least one digit. -/
def digits? : List Char → Option Nat
  | [] => none
  | cs => digitsFrom 0 cs

/-- A number up to `most`, with or without a plus sign. -/
def readUnsigned (most : Nat) (cs : List Char) : Option Nat :=
  (digits? (if cs.head? = some '+' then cs.tail else cs)).filter (· ≤ most)

/-- A number from `least` to `most`, with or without a sign. -/
def readSigned (least most : Int) (cs : List Char) : Option Int :=
  let value : Option Int :=
    if cs.head? = some '-' then (digits? cs.tail).map fun n => -(n : Int)
    else (digits? (if cs.head? = some '+' then cs.tail else cs)).map Int.ofNat
  value.filter fun n => least ≤ n && n ≤ most

/-- The greatest number of a machine word of 64 bits. -/
def wordMax : Nat := 18446744073709551615

/-- The greatest and the least signed number of 64 bits. -/
def signedMax : Int := 9223372036854775807

def signedMin : Int := -9223372036854775808

/-- The lower-case hexadecimal digits of a number, without leading zeros. -/
def hexadecimal (n : Nat) : String := String.ofList (Nat.toDigits 16 n)

end PackageVet.Text
