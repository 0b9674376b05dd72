import PackageVet.Text.Decimal

/-! JSON values.

Objects keep their members in the order of the text, repeated names included. A string that holds
half of a surrogate pair is no text: such strings, and members named by one, may be read over but
never used. -/
namespace PackageVet

/-- A number as it is written: its digits without the point, and the power of ten to be taken of
them. -/
structure Numeral where
  negative : Bool
  digits : Nat
  scale : Int
  /-- Whether it has neither a fraction nor an exponent. -/
  isInteger : Bool
  deriving DecidableEq, Repr

namespace Numeral

def ofNat (n : Nat) : Numeral := { negative := false, digits := n, scale := 0, isInteger := true }

/-- The number, where it is a natural one up to `most`. -/
def natural? (n : Numeral) (most : Nat) : Option Nat :=
  if n.isInteger ∧ n.negative = false ∧ n.digits ≤ most then some n.digits else none

/-- Whether the number rounds to a finite floating-point number of 64 bits. -/
def isFinite (n : Numeral) : Bool :=
  if n.digits = 0 then true
  else
    let places : Int := (Nat.toDigits 10 n.digits).length + n.scale
    if places < 309 then true
    else if 309 < places then false
    else
      let limit := Nat.pow 2 1024 - Nat.pow 2 970
      if 0 ≤ n.scale then n.digits * Nat.pow 10 n.scale.toNat < limit
      else n.digits < limit * Nat.pow 10 (-n.scale).toNat

end Numeral

inductive JsonValue where
  | null
  | bool (value : Bool)
  | number (value : Numeral)
  | string (text : Option String)
  | array (items : List JsonValue)
  | object (members : List (Option String × JsonValue))
  deriving Repr, Inhabited

namespace JsonValue

def text (s : String) : JsonValue := .string (some s)

def nat (n : Nat) : JsonValue := .number (.ofNat n)

def record (members : List (String × JsonValue)) : JsonValue :=
  .object (members.map fun (name, value) => (some name, value))

mutual

/-- Whether a value can be kept: all its strings are texts, its numbers are finite, and it is
nested at most `depth` deep. -/
def isUsable : JsonValue → Nat → Bool
  | .null, _ | .bool _, _ => true
  | .number n, _ => n.isFinite
  | .string text, _ => text.isSome
  | .array items, depth =>
    match depth with
    | 0 => false
    | depth + 1 => areUsable items depth
  | .object members, depth =>
    match depth with
    | 0 => false
    | depth + 1 => membersUsable members depth

def areUsable : List JsonValue → Nat → Bool
  | [], _ => true
  | item :: rest, depth => item.isUsable depth && areUsable rest depth

def membersUsable : List (Option String × JsonValue) → Nat → Bool
  | [], _ => true
  | (name, value) :: rest, depth =>
    name.isSome && value.isUsable depth && membersUsable rest depth

end

end JsonValue

end PackageVet
