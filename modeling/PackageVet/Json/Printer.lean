import PackageVet.Json.Value
import PackageVet.Text.Cut
import PackageVet.Text.Double

/-! Writing JSON, over several lines with two spaces for each level. -/
namespace PackageVet.Json

/-- A character inside a string. Quotation marks, backslashes and controls are escaped. -/
def escape (c : Char) : String :=
  if c = '"' then "\\\""
  else if c = '\\' then "\\\\"
  else if c = '\n' then "\\n"
  else if c = '\r' then "\\r"
  else if c = '\t' then "\\t"
  else if c.toNat = 8 then "\\b"
  else if c.toNat = 12 then "\\f"
  else if c.toNat < 32 then
    let digits := Nat.toDigits 16 c.toNat
    "\\u" ++ String.ofList (List.replicate (4 - digits.length) '0' ++ digits)
  else String.singleton c

def quote (s : String) : String := "\"" ++ String.join (s.toList.map escape) ++ "\""

/-- The digits up to the last that fits a machine word, with the power of ten to be taken. -/
def leading (digits : Nat) (scale : Int) : Nat → Nat × Int
  | 0 => (digits, scale)
  | steps + 1 =>
    if digits ≤ Text.wordMax then (digits, scale) else leading (digits / 10) (scale + 1) steps

/-- A number that is whole and fits a machine word keeps its digits; any other is written as the
floating-point number that it is read as. -/
def numeral (n : Numeral) : String :=
  let fits : Bool :=
    if n.negative then 0 < n.digits && n.digits ≤ 9223372036854775808 else n.digits ≤ Text.wordMax
  let text :=
    if n.isInteger && fits then toString n.digits
    else
      let (digits, scale) := leading n.digits n.scale (Nat.toDigits 10 n.digits).length
      (Text.Double.ofDecimal digits scale).render
  if n.negative then "-" ++ text else text

def newline (level : Nat) : String := "\n" ++ Text.spaces (2 * level)

/-- Items on lines of their own, between brackets. -/
def bracketed (opening closing : String) (level : Nat) (items : List String) : String :=
  if items.isEmpty then opening ++ closing
  else
    opening ++ newline (level + 1) ++ ("," ++ newline (level + 1)).intercalate items ++
      newline level ++ closing

mutual

def pretty : Nat → JsonValue → String
  | _, .null => "null"
  | _, .bool value => if value then "true" else "false"
  | _, .number n => numeral n
  | _, .string text => quote (text.getD "")
  | level, .array items => bracketed "[" "]" level (prettyItems (level + 1) items)
  | level, .object members => bracketed "\x7b" "\x7d" level (prettyMembers (level + 1) members)

def prettyItems : Nat → List JsonValue → List String
  | _, [] => []
  | level, item :: rest => pretty level item :: prettyItems level rest

def prettyMembers : Nat → List (Option String × JsonValue) → List String
  | _, [] => []
  | level, (name, value) :: rest =>
    (quote (name.getD "") ++ ": " ++ pretty level value) :: prettyMembers level rest

end

end Json

/-- The value over several lines. -/
def JsonValue.render (value : JsonValue) : String := Json.pretty 0 value

end PackageVet
