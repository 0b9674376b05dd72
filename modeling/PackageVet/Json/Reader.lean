import PackageVet.Json.Value
import PackageVet.Text.Cut

/-! Reading JSON.

The text is cut into tokens, and a machine with a stack of open arrays and objects takes one token
at a time, so that nesting costs no recursion. -/
namespace PackageVet.Json

inductive Token where
  | openBrace
  | closeBrace
  | openBracket
  | closeBracket
  | colon
  | comma
  | scalar (value : JsonValue)
  deriving Repr

/-! ### Strings -/

def hexDigit? (c : Char) : Option Nat :=
  if '0' ≤ c ∧ c ≤ '9' then some (c.toNat - 48)
  else if 'a' ≤ c ∧ c ≤ 'f' then some (c.toNat - 87)
  else if 'A' ≤ c ∧ c ≤ 'F' then some (c.toNat - 55)
  else none

/-- A unit of sixteen bits from four digits, and what follows them. -/
def unit? : List Char → Option (Nat × List Char)
  | a :: b :: c :: d :: rest => do
    let a ← hexDigit? a
    let b ← hexDigit? b
    let c ← hexDigit? c
    let d ← hexDigit? d
    return (((a * 16 + b) * 16 + c) * 16 + d, rest)
  | _ => none

def isHigh (n : Nat) : Bool := 0xd800 ≤ n && n ≤ 0xdbff

def isLow (n : Nat) : Bool := 0xdc00 ≤ n && n ≤ 0xdfff

/-- The character after `\u`, or nothing for half a pair, and what follows. -/
def unicodeEscape? (cs : List Char) : Option (Option Char × List Char) := do
  let (first, rest) ← unit? cs
  if isHigh first then
    match rest with
    | '\\' :: 'u' :: after =>
      let (second, after) ← unit? after
      if isLow second then
        return (some (Char.ofNat ((first - 0xd800) * 0x400 + (second - 0xdc00) + 0x10000)), after)
      else return (none, rest)
    | _ => return (none, rest)
  else if isLow first then return (none, rest)
  else return (some (Char.ofNat first), rest)

def plainEscape? (c : Char) : Option Char :=
  match c with
  | '"' | '\\' | '/' => some c
  | 'b' => some (Char.ofNat 8)
  | 'f' => some (Char.ofNat 12)
  | 'n' => some '\n'
  | 'r' => some '\r'
  | 't' => some '\t'
  | _ => none

/-- A string from after its opening quote on: its text, if it is one, and what follows. The fuel is
a list at least as long as the text. -/
def readString : List Char → List Char → Option (List Char) → Option (Option String × List Char)
  | [], _, _ => none
  | _ :: fuel, cs, taken =>
    match cs with
    | [] => none
    | '"' :: rest => some (taken.map fun t => String.ofList t.reverse, rest)
    | '\\' :: 'u' :: rest =>
      match unicodeEscape? rest with
      | some (c, rest) => readString fuel rest (taken.bind fun t => c.map (· :: t))
      | none => none
    | '\\' :: c :: rest =>
      match plainEscape? c with
      | some c => readString fuel rest (taken.map (c :: ·))
      | none => none
    | c :: rest =>
      if c.toNat < 32 ∨ c = '\\' then none else readString fuel rest (taken.map (c :: ·))

/-! ### Numbers -/

def isDigit (c : Char) : Bool := '0' ≤ c && c ≤ '9'

def digitsValue (value : Nat) (digits : List Char) : Nat :=
  digits.foldl (fun n c => n * 10 + (c.toNat - 48)) value

/-- The exponent of a number, and what follows it. -/
def readExponent (cs : List Char) : Option (Int × List Char) :=
  let digits (sign : Int) (rest : List Char) : Option (Int × List Char) :=
    let taken := rest.takeWhile isDigit
    if taken.isEmpty then none else some (sign * digitsValue 0 taken, rest.dropWhile isDigit)
  match cs with
  | '+' :: rest => digits 1 rest
  | '-' :: rest => digits (-1) rest
  | rest => digits 1 rest

/-- A number from its first digit on. A nought is followed by no digit. -/
def readNumber (negative : Bool) (cs : List Char) : Option (Numeral × List Char) :=
  let whole := cs.takeWhile isDigit
  let rest := cs.dropWhile isDigit
  if whole.isEmpty || (whole.head? = some '0' && whole.length ≠ 1) then none
  else
    let fraction? : Option (List Char × List Char) := match rest with
      | '.' :: after =>
        let taken := after.takeWhile isDigit
        if taken.isEmpty then none else some (taken, after.dropWhile isDigit)
      | rest => some ([], rest)
    match fraction? with
    | none => none
    | some (fraction, rest) =>
      let digits := digitsValue (digitsValue 0 whole) fraction
      let places : Int := -(fraction.length : Int)
      match rest with
      | 'e' :: after | 'E' :: after =>
        (readExponent after).map fun (exponent, rest) =>
          ({ negative, digits, scale := places + exponent, isInteger := false }, rest)
      | rest => some ({ negative, digits, scale := places, isInteger := fraction.isEmpty }, rest)

/-! ### Tokens -/

def isSpace (c : Char) : Bool := c = ' ' || c = '\t' || c = '\n' || c = '\r'

/-- The token at the start of a text that starts with no blank, and what follows it. -/
def readToken (cs : List Char) : Option (Token × List Char) :=
  let word (spelling : String) (value : JsonValue) : Option (Token × List Char) :=
    (Text.afterStart? cs spelling.toList).map fun rest => (.scalar value, rest)
  let number (negative : Bool) (rest : List Char) : Option (Token × List Char) :=
    (readNumber negative rest).map fun (n, rest) => (.scalar (.number n), rest)
  match cs with
  | '{' :: rest => some (.openBrace, rest)
  | '}' :: rest => some (.closeBrace, rest)
  | '[' :: rest => some (.openBracket, rest)
  | ']' :: rest => some (.closeBracket, rest)
  | ':' :: rest => some (.colon, rest)
  | ',' :: rest => some (.comma, rest)
  | '"' :: rest => (readString cs rest (some [])).map fun (s, rest) => (.scalar (.string s), rest)
  | 'n' :: _ => word "null" .null
  | 't' :: _ => word "true" (.bool true)
  | 'f' :: _ => word "false" (.bool false)
  | '-' :: rest => number true rest
  | c :: _ => if isDigit c then number false cs else none
  | [] => none

/-- The tokens of a text; the fuel is a list longer than the text. -/
def tokensFrom : List Char → List Char → List Token → Option (List Token)
  | [], _, _ => none
  | _ :: fuel, cs, taken =>
    match cs with
    | [] => some taken.reverse
    | c :: rest =>
      if isSpace c then tokensFrom fuel rest taken
      else match readToken cs with
        | some (token, rest) => tokensFrom fuel rest (token :: taken)
        | none => none

def tokens (text : String) : Option (List Token) :=
  tokensFrom (' ' :: text.toList) text.toList []

/-! ### Values -/

/-- An array or an object that is still open, its contents with the last one first. An object
carries the name whose value is being read. -/
inductive Open where
  | array (items : List JsonValue)
  | object (members : List (Option String × JsonValue)) (name : Option String)

inductive Expecting where
  | value
  /-- The first item, or the end, of an array. -/
  | itemOrClose
  | nameOrClose
  | name
  | colon
  | commaOrClose
  | nothing (result : JsonValue)

structure Machine where
  opened : List Open := []
  expecting : Expecting := .value

namespace Machine

/-- Puts a complete value where it belongs. -/
def put (m : Machine) (value : JsonValue) : Machine :=
  match m.opened with
  | [] => { opened := [], expecting := .nothing value }
  | .array items :: rest =>
    { opened := .array (value :: items) :: rest, expecting := .commaOrClose }
  | .object members name :: rest =>
    { opened := .object ((name, value) :: members) none :: rest, expecting := .commaOrClose }

/-- A token where a value is expected. -/
def takeValue (m : Machine) : Token → Option Machine
  | .openBracket => some { opened := .array [] :: m.opened, expecting := .itemOrClose }
  | .openBrace => some { opened := .object [] none :: m.opened, expecting := .nameOrClose }
  | .scalar value => some (m.put value)
  | _ => none

def takeName (m : Machine) (name : Option String) : Option Machine :=
  match m.opened with
  | .object members _ :: rest =>
    some { opened := .object members name :: rest, expecting := .colon }
  | _ => none

/-- The end of what is open. -/
def close (m : Machine) (brace : Bool) : Option Machine :=
  match m.opened, brace with
  | .array items :: rest, false => some ({ m with opened := rest }.put (.array items.reverse))
  | .object members _ :: rest, true =>
    some ({ m with opened := rest }.put (.object members.reverse))
  | _, _ => none

def step (m : Machine) (token : Token) : Option Machine :=
  match m.expecting with
  | .value => m.takeValue token
  | .itemOrClose =>
    match token with
    | .closeBracket => m.close false
    | token => m.takeValue token
  | .nameOrClose =>
    match token with
    | .closeBrace => m.close true
    | .scalar (.string name) => m.takeName name
    | _ => none
  | .name =>
    match token with
    | .scalar (.string name) => m.takeName name
    | _ => none
  | .colon =>
    match token with
    | .colon => some { m with expecting := .value }
    | _ => none
  | .commaOrClose =>
    match token, m.opened with
    | .comma, .array _ :: _ => some { m with expecting := .value }
    | .comma, .object _ _ :: _ => some { m with expecting := .name }
    | .closeBracket, _ => m.close false
    | .closeBrace, _ => m.close true
    | _, _ => none
  | .nothing _ => none

def run (m : Machine) : List Token → Option Machine
  | [] => some m
  | token :: rest => (m.step token).bind fun m => m.run rest

end Machine

end Json

/-- The value of a JSON text. -/
def JsonValue.parse? (text : String) : Option JsonValue := do
  let tokens ← Json.tokens text
  let m ← ({} : Json.Machine).run tokens
  match m.expecting with
  | .nothing result => some result
  | _ => none

end PackageVet
