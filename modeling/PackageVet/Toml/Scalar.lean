import PackageVet.Json.Value
import PackageVet.Text.Cut
import PackageVet.Text.Decimal
import PackageVet.Toml.Value

/-! The parts of TOML that hold no other values: blanks, comments, keys, strings, numbers, dates.

A reader takes something off the start of a text and gives it with what follows, or fails. -/
namespace PackageVet.Toml

/-! ### Blanks and lines -/

def isSpace (c : Char) : Bool := c = ' ' || c = '\t'

def skipSpaces (cs : List Char) : List Char := cs.dropWhile isSpace

/-- Whether a character may stand in a comment or a string on one line. -/
def isPlain (c : Char) : Bool := c = '\t' || (32 ≤ c.toNat && c.toNat ≠ 127)

/-- What follows a line break. -/
def afterBreak? : List Char → Option (List Char)
  | '\n' :: rest => some rest
  | '\r' :: '\n' :: rest => some rest
  | _ => none

/-- What follows a comment, if there is one. -/
def skipComment : List Char → List Char
  | '#' :: rest => rest.dropWhile isPlain
  | cs => cs

/-- What follows the rest of a line that holds nothing more than a comment. -/
def afterLine? (cs : List Char) : Option (List Char) :=
  match skipComment (skipSpaces cs) with
  | [] => some []
  | rest => afterBreak? rest

/-- What follows blanks, comments and line breaks. The fuel is a list at least as long as the
text. -/
def skipBlank : List Char → List Char → List Char
  | _ :: fuel, cs =>
    let rest := skipComment (skipSpaces cs)
    match afterBreak? rest with
    | some rest => skipBlank fuel rest
    | none => if (skipSpaces cs).head? = some '#' then skipSpaces cs else rest
  | [], cs => cs

/-! ### Strings -/

def hexValue (cs : List Char) : Option Nat :=
  cs.foldlM (fun n c =>
    if '0' ≤ c ∧ c ≤ '9' then some (n * 16 + (c.toNat - 48))
    else if 'a' ≤ c ∧ c ≤ 'f' then some (n * 16 + (c.toNat - 87))
    else if 'A' ≤ c ∧ c ≤ 'F' then some (n * 16 + (c.toNat - 55))
    else none) 0

/-- The character of a number of so many hexadecimal digits. -/
def unicode? (width : Nat) (cs : List Char) : Option (Char × List Char) := do
  let digits := cs.take width
  if digits.length = width then
    let n ← hexValue digits
    if n < 0xd800 ∨ (0xdfff < n ∧ n ≤ 0x10ffff) then some (Char.ofNat n, cs.drop width) else none
  else none

/-- The character after a backslash. -/
def escape? : List Char → Option (Char × List Char)
  | 'b' :: rest => some (Char.ofNat 8, rest)
  | 't' :: rest => some ('\t', rest)
  | 'n' :: rest => some ('\n', rest)
  | 'f' :: rest => some (Char.ofNat 12, rest)
  | 'r' :: rest => some ('\r', rest)
  | '"' :: rest => some ('"', rest)
  | '\\' :: rest => some ('\\', rest)
  | 'u' :: rest => unicode? 4 rest
  | 'U' :: rest => unicode? 8 rest
  | _ => none

/-- A string on one line, from after its opening quote on; only a basic one has escapes. The fuel
is a list at least as long as the text, and `taken` holds the text so far, last character first. -/
def lineString (quote : Char) : List Char → List Char → List Char → Option (String × List Char)
  | [], _, _ => none
  | _ :: fuel, cs, taken =>
    match cs with
    | [] => none
    | c :: rest =>
      if c = quote then some (String.ofList taken.reverse, rest)
      else if c = '\\' ∧ quote = '"' then
        (escape? rest).bind fun (c, rest) => lineString quote fuel rest (c :: taken)
      else if isPlain c then lineString quote fuel rest (c :: taken)
      else none

/-- What follows blanks and line breaks. The fuel is a list at least as long as the text. -/
def skipBreaks : List Char → List Char → List Char
  | _ :: fuel, cs =>
    match afterBreak? (skipSpaces cs) with
    | some rest => skipBreaks fuel rest
    | none => skipSpaces cs
  | [], cs => cs

/-- What follows a backslash at the end of a line: all blanks and breaks up to the next text. -/
def afterContinuation? (cs : List Char) : Option (List Char) :=
  (afterBreak? (skipSpaces cs)).map fun rest => skipBreaks rest rest

/-- A string over several lines, from after its opening quotes on. Up to two quotes may stand
before the closing ones. -/
def blockString (quote : Char) : List Char → List Char → List Char → Option (String × List Char)
  | [], _, _ => none
  | _ :: fuel, cs, taken =>
    match cs with
    | [] => none
    | c :: rest =>
      if c = quote then
        let quotes := (cs.takeWhile (· = quote)).length
        if quotes < 3 then blockString quote fuel rest (c :: taken)
        else if quotes ≤ 5 then
          some (String.ofList (taken.reverse ++ List.replicate (quotes - 3) quote), cs.drop quotes)
        else none
      else if c = '\\' ∧ quote = '"' then
        match escape? rest with
        | some (c, rest) => blockString quote fuel rest (c :: taken)
        | none => (afterContinuation? rest).bind fun rest => blockString quote fuel rest taken
      else match afterBreak? cs with
        | some rest => blockString quote fuel rest ('\n' :: taken)
        | none => if isPlain c then blockString quote fuel rest (c :: taken) else none

/-- A break right after the opening quotes is no part of the text. -/
def afterOpening (cs : List Char) : List Char := (afterBreak? cs).getD cs

/-- A string of any form, from its opening quote on. -/
def string? (cs : List Char) : Option (String × List Char) :=
  match cs with
  | '"' :: '"' :: '"' :: rest => blockString '"' cs (afterOpening rest) []
  | '\'' :: '\'' :: '\'' :: rest => blockString '\'' cs (afterOpening rest) []
  | '"' :: rest => lineString '"' cs rest []
  | '\'' :: rest => lineString '\'' cs rest []
  | _ => none

/-! ### Keys -/

def isBare (c : Char) : Bool := c.isAlphanum || c = '_' || c = '-'

def simpleKey? (cs : List Char) : Option (String × List Char) :=
  match cs with
  | '"' :: rest => lineString '"' cs rest []
  | '\'' :: rest => lineString '\'' cs rest []
  | cs =>
    let taken := cs.takeWhile isBare
    if taken.isEmpty then none else some (String.ofList taken, cs.dropWhile isBare)

/-- How deep keys and values may be nested. -/
def maxDepth : Nat := 79

/-- A key with its parts, blanks around each of them allowed. The fuel is a list at least as long
as the text. -/
def keyFrom : List Char → List Char → List String → Option (List String × List Char)
  | [], _, _ => none
  | _ :: fuel, cs, taken =>
    (simpleKey? (skipSpaces cs)).bind fun (part, rest) =>
      match skipSpaces rest with
      | '.' :: rest => keyFrom fuel rest (part :: taken)
      | rest =>
        let parts := (part :: taken).reverse
        if parts.length ≤ maxDepth then some (parts, rest) else none

def key? (cs : List Char) : Option (List String × List Char) := keyFrom cs cs []

/-! ### Numbers -/

/-- Digits with single underscores between them, the underscores left out, and what follows. The
fuel is a list at least as long as the text. -/
def digitsFrom (isDigit : Char → Bool) : List Char → List Char → Option (List Char × List Char)
  | [], _ => none
  | _ :: fuel, cs =>
    match cs with
    | c :: rest =>
      if isDigit c then
        match rest with
        | '_' :: after => (digitsFrom isDigit fuel after).map fun (ds, rest) => (c :: ds, rest)
        | d :: _ =>
          if isDigit d then (digitsFrom isDigit fuel rest).map fun (ds, rest) => (c :: ds, rest)
          else some ([c], rest)
        | [] => some ([c], [])
      else none
    | [] => none

def digits? (isDigit : Char → Bool) (cs : List Char) : Option (List Char × List Char) :=
  digitsFrom isDigit cs cs

def decimalValue (digits : List Char) : Nat :=
  digits.foldl (fun n c => n * 10 + (c.toNat - 48)) 0

/-- A sign and a whole number without needless zeros before it. -/
def whole? (cs : List Char) : Option (Bool × List Char × List Char) :=
  let (negative, rest) := match cs with
    | '-' :: rest => (true, rest)
    | '+' :: rest => (false, rest)
    | rest => (false, rest)
  match rest with
  | '0' :: after => some (negative, ['0'], after)
  | rest => (digits? Char.isDigit rest).map fun (ds, rest) => (negative, ds, rest)

def inRange (n : Int) : Bool := Text.signedMin ≤ n && n ≤ Text.signedMax

/-- A number with a base. -/
def based? (base : Nat) (isDigit : Char → Bool) (cs : List Char) :
    Option (TomlValue × List Char) := do
  let (digits, rest) ← digits? isDigit cs
  let n ← digits.foldlM (fun n c => (hexValue [c]).map (n * base + ·)) 0
  if inRange n then some (.integer n, rest) else none

def isHex (c : Char) : Bool := (hexValue [c]).isSome

/-- The exponent of a float, if there is one. -/
def exponent? (cs : List Char) : Option (Int × List Char) :=
  let signed (sign : Int) (rest : List Char) : Option (Int × List Char) :=
    (digits? Char.isDigit rest).map fun (ds, rest) => (sign * decimalValue ds, rest)
  match cs with
  | 'e' :: '-' :: rest | 'E' :: '-' :: rest => signed (-1) rest
  | 'e' :: '+' :: rest | 'E' :: '+' :: rest => signed 1 rest
  | 'e' :: rest | 'E' :: rest => signed 1 rest
  | rest => some (0, rest)

/-- A float whose whole part was read; one too great to be finite is refused. -/
def float? (negative : Bool) (whole cs : List Char) : Option (TomlValue × List Char) := do
  let (fraction, rest) ← match cs with
    | '.' :: rest => digits? Char.isDigit rest
    | rest => some ([], rest)
  let (exponent, rest) ← exponent? rest
  let n : Numeral :=
    { negative, digits := decimalValue (whole ++ fraction)
      scale := exponent - fraction.length, isInteger := false }
  if n.isFinite || negative then some (.float, rest) else none

/-- A whole number or a float. -/
def number? (cs : List Char) : Option (TomlValue × List Char) :=
  let special (rest : List Char) : Option (TomlValue × List Char) :=
    match rest with
    | 'i' :: 'n' :: 'f' :: rest => some (.float, rest)
    | 'n' :: 'a' :: 'n' :: rest => some (.float, rest)
    | _ => none
  match cs with
  | '0' :: 'x' :: rest => based? 16 isHex rest
  | '0' :: 'o' :: rest => based? 8 (fun c => '0' ≤ c && c ≤ '7') rest
  | '0' :: 'b' :: rest => based? 2 (fun c => c = '0' || c = '1') rest
  | _ =>
    match whole? cs with
    | some (negative, digits, rest) =>
      match rest with
      | '.' :: _ | 'e' :: _ | 'E' :: _ => float? negative digits rest
      | _ =>
        let n : Int := if negative then -(decimalValue digits : Int) else decimalValue digits
        if inRange n then some (.integer n, rest) else none
    | none =>
      match cs with
      | '+' :: rest | '-' :: rest => special rest
      | rest => special rest

/-! ### Dates and times -/

/-- A number of so many digits, from `least` to `most`. -/
def field? (width least most : Nat) (cs : List Char) : Option (Nat × List Char) :=
  let digits := cs.take width
  if digits.length = width ∧ digits.all Char.isDigit then
    let n := decimalValue digits
    if least ≤ n ∧ n ≤ most then some (n, cs.drop width) else none
  else none

def mark? (c : Char) : List Char → Option (List Char)
  | d :: rest => if c = d then some rest else none
  | [] => none

def daysIn (year month : Nat) : Nat :=
  if month = 2 then if (year % 4 = 0 ∧ year % 100 ≠ 0) ∨ year % 400 = 0 then 29 else 28
  else if [4, 6, 9, 11].contains month then 30
  else 31

/-- What follows a date. -/
def afterDate? (cs : List Char) : Option (List Char) := do
  let (year, cs) ← field? 4 0 9999 cs
  let (month, cs) ← field? 2 1 12 (← mark? '-' cs)
  let (_, cs) ← field? 2 1 (daysIn year month) (← mark? '-' cs)
  return cs

/-- What follows a time of day. -/
def afterTime? (cs : List Char) : Option (List Char) := do
  let (_, cs) ← field? 2 0 23 cs
  let (_, cs) ← field? 2 0 59 (← mark? ':' cs)
  let (_, cs) ← field? 2 0 60 (← mark? ':' cs)
  match cs with
  | '.' :: rest =>
    let fraction := rest.takeWhile Char.isDigit
    if fraction.isEmpty then some cs else some (rest.dropWhile Char.isDigit)
  | _ => some cs

/-- What follows an offset from universal time; the text itself where there is none. -/
def afterOffset (cs : List Char) : List Char :=
  match cs with
  | 'Z' :: rest | 'z' :: rest => rest
  | '+' :: rest | '-' :: rest =>
    let after := do
      let (_, cs) ← field? 2 0 23 rest
      let (_, cs) ← field? 2 0 59 (← mark? ':' cs)
      return cs
    after.getD cs
  | _ => cs

/-- A date, a time, or both. -/
def datetime? (cs : List Char) : Option (TomlValue × List Char) :=
  match afterDate? cs with
  | some rest =>
    match rest with
    | c :: time =>
      match if c = 'T' ∨ c = 't' ∨ c = ' ' then afterTime? time else none with
      | some rest => some (.datetime, afterOffset rest)
      | none => some (.datetime, rest)
    | [] => some (.datetime, [])
  | none => (afterTime? cs).map fun rest => (.datetime, rest)

/-- A value that holds no other. -/
def scalar? (cs : List Char) : Option (TomlValue × List Char) :=
  match cs with
  | '"' :: _ | '\'' :: _ => (string? cs).map fun (s, rest) => (.string s, rest)
  | 't' :: _ => (Text.afterStart? cs "true".toList).map fun rest => (.boolean true, rest)
  | 'f' :: _ => (Text.afterStart? cs "false".toList).map fun rest => (.boolean false, rest)
  | _ => (datetime? cs).orElse fun _ => number? cs

end PackageVet.Toml
