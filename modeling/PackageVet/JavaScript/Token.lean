import PackageVet.Text.Blank
import PackageVet.Text.Identifier

/-! Tokens of JavaScript.

A token is read where the grammar asks for it. A slash is read as an operator and the text after a
backquote is not looked at: the grammar knows where a regular expression or a template stands, and
asks for the rest of it there.

Something that strict code forbids, but that can still be read, makes a token irregular.
Every reader also gives the number of bytes it took. -/
namespace PackageVet.JavaScript

inductive Lexeme where
  /-- A name or a keyword; `escaped` when it is written with an escape. -/
  | word (text : String) (escaped : Bool)
  | privateWord
  | sign (text : String)
  | string (value : String)
  | number
  /-- The end of the text. -/
  | ending
  | invalid
  deriving DecidableEq, Repr, Inhabited

structure Token where
  lexeme : Lexeme
  start : Nat
  stop : Nat
  /-- Whether a line ends between the token and the one before it. -/
  afterNewline : Bool
  deriving DecidableEq, Repr, Inhabited

/-! ### Characters -/

def isLineEnd (c : Char) : Bool :=
  c = '\n' || c = '\r' || c.toNat = 0x2028 || c.toNat = 0x2029

def isSpace (c : Char) : Bool := Text.isBlank c && c.toNat ≠ 0x85 || c.toNat = 0xfeff

def isNameStart (c : Char) : Bool := c = '$' || c = '_' || Text.isIdentifierStart c

/-- A name may also hold the two joiners. -/
def isNamePart (c : Char) : Bool :=
  c = '$' || c.toNat = 0x200c || c.toNat = 0x200d || Text.isIdentifierContinue c

def isDigit (c : Char) : Bool := '0' ≤ c && c ≤ '9'

def isOctal (c : Char) : Bool := '0' ≤ c && c ≤ '7'

def hexValue? (c : Char) : Option Nat :=
  if '0' ≤ c ∧ c ≤ '9' then some (c.toNat - 48)
  else if 'a' ≤ c ∧ c ≤ 'f' then some (c.toNat - 87)
  else if 'A' ≤ c ∧ c ≤ 'F' then some (c.toNat - 55)
  else none

def isHex (c : Char) : Bool := (hexValue? c).isSome

/-! ### Blanks and comments -/

inductive Blank where
  | space
  | lineComment
  | blockComment
  deriving DecidableEq, Repr

/-- What follows blanks and comments. -/
structure Skipped where
  rest : List Char
  size : Nat
  newline : Bool
  irregular : Bool

/-- Takes blanks and comments; none for a comment without end. A comment of the older form that
starts like markup is irregular. -/
def skipBlanks : Blank → List Char → Nat → Bool → Bool → Option Skipped
  | .space, [], size, newline, irregular => some ⟨[], size, newline, irregular⟩
  | .space, '/' :: '/' :: rest, size, newline, irregular =>
    skipBlanks .lineComment rest (size + 2) newline irregular
  | .space, '/' :: '*' :: rest, size, newline, irregular =>
    skipBlanks .blockComment rest (size + 2) newline irregular
  | .space, '<' :: '!' :: '-' :: '-' :: rest, size, newline, _ =>
    skipBlanks .lineComment rest (size + 4) newline true
  | .space, c :: rest, size, newline, irregular =>
    if isLineEnd c then skipBlanks .space rest (size + c.utf8Size) true irregular
    else if isSpace c then skipBlanks .space rest (size + c.utf8Size) newline irregular
    else some ⟨c :: rest, size, newline, irregular⟩
  | .lineComment, [], size, newline, irregular => some ⟨[], size, newline, irregular⟩
  | .lineComment, c :: rest, size, newline, irregular =>
    if isLineEnd c then skipBlanks .space rest (size + c.utf8Size) true irregular
    else skipBlanks .lineComment rest (size + c.utf8Size) newline irregular
  | .blockComment, [], _, _, _ => none
  | .blockComment, '*' :: '/' :: rest, size, newline, irregular =>
    skipBlanks .space rest (size + 2) newline irregular
  | .blockComment, c :: rest, size, newline, irregular =>
    skipBlanks .blockComment rest (size + c.utf8Size) (newline || isLineEnd c) irregular

/-! ### Escapes -/

/-- What was read, what follows it and the bytes taken. -/
structure Read (α : Type) where
  value : α
  rest : List Char
  size : Nat

/-- The hexadecimal digits before a closing brace. -/
def readBracedHex (value digits size : Nat) : List Char → Option (Read Nat)
  | [] => none
  | '}' :: rest => if digits = 0 then none else some ⟨value, rest, size + 1⟩
  | c :: rest =>
    match hexValue? c with
    | some d =>
      if value * 16 + d ≤ 0x10ffff then readBracedHex (value * 16 + d) (digits + 1) (size + 1) rest
      else none
    | none => none

/-- A number of so many hexadecimal digits. -/
def readHex (value size : Nat) : Nat → List Char → Option (Read Nat)
  | 0, cs => some ⟨value, cs, size⟩
  | _ + 1, [] => none
  | n + 1, c :: rest => (hexValue? c).bind fun d => readHex (value * 16 + d) (size + 1) n rest

/-- A code point after `\u`. -/
def readCodePoint : List Char → Option (Read Nat)
  | '{' :: rest => readBracedHex 0 0 1 rest
  | cs => readHex 0 0 4 cs

def isSurrogate (n : Nat) : Bool := 0xd800 ≤ n && n ≤ 0xdfff

/-- The characters of a code point after `\u`. Two halves of a pair are one character; half a pair
stays as it is written. -/
def readUnicodeEscape (cs : List Char) : Option (Read (List Char)) :=
  (readCodePoint cs).bind fun first =>
    if !isSurrogate first.value then some { first with value := [Char.ofNat first.value] }
    else
      let written : Read (List Char) :=
        { first with value := '\\' :: 'u' :: cs.take (cs.length - first.rest.length) }
      match first.rest with
      | '\\' :: 'u' :: rest =>
        match readCodePoint rest with
        | some second =>
          if first.value < 0xdc00 ∧ 0xdc00 ≤ second.value ∧ second.value ≤ 0xdfff then
            let value := (first.value - 0xd800) * 0x400 + (second.value - 0xdc00) + 0x10000
            some ⟨[Char.ofNat value], second.rest, first.size + 2 + second.size⟩
          else some written
        | none => some written
      | _ => some written

/-! ### Words -/

/-- The parts of a name. The fuel is a list at least as long as the text. -/
def readNameParts :
    List Char → List Char → List Char → Nat → Bool → Option (Read (List Char × Bool))
  | [], cs, taken, size, escaped => some ⟨(taken.reverse, escaped), cs, size⟩
  | _ :: fuel, '\\' :: 'u' :: rest, taken, size, _ =>
    (readCodePoint rest).bind fun code =>
      let c := Char.ofNat code.value
      if isNamePart c && (!taken.isEmpty || isNameStart c) then
        readNameParts fuel code.rest (c :: taken) (size + 2 + code.size) true
      else none
  | _ :: fuel, c :: rest, taken, size, escaped =>
    if isNamePart c then readNameParts fuel rest (c :: taken) (size + c.utf8Size) escaped
    else some ⟨(taken.reverse, escaped), c :: rest, size⟩
  | _ :: _, [], taken, size, escaped => some ⟨(taken.reverse, escaped), [], size⟩

def readName (cs : List Char) : Option (Read (List Char × Bool)) :=
  match cs with
  | '\\' :: _ => readNameParts cs cs [] 0 false
  | c :: rest => if isNameStart c then readNameParts rest rest [c] c.utf8Size false else none
  | [] => none

/-! ### Numbers -/

/-- Digits with single low lines between them: their count and whether a low line stands where it
may not. -/
def readDigits (digit : Char → Bool) : List Char → Nat → Nat → Bool → Bool → Read (Nat × Bool)
  | [], count, size, afterMark, irregular => ⟨(count, irregular || afterMark), [], size⟩
  | c :: rest, count, size, afterMark, irregular =>
    if digit c then readDigits digit rest (count + 1) (size + 1) false irregular
    else if c = '_' then
      readDigits digit rest count (size + 1) true (irregular || afterMark || count = 0)
    else ⟨(count, irregular || afterMark), c :: rest, size⟩

/-- The number, if no name and no digit follows it; the value says whether it is irregular. -/
def endNumber (r : Read Bool) : Option (Read Bool) :=
  match r.rest with
  | [] => some r
  | c :: _ => if isNameStart c || isDigit c || c = '\\' then none else some r

/-- The mark of a big integer. -/
def skipBigMark (r : Read Bool) : Read Bool :=
  match r.rest with
  | 'n' :: rest => { r with rest, size := r.size + 1 }
  | _ => r

def readExponent (r : Read Bool) : Option (Read Bool) :=
  let digits (rest : List Char) (size : Nat) : Option (Read Bool) :=
    let d := readDigits isDigit rest 0 0 false false
    if d.value.1 = 0 then none else some ⟨r.value || d.value.2, d.rest, r.size + size + d.size⟩
  match r.rest with
  | e :: rest =>
    if e = 'e' || e = 'E' then
      match rest with
      | '+' :: rest => digits rest 2
      | '-' :: rest => digits rest 2
      | rest => digits rest 1
    else some r
  | [] => some r

def readFraction (r : Read Bool) : Read Bool :=
  match r.rest with
  | '.' :: rest =>
    let d := readDigits isDigit rest 0 0 false false
    ⟨r.value || d.value.2, d.rest, r.size + 1 + d.size⟩
  | _ => r

def readRadix (digit : Char → Bool) (rest : List Char) : Option (Read Bool) :=
  let d := readDigits digit rest 0 0 false false
  if d.value.1 = 0 then none else endNumber (skipBigMark ⟨d.value.2, d.rest, d.size + 2⟩)

/-- A number whose first digit is a nought before other digits or a low line. In digits up to seven
it is octal, otherwise decimal; strict code has neither. -/
def readLegacy (cs : List Char) : Option (Read Bool) :=
  let d := readDigits isDigit cs 0 0 false false
  if (cs.take d.size).all (fun c => isOctal c || c = '_') then endNumber ⟨true, d.rest, d.size⟩
  else (readExponent (readFraction ⟨true, d.rest, d.size⟩)).bind endNumber

def readDecimal (cs : List Char) : Option (Read Bool) :=
  let d := readDigits isDigit cs 0 0 false false
  let whole : Read Bool := ⟨d.value.2, d.rest, d.size⟩
  match d.rest with
  | 'n' :: _ => if d.value.1 = 0 then none else endNumber (skipBigMark whole)
  | _ => (readExponent (readFraction whole)).bind endNumber

def readNumber : List Char → Option (Read Bool)
  | '0' :: x :: rest =>
    if x = 'x' || x = 'X' then readRadix isHex rest
    else if x = 'o' || x = 'O' then readRadix isOctal rest
    else if x = 'b' || x = 'B' then readRadix (fun c => c = '0' || c = '1') rest
    else if isDigit x || x = '_' then readLegacy ('0' :: x :: rest)
    else readDecimal ('0' :: x :: rest)
  | cs => readDecimal cs

/-! ### Strings -/

/-- The value of up to two more octal digits. -/
def readOctal (value size : Nat) : Nat → List Char → Read Nat
  | n + 1, c :: rest =>
    if isOctal c && value * 8 + (c.toNat - 48) ≤ 255 then
      readOctal (value * 8 + (c.toNat - 48)) (size + 1) n rest
    else ⟨value, c :: rest, size⟩
  | _, cs => ⟨value, cs, size⟩

/-- What an escape stands for, from the character after the backslash on, and whether it is
irregular. -/
def readEscape : List Char → Option (Read (List Char × Bool))
  | [] => none
  | '\r' :: '\n' :: rest => some ⟨([], false), rest, 2⟩
  | 'x' :: rest =>
    (readHex 0 0 2 rest).map fun r => ⟨([Char.ofNat r.value], false), r.rest, r.size + 1⟩
  | 'u' :: rest => (readUnicodeEscape rest).map fun r => ⟨(r.value, false), r.rest, r.size + 1⟩
  | c :: rest =>
    if isLineEnd c then some ⟨([], false), rest, c.utf8Size⟩
    else if c = '0' && !(rest.head?.any isDigit) then some ⟨([Char.ofNat 0], false), rest, 1⟩
    else if isOctal c then
      let r := readOctal (c.toNat - 48) 1 2 rest
      some ⟨([Char.ofNat r.value], true), r.rest, r.size⟩
    else if c = '8' || c = '9' then some ⟨([c], true), rest, 1⟩
    else
      let plain := match c with
        | 'n' => '\n'
        | 't' => '\t'
        | 'r' => '\r'
        | 'b' => Char.ofNat 8
        | 'v' => Char.ofNat 11
        | 'f' => Char.ofNat 12
        | c => c
      some ⟨([plain], false), rest, c.utf8Size⟩

/-- A string from after its opening quote on, with the characters taken so far, the last one
first. The fuel is a list at least as long as the text. -/
def readString (quote : Char) :
    List Char → List Char → List Char → Nat → Bool → Option (Read (List Char × Bool))
  | [], _, _, _, _ => none
  | _ :: _, [], _, _, _ => none
  | _ :: fuel, c :: rest, taken, size, irregular =>
    if c = quote then some ⟨(taken.reverse, irregular), rest, size + 1⟩
    else if c = '\\' then
      match readEscape rest with
      | some e => readString quote fuel e.rest (e.value.1.reverse ++ taken) (size + 1 + e.size)
          (irregular || e.value.2)
      | none => none
    else if c = '\n' || c = '\r' then none
    else readString quote fuel rest (c :: taken) (size + c.utf8Size) irregular

/-! ### Signs -/

/-- Operators and punctuation, the longer before the shorter. -/
def signs : List String :=
  [">>>=", "...", "===", "!==", "**=", "<<=", ">>=", ">>>", "&&=", "||=", "??=", "=>", "==", "!=",
   "<=", ">=", "&&", "||", "??", "?.", "++", "--", "+=", "-=", "*=", "/=", "%=", "&=", "|=", "^=",
   "<<", ">>", "**", "\x7b", "\x7d", "(", ")", "[", "]", ";", ",", "<", ">", "+", "-", "*", "/", "%",
   "&", "|", "^", "!", "~", "?", ":", "=", ".", "`"]

/-- Whether a sign stands at the start of a text. The sign of an optional chain is none before a
digit. -/
def signAt (cs : List Char) (sign : String) : Bool :=
  sign.toList.isPrefixOf cs && !(sign = "?." && (cs.drop 2).head?.any isDigit)

/-! ### Tokens -/

/-- A token from its first character on, with what follows it, its size and whether it is
irregular. -/
structure Scanned where
  lexeme : Lexeme
  rest : List Char
  size : Nat
  irregular : Bool

def Scanned.invalid : Scanned := ⟨.invalid, [], 0, false⟩

def scanWord (cs : List Char) : Scanned :=
  match readName cs with
  | some r => ⟨.word (String.ofList r.value.1) r.value.2, r.rest, r.size, false⟩
  | none => .invalid

def scanSign (cs : List Char) : Scanned :=
  match signs.find? (signAt cs) with
  | some sign => ⟨.sign sign, cs.drop sign.length, sign.length, false⟩
  | none => .invalid

def scanNumber (cs : List Char) : Scanned :=
  match readNumber cs with
  | some r => ⟨.number, r.rest, r.size, r.value⟩
  | none => .invalid

def scanString (quote : Char) (cs : List Char) : Scanned :=
  match readString quote cs cs [] 1 false with
  | some r => ⟨.string (String.ofList r.value.1), r.rest, r.size, r.value.2⟩
  | none => .invalid

/-- The token at the start of a text that starts with no blank. -/
def scanToken : List Char → Scanned
  | [] => ⟨.ending, [], 0, false⟩
  | '"' :: rest => scanString '"' rest
  | '\'' :: rest => scanString '\'' rest
  | '#' :: rest =>
    match readName rest with
    | some r => ⟨.privateWord, r.rest, r.size + 1, false⟩
    | none => .invalid
  | '.' :: d :: rest =>
    if isDigit d then scanNumber ('.' :: d :: rest) else scanSign ('.' :: d :: rest)
  | c :: rest =>
    if isDigit c then scanNumber (c :: rest)
    else if isNameStart c || c = '\\' then scanWord (c :: rest)
    else scanSign (c :: rest)

/-! ### Regular expressions and templates -/

def isRegexFlag (c : Char) : Bool := "dgimsuyv".toList.contains c

/-- The rest of a regular expression after its slash: what follows it and its flags, with the
bytes taken. A slash in brackets or after a backslash does not end it. -/
def readRegexBody (inClass : Bool) : List Char → Nat → Option (Read PUnit)
  | [], _ => none
  | '\\' :: c :: rest, size =>
    if isLineEnd c then none else readRegexBody inClass rest (size + 1 + c.utf8Size)
  | c :: rest, size =>
    if isLineEnd c then none
    else if c = '/' && !inClass then some ⟨⟨⟩, rest, size + 1⟩
    else readRegexBody (if c = '[' then true else if c = ']' then false else inClass) rest
      (size + c.utf8Size)

/-- A regular expression from after its slash on; the value says whether its flags are irregular. -/
def readRegex (cs : List Char) : Option (Read Bool) :=
  (readRegexBody false cs 0).bind fun body =>
    let flags := body.rest.takeWhile isNamePart
    let size := flags.foldl (fun n c => n + c.utf8Size) 0
    some ⟨!(flags.all isRegexFlag) || flags.eraseDups.length ≠ flags.length,
      body.rest.drop flags.length, body.size + size⟩

/-- A text of a template, from a place between its marks up to the next mark: as it is written,
with line ends made line feeds, and whether the template ends there. `valid` says whether every
escape in it stands for something. -/
structure Chunk where
  text : List Char
  ends : Bool
  valid : Bool

/-- Whether an escape may stand in a template that no tag takes. -/
def validEscape : List Char → Bool
  | 'x' :: rest => (readHex 0 0 2 rest).isSome
  | 'u' :: rest => (readCodePoint rest).isSome
  | '0' :: rest => !(rest.head?.any isDigit)
  | c :: _ => !isDigit c
  | [] => false

def readChunk : List Char → List Char → Nat → Bool → Option (Read Chunk)
  | [], _, _, _ => none
  | '`' :: rest, text, size, valid => some ⟨⟨text.reverse, true, valid⟩, rest, size + 1⟩
  | '$' :: '{' :: rest, text, size, valid => some ⟨⟨text.reverse, false, valid⟩, rest, size + 2⟩
  | '\\' :: '\r' :: '\n' :: rest, text, size, valid =>
    readChunk rest ('\n' :: '\\' :: text) (size + 3) valid
  | '\\' :: c :: rest, text, size, valid =>
    readChunk rest ((if c = '\r' then '\n' else c) :: '\\' :: text) (size + 1 + c.utf8Size)
      (valid && validEscape (c :: rest))
  | '\r' :: '\n' :: rest, text, size, valid => readChunk rest ('\n' :: text) (size + 2) valid
  | c :: rest, text, size, valid =>
    readChunk rest ((if c = '\r' then '\n' else c) :: text) (size + c.utf8Size) valid

end PackageVet.JavaScript
