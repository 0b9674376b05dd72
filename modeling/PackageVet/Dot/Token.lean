import PackageVet.Text.Alphanumeric
import PackageVet.Text.Blank
import PackageVet.Text.Quoted

/-! Tokens of the DOT graph language.

The scanner is a machine that takes one character at a time: a mode says what the characters so
far are the beginning of, and a character that ends a bare name is taken again between tokens.
`Scanner.run_append` splits a scan at any place of the text.

A token carries the line on which it starts. A `#` opens a comment only as the first visible
character of a line; after a block comment a line has begun. -/
namespace PackageVet.Dot

inductive Token where
  | id (text : String)
  | openBrace
  | closeBrace
  | openBracket
  | closeBracket
  | equals
  | separator
  | edge
  | colon
  deriving DecidableEq, Repr

namespace Token

/-- A token as error messages name it. -/
def render : Token → String
  | .id text => "Id(" ++ Text.quote text ++ ")"
  | .openBrace => "LBrace"
  | .closeBrace => "RBrace"
  | .openBracket => "LBracket"
  | .closeBracket => "RBracket"
  | .equals => "Equals"
  | .separator => "Separator"
  | .edge => "EdgeOp"
  | .colon => "Colon"

/-- A token or the end of the text, as error messages name it. -/
def render? : Option Token → String
  | none => "None"
  | some token => "Some(" ++ token.render ++ ")"

end Token

/-- A token and the line on which it starts. -/
structure Lexeme where
  token : Token
  line : Nat
  deriving DecidableEq, Repr

structure Error where
  message : String
  line : Nat
  deriving DecidableEq, Repr, Inhabited

def Error.render (e : Error) : String := e.message ++ " at line " ++ toString e.line

/-! ### The scanner -/

/-- Characters of a name without quotes. -/
def isBare (c : Char) : Bool :=
  Text.isAlphanumeric c || c = '_' || c = '.' || 128 ≤ c.toNat

/-- What the characters read so far are the beginning of. Texts are kept with the last character
first; `start` is the line of the token's first character. -/
inductive Mode where
  /-- Nothing: between tokens, perhaps before the first visible character of a line. -/
  | between (lineStart : Bool)
  | slash
  | lineComment
  /-- A block comment, with the character read last. -/
  | blockComment (previous : Char)
  | quoted (start : Nat) (text : List Char)
  /-- A quoted text after a backslash. -/
  | escaped (start : Nat) (text : List Char)
  | html (start : Nat) (depth : Nat) (text : List Char)
  | dash (start : Nat)
  | bare (start : Nat) (text : List Char)
  deriving DecidableEq, Repr

/-- The scanner: the line, the mode, and the tokens read so far, the last one first. -/
structure Scanner where
  line : Nat := 1
  mode : Mode := .between true
  lexemes : List Lexeme := []
  deriving DecidableEq, Repr

namespace Scanner

def fail {α : Type} (s : Scanner) (message : String) : Except Error α :=
  .error { message, line := s.line }

def emit (s : Scanner) (token : Token) (line : Nat) : Scanner :=
  { s with mode := .between false, lexemes := ⟨token, line⟩ :: s.lexemes }

def emitId (s : Scanner) (start : Nat) (text : List Char) : Scanner :=
  s.emit (.id (String.ofList text.reverse)) start

/-- The line after a character. -/
def advance (s : Scanner) (c : Char) : Scanner :=
  if c = '\n' then { s with line := s.line + 1 } else s

/-- One character between tokens. -/
def stepBetween (s : Scanner) (lineStart : Bool) (c : Char) : Except Error Scanner :=
  if c = '\n' then .ok { s with line := s.line + 1, mode := .between true }
  else if Text.isBlank c then .ok { s with mode := .between lineStart }
  else if c = '#' ∧ lineStart then .ok { s with mode := .lineComment }
  else match c with
    | '/' => .ok { s with mode := .slash }
    | '{' => .ok (s.emit .openBrace s.line)
    | '}' => .ok (s.emit .closeBrace s.line)
    | '[' => .ok (s.emit .openBracket s.line)
    | ']' => .ok (s.emit .closeBracket s.line)
    | '=' => .ok (s.emit .equals s.line)
    | ';' => .ok (s.emit .separator s.line)
    | ',' => .ok (s.emit .separator s.line)
    | ':' => .ok (s.emit .colon s.line)
    | '"' => .ok { s with mode := .quoted s.line [] }
    | '<' => .ok { s with mode := .html s.line 1 [] }
    | '-' => .ok { s with mode := .dash s.line }
    | c =>
      if isBare c then .ok { s with mode := .bare s.line [c] }
      else s.fail ("unexpected character '" ++ String.singleton c ++ "'")

/-- One character of a bare name, or the character after it. -/
def stepBare (s : Scanner) (start : Nat) (text : List Char) (c : Char) : Except Error Scanner :=
  if isBare c then .ok { s with mode := .bare start (c :: text) }
  else (s.emitId start text).stepBetween false c

def step (s : Scanner) (c : Char) : Except Error Scanner :=
  match s.mode with
  | .between lineStart => s.stepBetween lineStart c
  | .slash =>
    if c = '/' then .ok { s with mode := .lineComment }
    else if c = '*' then .ok { s with mode := .blockComment (Char.ofNat 0) }
    else s.fail "unexpected '/'"
  | .lineComment => if c = '\n' then s.stepBetween false c else .ok s
  | .blockComment previous =>
    if previous = '*' ∧ c = '/' then .ok { s with mode := .between false }
    else .ok { s.advance c with mode := .blockComment c }
  | .quoted start text =>
    if c = '"' then .ok (s.emitId start text)
    else if c = '\\' then .ok { s with mode := .escaped start text }
    else .ok { s.advance c with mode := .quoted start (c :: text) }
  | .escaped start text =>
    if c = '"' ∨ c = '\\' then .ok { s with mode := .quoted start (c :: text) }
    else if c = '\n' then .ok { s.advance c with mode := .quoted start text }
    else .ok { s with mode := .quoted start (c :: '\\' :: text) }
  | .html start depth text =>
    if c = '>' ∧ depth = 1 then .ok (s.emitId start text)
    else
      let depth := if c = '<' then depth + 1 else if c = '>' then depth - 1 else depth
      .ok { s.advance c with mode := .html start depth (c :: text) }
  | .dash start =>
    if c = '>' ∨ c = '-' then .ok (s.emit .edge start) else s.stepBare start ['-'] c
  | .bare start text => s.stepBare start text c

/-- The tokens once the text has ended. -/
def finish (s : Scanner) : Except Error (List Lexeme) :=
  match s.mode with
  | .between _ | .lineComment => .ok s.lexemes.reverse
  | .slash => s.fail "unexpected '/'"
  | .blockComment _ => s.fail "unterminated block comment"
  | .quoted start _ | .escaped start _ =>
    .error { message := "unterminated string", line := start }
  | .html _ _ _ => s.fail "unterminated HTML label"
  | .dash start => .ok (s.emitId start ['-']).lexemes.reverse
  | .bare start text => .ok (s.emitId start text).lexemes.reverse

def run (s : Scanner) : List Char → Except Error Scanner
  | [] => .ok s
  | c :: rest => (s.step c).bind fun s => s.run rest

theorem run_append (s : Scanner) (a b : List Char) :
    s.run (a ++ b) = (s.run a).bind fun s => s.run b := by
  induction a generalizing s with
  | nil => rfl
  | cons c rest ih =>
    simp only [List.cons_append, run]
    cases s.step c with
    | error e => rfl
    | ok s => exact ih s

end Scanner

/-- The tokens of a text. -/
def scan (text : String) : Except Error (List Lexeme) :=
  (({} : Scanner).run text.toList).bind Scanner.finish

end PackageVet.Dot
