import PackageVet.JavaScript.Token
import PackageVet.JavaScript.Tree

/-! What the grammar of JavaScript is written in.

A parser takes tokens from a cursor and gives a tree, or fails; a failure is final. Code that
strict mode forbids, but whose tree is clear, is marked irregular and read on.

The parts of the grammar that contain one another are tied together by a `Grammar`, a record of
parsers for code nested one level deeper. Each of them is used only after a token has been taken,
so a text is never nested deeper than it is long. -/
namespace PackageVet.JavaScript

/-- A place in the text: the token there, what follows it, the end of the token before it, and
whether something irregular has been read. -/
structure Cursor where
  token : Token
  rest : List Char
  lastStop : Nat
  irregular : Bool
  deriving Inhabited

namespace Cursor

/-- The cursor at the first token after an offset. -/
def scanFrom (cs : List Char) (offset lastStop : Nat) (irregular : Bool) : Cursor :=
  match skipBlanks .space cs 0 false false with
  | none => ⟨⟨.invalid, offset, offset, false⟩, [], lastStop, irregular⟩
  | some blanks =>
    let start := offset + blanks.size
    let scanned := scanToken blanks.rest
    { token := ⟨scanned.lexeme, start, start + scanned.size, blanks.newline⟩
      rest := scanned.rest
      lastStop
      irregular := irregular || blanks.irregular || scanned.irregular }

/-- The cursor at the first token of a text. -/
def ofText (cs : List Char) (offset : Nat) : Cursor := scanFrom cs offset offset false

def next (c : Cursor) : Cursor := scanFrom c.rest c.token.stop c.token.stop c.irregular

end Cursor

abbrev Parser (α : Type) := StateT Cursor Option α

namespace Parser

def token : Parser Token := do return (← get).token

/-- The token after the current one. -/
def following : Parser Token := do return (← get).next.token

def advance : Parser PUnit := modify Cursor.next

/-- Notes that strict code would not have this. -/
def mark : Parser PUnit := modify fun c => { c with irregular := true }

def markWhen (condition : Bool) : Parser PUnit := if condition then mark else pure ⟨⟩

def ensure (condition : Bool) : Parser PUnit := if condition then pure ⟨⟩ else failure

def start : Parser Nat := do return (← token).start

/-- The span from an offset to the end of the last token taken. -/
def spanFrom (start : Nat) : Parser Span := do return ⟨start, (← get).lastStop⟩

def build (form : Form) (start : Nat) (parts : List Tree) : Parser Tree := do
  return .node form (← spanFrom start) parts

def atSign (sign : String) : Parser Bool := do return (← token).lexeme = .sign sign

def atWord (word : String) : Parser Bool := do return (← token).lexeme = .word word false

def accept (sign : String) : Parser Bool := do
  if ← atSign sign then
    advance
    return true
  return false

def acceptWord (word : String) : Parser Bool := do
  if ← atWord word then
    advance
    return true
  return false

def expect (sign : String) : Parser PUnit := do ensure (← accept sign)

def expectWord (word : String) : Parser PUnit := do ensure (← acceptWord word)

/-- Whether a statement may end here: at a semicolon, a closing brace, the end of the text or a
new line. -/
def atEnd : Parser Bool := do
  let t ← token
  return t.lexeme = .sign ";" || t.lexeme = .sign "\x7d" || t.lexeme = .ending || t.afterNewline

/-- Ends a statement, if it may end here. -/
def acceptEnd : Parser Bool := do
  if ← accept ";" then return true
  atEnd

def expectEnd : Parser PUnit := do ensure (← acceptEnd)

/-- Takes steps until one gives nothing; the fuel is a list at least as long as the steps. -/
def collectFrom {α : Type} (step : Parser (Option α)) : List Char → List α → Parser (List α)
  | [], _ => failure
  | _ :: fuel, taken => do
    match ← step with
    | none => return taken.reverse
    | some a => collectFrom step fuel (a :: taken)

/-- What steps give until one gives nothing. Every step but the last takes a token, so the
characters left bound their number. -/
def collect {α : Type} (step : Parser (Option α)) : Parser (List α) := do
  collectFrom step (' ' :: ' ' :: (← get).rest) []

def iterateFrom {α : Type} (step : α → Parser (Option α)) : List Char → α → Parser α
  | [], _ => failure
  | _ :: fuel, a => do
    match ← step a with
    | none => return a
    | some b => iterateFrom step fuel b

/-- Changes a value by steps until one gives nothing. -/
def iterate {α : Type} (step : α → Parser (Option α)) (a : α) : Parser α := do
  iterateFrom step (' ' :: ' ' :: (← get).rest) a

end Parser

/-- What surrounds a piece of code. -/
structure Context where
  inFunction : Bool := false
  async : Bool := false
  generator : Bool := false
  /-- Whether `in` is an operator; at the head of a loop it is not. -/
  includeIn : Bool := true
  breakable : Bool := false
  continuable : Bool := false
  labels : List String := []
  superAllowed : Bool := false
  newTargetAllowed : Bool := false
  deriving Inhabited

namespace Context

def withIn (ctx : Context) : Context := { ctx with includeIn := true }

def withoutIn (ctx : Context) : Context := { ctx with includeIn := false }

/-- The context of the body of an arrow function. -/
def arrowBody (ctx : Context) (async : Bool) : Context :=
  { ctx with
    inFunction := true, async, generator := false, breakable := false, continuable := false
    labels := [] }

/-- The context of the parameters and the body of any other function. -/
def functionBody (ctx : Context) (async generator method : Bool) : Context :=
  { ctx with
    inFunction := true, async, generator, breakable := false, continuable := false, labels := []
    includeIn := true, superAllowed := method, newTargetAllowed := true }

end Context

/-- Parsers for code nested one level deeper. -/
structure Grammar where
  assignment : Context → Parser Tree
  unary : Context → Parser Tree
  /-- What `new` is applied to. -/
  operand : Context → Parser Tree
  leftHandSide : Context → Parser Tree
  /-- A statement; the flag says whether a declaration may stand here. -/
  statement : Context → Bool → Parser Tree
  /-- A name or a pattern that is declared. -/
  pattern : Context → Parser Tree

/-- The grammar of no text. -/
def Grammar.none : Grammar where
  assignment _ := failure
  unary _ := failure
  operand _ := failure
  leftHandSide _ := failure
  statement _ _ := failure
  pattern _ := failure

/-- Words that are no names in module code. -/
def reservedWords : List String :=
  ["break", "case", "catch", "class", "const", "continue", "debugger", "default", "delete", "do",
   "else", "export", "extends", "finally", "for", "function", "if", "import", "in", "instanceof",
   "new", "return", "super", "switch", "this", "throw", "try", "typeof", "var", "void", "while",
   "with", "null", "true", "false", "enum", "implements", "interface", "let", "package", "private",
   "protected", "public", "static", "yield", "await"]

def isReserved (word : String) : Bool := reservedWords.contains word

def Lexeme.isName : Lexeme → Bool
  | .word text _ => !isReserved text
  | _ => false

/-- Names that strict code may not declare or assign. -/
def isRestricted (name : String) : Bool := name = "eval" || name = "arguments"

namespace Parser

/-- A name, where it is used. -/
def name : Parser Tree := do
  let t ← token
  match t.lexeme with
  | .word text _ =>
    ensure (!isReserved text)
    advance
    build (.name text) t.start []
  | _ => failure

/-- A name, where it is declared. -/
def bindingName : Parser Tree := do
  let tree ← name
  match tree.form with
  | .name text => markWhen (isRestricted text)
  | _ => pure ⟨⟩
  return tree

/-- Any word, as the name of a property. -/
def anyWord : Parser String := do
  match (← token).lexeme with
  | .word text _ =>
    advance
    return text
  | _ => failure

end Parser

end PackageVet.JavaScript
