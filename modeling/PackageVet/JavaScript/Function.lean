import PackageVet.JavaScript.Pattern

/-! Functions, object literals and classes. -/
namespace PackageVet.JavaScript.Parser

/-- Expressions with commas between them. -/
def expression (g : Grammar) (ctx : Context) : Parser Tree := do
  let start ← start
  let first ← g.assignment ctx
  let rest ← collect do
    if ← accept "," then return some (← g.assignment ctx)
    return none
  if rest.isEmpty then return first
  build .sequence start (first :: rest)

/-! ### Functions -/

/-- Statements in braces. -/
def block (g : Grammar) (ctx : Context) : Parser Tree := do
  let start ← start
  expect "\x7b"
  let statements ← collect do
    if ← atSign "\x7d" then return none
    return some (← g.statement ctx.withIn true)
  expect "\x7d"
  build .statements start statements

/-- The parameters and the body of a function that is no arrow function. -/
def functionTail (g : Grammar) (ctx : Context) (async generator method : Bool) :
    Parser (List Tree) := do
  let inner := ctx.functionBody async generator method
  let parameters ← parameters g inner
  let body ← block g inner
  return parameters ++ [body]

/-- A function from its keyword on, which starts at an offset. -/
def function (g : Grammar) (ctx : Context) (start : Nat) (async named : Bool) : Parser Tree := do
  expectWord "function"
  let generator ← accept "*"
  let name ← if named || !(← atSign "(") then pure [← bindingName] else pure []
  let tail ← functionTail g ctx async generator false
  build .function start (name ++ tail)

/-! ### Object literals -/

/-- Whether a token ends the name of a property, so that a word before it is that name. -/
def endsKey (t : Token) : Bool :=
  ["(", ",", ":", "\x7d", "=", ";"].any fun sign => t.lexeme = .sign sign

/-- What stands before the name of a method. -/
structure Modifier where
  async : Bool := false
  generator : Bool := false
  /-- The number of parameters of an accessor. -/
  arity : Option Nat := none

/-- The words and signs before the name of a method; none before that of another property. -/
def modifier : Parser (Option Modifier) := do
  if ← accept "*" then return some { generator := true }
  let t ← token
  let next ← following
  if endsKey next then return none
  match t.lexeme with
  | .word "async" false =>
    if next.afterNewline then return none
    advance
    return some { async := true, generator := ← accept "*" }
  | .word "get" false =>
    advance
    return some { arity := some 0 }
  | .word "set" false =>
    advance
    return some { arity := some 1 }
  | _ => return none

/-- A method from after its name on. -/
def method (g : Grammar) (ctx : Context) (start : Nat) (key : Key) (m : Modifier) :
    Parser Tree := do
  let tail ← functionTail g ctx m.async m.generator true
  markWhen (m.arity.any fun n => tail.length ≠ n + 1)
  build .method start (key.parts ++ tail)

/-- One property of an object literal. -/
def property (g : Grammar) (ctx : Context) : Parser Tree := do
  let start ← start
  if ← accept "..." then
    let value ← g.assignment ctx.withIn
    return ← build .spread start [value]
  match ← modifier with
  | some m => method g ctx start (← key g ctx) m
  | none =>
    let key ← key g ctx
    if ← atSign "(" then method g ctx start key {}
    else if ← accept ":" then
      let value ← g.assignment ctx.withIn
      build .property start (key.parts ++ [value])
    else
      match key.word with
      | none => failure
      | some word =>
        markWhen (isReserved word)
        let name : Tree := .node (.name word) key.span []
        if ← accept "=" then
          let value ← g.assignment ctx.withIn
          build .shorthandDefault start [name, value]
        else build .shorthand start [name]

def object (g : Grammar) (ctx : Context) : Parser Tree := do
  let start ← start
  expect "\x7b"
  let (properties, _) ← separated "\x7d" (property g ctx)
  build .object start properties

/-! ### Classes -/

/-- The name of a member of a class, which may be private. -/
def memberKey (g : Grammar) (ctx : Context) : Parser Key := do
  let t ← token
  if t.lexeme = .privateWord then
    advance
    return ⟨t.start, [], none, ← spanFrom t.start⟩
  key g ctx

/-- A member of a class from after the word `static` on. -/
def member (g : Grammar) (ctx : Context) (start : Nat) : Parser Tree := do
  match ← modifier with
  | some m => method g ctx start (← memberKey g ctx) m
  | none =>
    let key ← memberKey g ctx
    if ← atSign "(" then method g ctx start key {}
    else
      let value ← if ← accept "=" then pure [← g.assignment ctx.withIn] else pure []
      expectEnd
      build .other start (key.parts ++ value)

/-- What follows the word `static` makes it a name or a modifier of a member. -/
def classItem (g : Grammar) (ctx : Context) : Parser (List Tree) := do
  let start ← start
  if ← accept ";" then return []
  if (← atWord "static") && !endsKey (← following) then
    advance
    if ← atSign "\x7b" then return [← block g { ctx with breakable := false, continuable := false }]
    return [← member g ctx start]
  return [← member g ctx start]

/-- A class from its keyword on, which starts at an offset. -/
def classFrom (g : Grammar) (ctx : Context) (start : Nat) (named : Bool) : Parser Tree := do
  expectWord "class"
  let anonymous := (← atSign "\x7b") || (← atWord "extends")
  let name ← if named || !anonymous then pure [← bindingName] else pure []
  let heritage ← if ← acceptWord "extends" then pure [← g.leftHandSide ctx] else pure []
  expect "\x7b"
  let inner := { ctx with superAllowed := true, newTargetAllowed := true }
  let items ← collect do
    if ← atSign "\x7d" then return none
    return some (← classItem g inner)
  expect "\x7d"
  build .classBody start (name ++ items.flatten ++ heritage)

end PackageVet.JavaScript.Parser
