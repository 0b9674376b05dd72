import PackageVet.JavaScript.Expression

/-! Statements. -/
namespace PackageVet.JavaScript.Parser

/-! ### Declarations of variables -/

/-- Whether a token after the word `let` makes it the keyword. -/
def followsLet (t : Token) : Bool :=
  match t.lexeme with
  | .word text _ => text ≠ "in" && text ≠ "instanceof"
  | .sign sign => sign = "[" || sign = "\x7b"
  | _ => false

/-- The keyword of a declaration of variables, if one starts here. -/
def declarationWord : Parser (Option String) := do
  match (← token).lexeme with
  | .word "var" false => return some "var"
  | .word "const" false => return some "const"
  | .word "let" false => return if followsLet (← following) then some "let" else none
  | _ => return none

/-- One declared name or pattern and its value. At the head of a loop the value may be missing, a
constant without one is irregular, and a pattern needs one. -/
def declarator (g : Grammar) (ctx : Context) (word : String) (loopHead : Bool) : Parser Tree := do
  let start ← start
  let pattern ← g.pattern ctx
  let isUnset := loopHead && ((← atWord "of") || (← atWord "in"))
  if !isUnset && (← accept "=") then
    let value ← g.assignment ctx
    build .other start [pattern, value]
  else
    if !isUnset then
      if word = "const" then mark
      else ensure (pattern.form matches .name _)
    build .other start [pattern]

/-- Skips to where a statement may end. -/
def skipToEnd : Parser PUnit := do
  let _ ← collect do
    if ← acceptEnd then return none
    ensure ((← token).lexeme ≠ .invalid)
    advance
    return some ()

/-- Reads over what follows a declaration on its line. -/
def skipExpression (g : Grammar) (ctx : Context) : Parser PUnit := fun c =>
  match expression g ctx c with
  | some (_, c) => some (⟨⟩, c)
  | none => some (⟨⟩, c)

/-- The declarations from their keyword on. -/
def declarations (g : Grammar) (ctx : Context) (word : String) (loopHead : Bool) :
    Parser (List Tree) := do
  advance
  let first ← declarator g ctx word loopHead
  let rest ← collect do
    if ← accept "," then return some (← declarator g ctx word loopHead)
    return none
  return first :: rest

/-- A declaration of variables. Something else on the line is irregular and is read over. -/
def variableStatement (g : Grammar) (ctx : Context) (word : String) : Parser Tree := do
  let start ← start
  let declared ← declarations g ctx.withIn word false
  if !(← acceptEnd) then
    mark
    skipExpression g ctx.withIn
    skipToEnd
  build .other start declared

/-! ### Loops -/

/-- An expression in parentheses after a keyword. -/
def head (g : Grammar) (ctx : Context) : Parser Tree := do
  expect "("
  let tree ← expression g ctx.withIn
  expect ")"
  return tree

def loopContext (ctx : Context) : Context :=
  { ctx with breakable := true, continuable := true, includeIn := true }

def whileStatement (g : Grammar) (ctx : Context) : Parser Tree := do
  let start ← start
  advance
  let test ← head g ctx
  let body ← g.statement (loopContext ctx) false
  build .other start [test, body]

def doStatement (g : Grammar) (ctx : Context) : Parser Tree := do
  let start ← start
  advance
  let body ← g.statement (loopContext ctx) false
  expectWord "while"
  let test ← head g ctx
  let _ ← acceptEnd
  build .other start [test, body]

/-- An expression, unless a sign stands there already; the sign is taken. -/
def optionalExpression (g : Grammar) (ctx : Context) (closing : String) : Parser (List Tree) := do
  if ← accept closing then return []
  let tree ← expression g ctx.withIn
  expect closing
  return [tree]

/-- The test and the step of a loop, from after its first part on. -/
def countingHead (g : Grammar) (ctx : Context) : Parser (List Tree) := do
  let test ← optionalExpression g ctx ";"
  let step ← optionalExpression g ctx ")"
  return test ++ step

/-- The values that a loop goes over, from the word before them on. -/
def eachHead (g : Grammar) (ctx : Context) (waits : Bool) : Parser (List Tree) := do
  let values ← if ← acceptWord "of" then g.assignment ctx.withIn
    else do
      expectWord "in"
      ensure (!waits)
      expression g ctx.withIn
  expect ")"
  return [values]

def atEach : Parser Bool := do return (← atWord "of") || (← atWord "in")

/-- The head of a loop, from after its opening parenthesis on. -/
def forHead (g : Grammar) (ctx : Context) (waits : Bool) : Parser (List Tree) := do
  match ← declarationWord with
  | some word =>
    let start ← start
    let declared ← declarations g ctx.withoutIn word true
    let first ← build .other start declared
    if ← atEach then
      markWhen (declared.length ≠ 1 || declared.any fun d => d.parts.length ≠ 1)
      return first :: (← eachHead g ctx waits)
    ensure (!waits)
    expect ";"
    return first :: (← countingHead g ctx)
  | none =>
    if ← accept ";" then
      ensure (!waits)
      return ← countingHead g ctx
    let first ← expression g ctx.withoutIn
    if ← atEach then
      require first.assignable
      return first :: (← eachHead g ctx waits)
    ensure (!waits)
    expect ";"
    return first :: (← countingHead g ctx)

def forStatement (g : Grammar) (ctx : Context) : Parser Tree := do
  let start ← start
  advance
  let waits ← acceptWord "await"
  expect "("
  let parts ← forHead g ctx waits
  let body ← g.statement (loopContext ctx) false
  build .other start (parts ++ [body])

/-! ### Choices and exceptions -/

def ifStatement (g : Grammar) (ctx : Context) : Parser Tree := do
  let start ← start
  advance
  let test ← head g ctx
  let yes ← g.statement ctx false
  let no ← if ← acceptWord "else" then pure [← g.statement ctx false] else pure []
  build .other start (test :: yes :: no)

/-- One case of a switch: its test, if any, and its statements. -/
def switchCase (g : Grammar) (ctx : Context) : Parser (Tree × Bool) := do
  let start ← start
  let isDefault ← acceptWord "default"
  let test ← if isDefault then pure []
    else do
      expectWord "case"
      pure [← expression g ctx.withIn]
  expect ":"
  let listStart ← Parser.start
  let statements ← collect do
    if (← atWord "case") || (← atWord "default") || (← atSign "\x7d") then return none
    return some (← g.statement ctx.withIn true)
  let list ← build .statements listStart statements
  return (← build .other start (test ++ [list]), isDefault)

def switchStatement (g : Grammar) (ctx : Context) : Parser Tree := do
  let start ← start
  advance
  let subject ← head g ctx
  expect "\x7b"
  let cases ← collect do
    if ← atSign "\x7d" then return none
    return some (← switchCase g { ctx with breakable := true })
  expect "\x7d"
  ensure ((cases.filter Prod.snd).length ≤ 1)
  build .other start (subject :: cases.map Prod.fst)

/-- What catches an exception, if anything does. -/
def catchClause (g : Grammar) (ctx : Context) : Parser (List Tree) := do
  if !(← acceptWord "catch") then return []
  let parameter ← if ← accept "(" then do
      let pattern ← g.pattern ctx
      expect ")"
      pure [pattern]
    else pure []
  let body ← block g ctx
  return parameter ++ [body]

def finallyClause (g : Grammar) (ctx : Context) : Parser (List Tree) := do
  if ← acceptWord "finally" then return [← block g ctx]
  return []

def tryStatement (g : Grammar) (ctx : Context) : Parser Tree := do
  let start ← start
  advance
  let body ← block g ctx
  let handler ← catchClause g ctx
  let finalizer ← finallyClause g ctx
  markWhen (handler.isEmpty && finalizer.isEmpty)
  build .other start (body :: handler ++ finalizer)

/-! ### Jumps -/

/-- A jump out of a loop or to its next round, perhaps to a label. -/
def jump (ctx : Context) (leaves : Bool) : Parser Tree := do
  let start ← start
  advance
  if ← acceptEnd then
    markWhen (if leaves then !ctx.breakable else !ctx.continuable)
    build .other start []
  else
    let label ← name
    expectEnd
    let known := match label.form with
      | .name text => ctx.labels.contains text
      | _ => false
    markWhen (!known || (!leaves && !ctx.continuable))
    build .other start [label]

def returnStatement (g : Grammar) (ctx : Context) : Parser Tree := do
  let start ← start
  advance
  let value ← if ← atEnd then pure [] else pure [← expression g ctx.withIn]
  expectEnd
  markWhen (!ctx.inFunction)
  build .other start value

def throwStatement (g : Grammar) (ctx : Context) : Parser Tree := do
  let start ← start
  advance
  ensure (!(← token).afterNewline)
  let value ← expression g ctx.withIn
  expectEnd
  build .other start [value]

/-! ### Statements of other kinds -/

def withStatement (g : Grammar) (ctx : Context) : Parser Tree := do
  let start ← start
  advance
  mark
  let subject ← head g ctx
  let body ← g.statement ctx false
  build .other start [subject, body]

/-- A statement after a label, from after the colon on. -/
def labelled (g : Grammar) (ctx : Context) (label : Tree) (text : String) : Parser Tree := do
  markWhen (ctx.labels.contains text || (← atWord "function"))
  let inner := { ctx with breakable := true, labels := text :: ctx.labels }
  let body ← g.statement inner false
  build .other label.span.start [label, body]

/-- A statement that starts with an expression. -/
def expressionStatement (g : Grammar) (ctx : Context) : Parser Tree := do
  let start ← start
  let tree ← expression g ctx.withIn
  match tree.form with
  | .name text =>
    if ← accept ":" then return ← labelled g ctx tree text
  | _ => pure ⟨⟩
  expectEnd
  build .expressionStatement start [tree]

/-- A clause of a try statement that stands alone is irregular and is read over. -/
def strayClause (g : Grammar) (ctx : Context) : Parser Tree := do
  let t ← token
  mark
  let _ ← catchClause g ctx
  let _ ← finallyClause g ctx
  return .node .other ⟨t.start, t.stop⟩ []

/-- An expression that starts with the word `import`; a semicolon after it is taken, but none is
asked for. -/
def importStatement (g : Grammar) (ctx : Context) : Parser Tree := do
  let start ← start
  let tree ← expression g ctx.withIn
  let _ ← acceptEnd
  build .expressionStatement start [tree]

/-- Whether an expression starts with the word `import` here. -/
def atImportExpression : Parser Bool := do
  let next := (← following).lexeme
  return (← atWord "import") && (next = .sign "(" || next = .sign ".")

/-- A statement. Where no declaration may stand, a declared function or class is irregular. -/
def statement (g : Grammar) (ctx : Context) (declares : Bool) : Parser Tree := do
  let t ← token
  let next ← following
  match t.lexeme with
  | .sign "\x7b" => block g ctx
  | .sign ";" =>
    advance
    build .other t.start []
  | .word word false =>
    match word with
    | "break" => jump ctx true
    | "continue" => jump ctx false
    | "debugger" =>
      advance
      expectEnd
      build .other t.start []
    | "do" => doStatement g ctx
    | "for" => forStatement g ctx
    | "function" =>
      markWhen (!declares)
      function g ctx t.start false true
    | "class" =>
      markWhen (!declares)
      classFrom g ctx t.start true
    | "if" => ifStatement g ctx
    | "return" => returnStatement g ctx
    | "switch" => switchStatement g ctx
    | "throw" => throwStatement g ctx
    | "try" => tryStatement g ctx
    | "catch" | "finally" => strayClause g ctx
    | "with" => withStatement g ctx
    | "while" => whileStatement g ctx
    | "var" => variableStatement g ctx word
    | "import" =>
      ensure (← atImportExpression)
      importStatement g ctx
    | "const" =>
      ensure declares
      variableStatement g ctx word
    | "let" =>
      ensure (declares && followsLet next)
      variableStatement g ctx word
    | "async" =>
      if next.lexeme = .word "function" false && !next.afterNewline then
        advance
        function g ctx t.start true true
      else expressionStatement g ctx
    | _ => expressionStatement g ctx
  | _ => expressionStatement g ctx

end PackageVet.JavaScript.Parser
