import PackageVet.JavaScript.Function

/-! Expressions.

From the tightest to the loosest: primary expressions, members and calls, unary operators, binary
operators by precedence, conditionals, assignments. An arrow function is read where a primary
expression may start an assignment; then nothing may be applied to it. -/
namespace PackageVet.JavaScript.Parser

/-! ### Primary expressions -/

/-- A literal at the current token. -/
def literalAt (form : Form) : Parser Tree := do
  let start ← start
  advance
  build form start []

/-- A regular expression whose slash, alone or before an equals sign, is the current token. -/
def regex (size : Nat) : Parser Tree := do
  let c ← get
  let body := if size = 2 then '=' :: c.rest else c.rest
  match readRegex body with
  | none => failure
  | some r =>
    let stop := c.token.start + 1 + r.size
    set (Cursor.scanFrom r.rest stop stop (c.irregular || r.value))
    build .literal c.token.start []

/-- The texts and the expressions of a template so far, the last one first. -/
structure TemplateParts where
  texts : List String := []
  expressions : List Tree := []
  complete : Bool := false

/-- One text of a template and the expression after it, from a mark at the current token on. -/
def templatePart (g : Grammar) (ctx : Context) (tagged : Bool) (parts : TemplateParts) :
    Parser (Option TemplateParts) := do
  if parts.complete then return none
  let c ← get
  match readChunk c.rest [] 0 true with
  | none => failure
  | some r =>
    ensure (tagged || r.value.valid)
    let stop := c.token.stop + r.size
    set (Cursor.scanFrom r.rest stop stop c.irregular)
    let texts := String.ofList r.value.text :: parts.texts
    if r.value.ends then return some { parts with texts, complete := true }
    let tree ← expression g ctx.withIn
    ensure (← atSign "\x7d")
    return some { texts, expressions := tree :: parts.expressions, complete := false }

def template (g : Grammar) (ctx : Context) (tagged : Bool) : Parser Tree := do
  let start ← start
  let parts ← iterate (templatePart g ctx tagged) {}
  ensure parts.complete
  build (.template parts.texts.reverse) start parts.expressions.reverse

/-- Arguments in parentheses, and whether a comma stands before the closing one. -/
def arguments (g : Grammar) (ctx : Context) : Parser (List Tree × Bool) := do
  expect "("
  separated ")" do
    let start ← start
    if ← accept "..." then
      let value ← g.assignment ctx.withIn
      build .spread start [value]
    else g.assignment ctx.withIn

/-- The body of an arrow function, from its arrow on. -/
def arrow (g : Grammar) (ctx : Context) (start : Nat) (async : Bool) (parameters : List Tree) :
    Parser Tree := do
  expect "=>"
  let inner := ctx.arrowBody async
  let body ← if ← atSign "\x7b" then block g inner else g.assignment inner
  build .arrow start (parameters ++ [body])

/-- What stands in parentheses: the parameters of an arrow function, an expression, or, after the
word `async`, the arguments of a call. -/
def parenthesized (g : Grammar) (ctx : Context) (arrowAllowed : Bool) (callee : Option Tree) :
    Parser Tree := do
  let opening ← start
  let start := (callee.map fun tree => tree.span.start).getD opening
  let (items, trailing) ← arguments g ctx
  let t ← token
  if t.lexeme = .sign "=>" then
    ensure (arrowAllowed && !t.afterNewline)
    require (Tree.declarableAll items)
    markWhen (trailing && (items.getLast?.any fun tree => tree.form = .spread))
    arrow g ctx start callee.isSome items
  else
    match callee with
    | some tree => build .call start (tree :: items)
    | none =>
      ensure (!items.isEmpty && !trailing && items.all fun tree => tree.form ≠ .spread)
      match items with
      | [tree] => build .paren start [tree]
      | items =>
        let span : Span :=
          ⟨(items.head?.map fun t => t.span.start).getD start,
           (items.getLast?.map fun t => t.span.stop).getD start⟩
        build .paren start [.node .sequence span items]

/-- An expression that starts with a name. -/
def named (g : Grammar) (ctx : Context) (arrowAllowed : Bool) : Parser Tree := do
  let t ← token
  let next ← following
  if t.lexeme = .word "async" false && !next.afterNewline then
    if next.lexeme = .word "function" false then
      advance
      return ← function g ctx t.start true false
    if arrowAllowed && next.lexeme = .sign "(" then
      let callee ← name
      return ← parenthesized g ctx arrowAllowed (some callee)
    if arrowAllowed && next.lexeme.isName then
      advance
      let parameter ← bindingName
      return ← arrow g ctx t.start true [parameter]
  let tree ← name
  let t ← token
  if arrowAllowed && t.lexeme = .sign "=>" && !t.afterNewline then
    require tree.declarable
    arrow g ctx tree.span.start false [tree]
  else return tree

/-- The elements of an array literal; a place left out has none. -/
def arrayItem (g : Grammar) (ctx : Context) : Parser (List Tree) := do
  let start ← start
  if ← atSign "," then return []
  if ← accept "..." then
    let value ← g.assignment ctx.withIn
    return [← build .spread start [value]]
  return [← g.assignment ctx.withIn]

def array (g : Grammar) (ctx : Context) : Parser Tree := do
  let start ← start
  expect "["
  let (items, _) ← separated "]" (arrayItem g ctx)
  build .array start items.flatten

def primary (g : Grammar) (ctx : Context) (arrowAllowed : Bool) : Parser Tree := do
  let t ← token
  match t.lexeme with
  | .string value => literalAt (.string value)
  | .number => literalAt .literal
  | .privateWord =>
    ensure ((← following).lexeme = .word "in" false)
    literalAt .other
  | .sign "/" => regex 1
  | .sign "/=" => regex 2
  | .sign "`" => template g ctx false
  | .sign "(" => parenthesized g ctx arrowAllowed none
  | .sign "[" => array g ctx
  | .sign "\x7b" => object g ctx
  | .word "this" false => literalAt .this
  | .word "null" false | .word "true" false | .word "false" false => literalAt .literal
  | .word "function" false => function g ctx t.start false false
  | .word "class" false => classFrom g ctx t.start false
  | .word _ _ => named g ctx arrowAllowed
  | _ => failure

/-! ### Members and calls -/

/-- The form of something applied to a tree: on an optional chain it is part of the chain. -/
def onChain (tree : Tree) (form : Form) : Form := if tree.form = .optional then .optional else form

/-- A member by name, from after the point on. -/
def namedMember (tree : Tree) (optional : Bool) : Parser Tree := do
  let start := tree.span.start
  if (← token).lexeme = .privateWord then
    advance
    build (if optional then .optional else onChain tree .privateMember) start [tree]
  else
    let property ← anyWord
    let form := if tree.form = .superKeyword then .superMember else .member property
    build (if optional then .optional else onChain tree form) start
      (if tree.form = .superKeyword then [] else [tree])

/-- A member by a key in brackets. -/
def indexedMember (g : Grammar) (ctx : Context) (tree : Tree) (optional : Bool) : Parser Tree := do
  expect "["
  let key ← expression g ctx.withIn
  expect "]"
  if tree.form = .superKeyword then build .superMember tree.span.start [key]
  else build (if optional then .optional else onChain tree .index) tree.span.start [tree, key]

/-- One more member, call or template applied to a tree. -/
def subscript (g : Grammar) (ctx : Context) (calls : Bool) (tree : Tree) :
    Parser (Option Tree) := do
  let start := tree.span.start
  let isSuper := tree.form = .superKeyword
  let isImport := tree.form = .importKeyword
  match (← token).lexeme with
  | .sign "?." =>
    ensure (!isSuper && !isImport)
    advance
    if ← atSign "[" then return some (← indexedMember g ctx tree true)
    if ← atSign "(" then
      let (items, _) ← arguments g ctx
      return some (← build .optional start (tree :: items))
    return some (← namedMember tree true)
  | .sign "." =>
    ensure (!isImport && (!isSuper || ctx.superAllowed))
    advance
    return some (← namedMember tree false)
  | .sign "[" =>
    ensure (!isImport && (!isSuper || ctx.superAllowed))
    return some (← indexedMember g ctx tree false)
  | .sign "(" =>
    if calls then
      let (items, _) ← arguments g ctx
      return some (← build (onChain tree .call) start (tree :: items))
    else return none
  | .sign "`" =>
    ensure (!isSuper && !isImport)
    markWhen (tree.form = .optional)
    let text ← template g ctx true
    return some (← build .tagged start [tree, text])
  | _ => return none

/-- Members, calls and templates applied to a tree. Something must be applied to the words `super`
and `import`. -/
def subscripts (g : Grammar) (ctx : Context) (calls : Bool) (tree : Tree) : Parser Tree := do
  let result ← iterate (subscript g ctx calls) tree
  ensure (result.form ≠ .superKeyword && result.form ≠ .importKeyword)
  return result

/-- An expression that starts with the word `import`, from that word on. -/
def importExpression (start : Nat) : Parser Tree := do
  expectWord "import"
  if ← accept "." then
    match ← anyWord with
    | "meta" => build .metaProperty start []
    | "defer" | "source" => build .importKeyword start []
    | _ => failure
  else build .importKeyword start []

/-- A construction, from the word `new` on. -/
def construct (g : Grammar) (ctx : Context) (start : Nat) : Parser Tree := do
  expectWord "new"
  if ← accept "." then
    ensure ((← anyWord) = "target")
    markWhen (!ctx.newTargetAllowed)
    build .metaProperty start []
  else
    let callee ← g.operand ctx
    ensure (callee.form ≠ .optional)
    if ← atSign "(" then
      let (items, _) ← arguments g ctx
      build .construct start (callee :: items)
    else build .construct start [callee]

/-- An expression before any call on it: what `new` can be applied to. -/
def operand (g : Grammar) (ctx : Context) (arrowAllowed : Bool) : Parser Tree := do
  let start ← start
  if ← atWord "new" then subscripts g ctx false (← construct g ctx start)
  else if ← acceptWord "super" then subscripts g ctx false (← build .superKeyword start [])
  else if ← atWord "import" then subscripts g ctx false (← importExpression start)
  else
    let tree ← primary g ctx arrowAllowed
    if tree.isArrow then return tree
    subscripts g ctx false tree

def leftHandSide (g : Grammar) (ctx : Context) (arrowAllowed : Bool) : Parser Tree := do
  let start ← start
  if ← acceptWord "super" then subscripts g ctx true (← build .superKeyword start [])
  else if ← atWord "import" then subscripts g ctx true (← importExpression start)
  else
    let tree ← operand g ctx arrowAllowed
    if tree.isArrow then return tree
    subscripts g ctx true tree

/-! ### Operators -/

/-- The word `await` as a name, where nothing follows that it could wait for. -/
def atLoneAwait (ctx : Context) : Parser Bool := do
  let ends := (← atEnd) || (← atSign ")") || (← atSign "]") || (← atSign ",")
  return ends && !ctx.async

def awaitExpression (g : Grammar) (ctx : Context) : Parser Tree := do
  let start ← start
  expectWord "await"
  if ← atLoneAwait ctx then
    mark
    build (.name "await") start []
  else
    markWhen (ctx.inFunction && !ctx.async)
    let value ← g.unary ctx
    build .await start [value]

def isUnarySign (sign : String) : Bool := ["+", "-", "~", "!"].contains sign

def isUnaryWord (word : String) : Bool := ["delete", "void", "typeof"].contains word

def isStepSign (sign : String) : Bool := sign = "++" || sign = "--"

/-- A unary operator and what it is applied to. -/
def unaryOperation (g : Grammar) (ctx : Context) (deletes : Bool) : Parser Tree := do
  let start ← start
  advance
  let value ← g.unary ctx
  markWhen (deletes && (value.form matches .name _))
  build .unary start [value]

/-- An expression, and the sign that may step it afterwards on the same line. -/
def postfixed (g : Grammar) (ctx : Context) (arrowAllowed : Bool) : Parser Tree := do
  let tree ← leftHandSide g ctx arrowAllowed
  if tree.isArrow then return tree
  let t ← token
  match t.lexeme with
  | .sign sign =>
    if isStepSign sign && !t.afterNewline then
      markWhen (!tree.isSimpleTarget)
      advance
      build .update tree.span.start [tree]
    else return tree
  | _ => return tree

def unary (g : Grammar) (ctx : Context) (arrowAllowed : Bool) : Parser Tree := do
  let t ← token
  match t.lexeme with
  | .sign sign =>
    if isUnarySign sign then unaryOperation g ctx false
    else if isStepSign sign then
      advance
      let value ← g.unary ctx
      markWhen (!value.isSimpleTarget)
      build .update t.start [value]
    else postfixed g ctx arrowAllowed
  | .word word false =>
    if isUnaryWord word then unaryOperation g ctx (word = "delete")
    else if word = "await" then awaitExpression g ctx
    else postfixed g ctx arrowAllowed
  | _ => postfixed g ctx arrowAllowed

/-- Powers bind to the right, and a unary operator may not stand before one. -/
def power (g : Grammar) (ctx : Context) (arrowAllowed : Bool) : Parser Tree := do
  let base ← unary g ctx arrowAllowed
  if base.isArrow then return base
  let exponents ← collect do
    if ← accept "**" then return some (← unary g ctx false)
    return none
  let operands := base :: exponents
  ensure (operands.dropLast.all fun tree => tree.form ≠ .unary && tree.form ≠ .await)
  match operands.reverse with
  | [] => failure
  | last :: rest =>
    return rest.foldl (fun right left =>
      .node (.binary "**") ⟨left.span.start, right.span.stop⟩ [left, right]) last

/-- Binary operators, those that bind loosest first. -/
def binaryLevels : List (List String) :=
  [["??", "||"], ["&&"], ["|"], ["^"], ["&"], ["==", "!=", "===", "!=="],
   ["<", ">", "<=", ">=", "instanceof", "in"], ["<<", ">>", ">>>"], ["+", "-"], ["*", "/", "%"]]

/-- The operator at the current token, if it is one of some. -/
def operatorAt (ctx : Context) (operators : List String) : Parser (Option String) := do
  match (← token).lexeme with
  | .sign sign => return if operators.contains sign then some sign else none
  | .word word false =>
    let known := operators.contains word && (word ≠ "in" || ctx.includeIn)
    return if known then some word else none
  | _ => return none

/-- Whether a tree is a choice between values by one operator that may not stand beside another
without parentheses. -/
def mixes (operator : String) (tree : Tree) : Bool :=
  match tree.form with
  | .binary inner =>
    if operator = "??" then inner = "||" || inner = "&&"
    else (operator = "||" || operator = "&&") && inner = "??"
  | _ => false

def binary (g : Grammar) (ctx : Context) (arrowAllowed : Bool) : List (List String) → Parser Tree
  | [] => power g ctx arrowAllowed
  | operators :: tighter => do
    let first ← binary g ctx arrowAllowed tighter
    if first.isArrow then return first
    iterate (fun left => do
      match ← operatorAt ctx operators with
      | none => return none
      | some operator =>
        advance
        let right ← binary g ctx false tighter
        markWhen (mixes operator left || mixes operator right)
        return some (← build (.binary operator) left.span.start [left, right])) first

def conditional (g : Grammar) (ctx : Context) (arrowAllowed : Bool) : Parser Tree := do
  let test ← binary g ctx arrowAllowed binaryLevels
  if test.isArrow then return test
  if ← accept "?" then
    let yes ← g.assignment ctx.withIn
    expect ":"
    let no ← g.assignment ctx
    build .conditional test.span.start [test, yes, no]
  else return test

/-! ### Assignments -/

def assignmentSigns : List String :=
  ["=", "+=", "-=", "*=", "/=", "%=", "**=", "<<=", ">>=", ">>>=", "&=", "|=", "^=", "&&=", "||=",
   "??="]

/-- Whether an expression may follow the word `yield`. -/
def atExpression : Parser Bool := do
  let t ← token
  match t.lexeme with
  | .sign sign =>
    return ["(", "[", "\x7b", "+", "-", "!", "~", "++", "--", "`", "/", "/=", "*"].contains sign
  | .word word false => return !isReserved word ||
      ["this", "null", "true", "false", "function", "class", "new", "super", "import", "delete",
       "void", "typeof", "await", "yield"].contains word
  | .word _ true | .string _ | .number | .privateWord => return true
  | _ => return false

def yieldExpression (g : Grammar) (ctx : Context) : Parser Tree := do
  let start ← start
  expectWord "yield"
  if (← token).afterNewline || !(← atExpression) then build .yield start []
  else
    let _ ← accept "*"
    let value ← g.assignment ctx
    build .yield start [value]

/-- An assignment, from after its left side on. -/
def assign (g : Grammar) (ctx : Context) (target : Tree) : Parser Tree := do
  match (← token).lexeme with
  | .sign sign =>
    if !assignmentSigns.contains sign then return target
    if sign = "=" then require target.assignable
    else
      ensure (target.form ≠ .array && target.form ≠ .object)
      require target.assignable
    advance
    let value ← g.assignment ctx
    build (.assign sign) target.span.start [target, value]
  | _ => return target

def assignment (g : Grammar) (ctx : Context) : Parser Tree := do
  if ctx.generator && (← atWord "yield") then return ← yieldExpression g ctx
  let tree ← conditional g ctx true
  match tree.form with
  | .arrow | .conditional | .binary _ | .unary | .update => return tree
  | _ => assign g ctx tree

end PackageVet.JavaScript.Parser
