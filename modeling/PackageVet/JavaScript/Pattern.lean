import PackageVet.JavaScript.Parser

/-! Patterns: what can be assigned and what can be declared.

On the left of an assignment, and between the parentheses of an arrow function, a pattern is first
read as an expression and then checked. A check gives nothing for code that is no pattern, and
otherwise whether the pattern is irregular. -/
namespace PackageVet.JavaScript

/-- Both checks hold; the whole is irregular if one part is. -/
def bothChecks (a b : Option Bool) : Option Bool := a.bind fun x => b.map fun y => x || y

namespace Tree

mutual

/-- Whether a value can be assigned to an expression. -/
def assignable : Tree → Option Bool
  | .node form _ parts =>
    match form with
    | .name text => some (isRestricted text)
    | .member _ | .privateMember | .index | .superMember => some false
    | .optional => some true
    | .paren => assignableInner parts
    | .array | .object | .shorthand => assignableAll parts
    | .shorthandDefault => some false
    | .property => assignableLast parts
    | .spread => assignableLast parts
    | .assign operator => if operator = "=" then some false else none
    | _ => none

/-- The same for what stands in parentheses, where no pattern may stand. -/
def assignableInner : List Tree → Option Bool
  | [.node form span parts] =>
    if form = .array || form = .object then none else assignable (.node form span parts)
  | _ => none

/-- The same for the last of some parts. -/
def assignableLast : List Tree → Option Bool
  | [] => none
  | [tree] => tree.assignable
  | _ :: rest => assignableLast rest

/-- The same for every element of a pattern; what takes the rest comes last. -/
def assignableAll : List Tree → Option Bool
  | [] => some false
  | tree :: rest =>
    if tree.form = .spread && !rest.isEmpty then none
    else bothChecks tree.assignable (assignableAll rest)

end

mutual

/-- Whether an expression reads as a declared pattern. -/
def declarable : Tree → Option Bool
  | .node form _ parts =>
    match form with
    | .name text => some (isRestricted text)
    | .array | .object | .shorthand => declarableAll parts
    | .shorthandDefault => declarableFirst parts
    | .property => declarableLast parts
    | .spread => declarableLast parts
    | .assign operator => if operator = "=" then declarableFirst parts else none
    | _ => none

def declarableFirst : List Tree → Option Bool
  | [] => none
  | tree :: _ => tree.declarable

def declarableLast : List Tree → Option Bool
  | [] => none
  | [tree] => tree.declarable
  | _ :: rest => declarableLast rest

def declarableAll : List Tree → Option Bool
  | [] => some false
  | tree :: rest =>
    if tree.form = .spread && !rest.isEmpty then none
    else bothChecks tree.declarable (declarableAll rest)

end

/-- Whether an operator may change the value of an expression in place. -/
def isSimpleTarget : Tree → Bool
  | .node form _ parts =>
    match form with
    | .name text => !isRestricted text
    | .member _ | .privateMember | .index | .superMember => true
    | .paren =>
      match parts with
      | [inner] => inner.isSimpleTarget
      | _ => false
    | _ => false

end Tree

namespace Parser

/-- Fails without a check, and marks code that the check found irregular. -/
def require (check : Option Bool) : Parser PUnit :=
  match check with
  | none => failure
  | some irregular => markWhen irregular

/-- A pattern and the default that may follow it. -/
def bindingElement (g : Grammar) (ctx : Context) : Parser Tree := do
  let start ← start
  let pattern ← g.pattern ctx
  if ← accept "=" then
    let value ← g.assignment ctx.withIn
    build (.assign "=") start [pattern, value]
  else return pattern

/-- The name of a property: the parts of a computed one, and the word if it is one. -/
structure Key where
  start : Nat
  parts : List Tree
  word : Option String
  span : Span

/-- A word, a string, a number or a computed name. -/
def key (g : Grammar) (ctx : Context) : Parser Key := do
  let t ← token
  match t.lexeme with
  | .word text _ =>
    advance
    return ⟨t.start, [], some text, ← spanFrom t.start⟩
  | .string _ | .number =>
    advance
    return ⟨t.start, [], none, ← spanFrom t.start⟩
  | .sign "[" =>
    advance
    let tree ← g.assignment ctx.withIn
    expect "]"
    return ⟨t.start, [tree], none, ← spanFrom t.start⟩
  | _ => failure

/-- One property of a declared pattern. -/
def bindingProperty (g : Grammar) (ctx : Context) : Parser Tree := do
  let start ← start
  if ← accept "..." then
    let rest ← g.pattern ctx
    build .spread start [rest]
  else
    let key ← key g ctx
    if ← accept ":" then
      let value ← bindingElement g ctx
      build .property start (key.parts ++ [value])
    else
      match key.word with
      | none => failure
      | some word =>
        markWhen (isReserved word || isRestricted word)
        let name : Tree := .node (.name word) key.span []
        if ← accept "=" then
          let value ← g.assignment ctx.withIn
          build .shorthandDefault start [name, value]
        else build .shorthand start [name]

/-- One element of a declared list pattern; a place left out has none. -/
def bindingItem (g : Grammar) (ctx : Context) : Parser (List Tree) := do
  let start ← start
  if ← atSign "," then return []
  if ← accept "..." then
    let rest ← g.pattern ctx
    return [← build .spread start [rest]]
  return [← bindingElement g ctx]

/-- Items with commas between them up to a closing sign, which is taken. The flag says whether a
comma stands before it. -/
def separated {α : Type} (closing : String) (item : Parser α) : Parser (List α × Bool) := do
  let items ← collect do
    if ← atSign closing then return none
    let a ← item
    if ← atSign closing then return some (a, false)
    expect ","
    return some (a, true)
  expect closing
  return (items.map Prod.fst, (items.getLast?.map Prod.snd).getD false)

/-- A name or a pattern that is declared. -/
def pattern (g : Grammar) (ctx : Context) : Parser Tree := do
  let start ← start
  if ← accept "[" then
    let (items, _) ← separated "]" (bindingItem g ctx)
    build .array start items.flatten
  else if ← accept "\x7b" then
    let (items, _) ← separated "\x7d" (bindingProperty g ctx)
    build .object start items
  else bindingName

/-- The parameters of a function, with their parentheses. -/
def parameters (g : Grammar) (ctx : Context) : Parser (List Tree) := do
  expect "("
  let (items, trailing) ← separated ")" do
    let start ← start
    if ← accept "..." then
      let rest ← g.pattern ctx
      build .spread start [rest]
    else bindingElement g ctx
  ensure (items.dropLast.all fun tree => tree.form ≠ .spread)
  markWhen (trailing && (items.getLast?.any fun tree => tree.form = .spread))
  return items

end Parser

end PackageVet.JavaScript
