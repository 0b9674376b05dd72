import PackageVet.JavaScript.Statement

/-! Modules: statements, imports and exports at the top level, and the reading of a whole text. -/
namespace PackageVet.JavaScript

namespace Parser

/-! ### Imports -/

/-- The text that names a module. -/
def source : Parser Tree := do
  match (← token).lexeme with
  | .string value => literalAt (.string value)
  | _ => failure

/-- A name under which a module exports something. -/
def exportedName : Parser Tree := do
  let t ← token
  match t.lexeme with
  | .string value => literalAt (.string value)
  | .word text _ =>
    advance
    build (.name text) t.start []
  | _ => failure

/-- One imported name: the local name, then the one it is exported under if that is another. -/
def importSpecifier : Parser (List Tree) := do
  let t ← token
  let imported ← exportedName
  if ← acceptWord "as" then
    let here ← bindingName
    return [here, imported]
  ensure t.lexeme.isName
  match imported.form with
  | .name text => markWhen (isRestricted text)
  | _ => pure ⟨⟩
  return [imported]

/-- The names that an import brings in besides the default one. -/
def importedNames : Parser (List Tree) := do
  if ← accept "*" then
    expectWord "as"
    return [← bindingName]
  else if ← accept "\x7b" then
    let (specifiers, _) ← separated "\x7d" importSpecifier
    return specifiers.flatten
  else return []

def importDeclaration : Parser Tree := do
  let start ← start
  expectWord "import"
  if (← token).lexeme matches .string _ then
    let source ← source
    expectEnd
    build .other start [source]
  else
    let first ← if (← token).lexeme.isName then do
        let here ← bindingName
        if !(← atWord "from") then expect ","
        pure [here]
      else pure []
    let names ← importedNames
    expectWord "from"
    let source ← source
    expectEnd
    build .other start (first ++ names ++ [source])

/-! ### Exports -/

/-- One exported name: the local name, then the one it is exported under if that is another. The
flag says whether the local name may be a name of this module. -/
def exportSpecifier : Parser (List Tree × Bool) := do
  let t ← token
  let here ← exportedName
  let names ← if ← acceptWord "as" then pure [here, ← exportedName] else pure [here]
  return (names, t.lexeme.isName)

/-- The module that exported names come from, if it is given. -/
def exportSource : Parser (List Tree) := do
  if ← acceptWord "from" then return [← source]
  return []

def exportNames (start : Nat) : Parser Tree := do
  expect "\x7b"
  let (specifiers, _) ← separated "\x7d" exportSpecifier
  let origin ← exportSource
  ensure (!origin.isEmpty || specifiers.all Prod.snd)
  expectEnd
  build .other start ((specifiers.map Prod.fst).flatten ++ origin)

def exportAll (start : Nat) : Parser Tree := do
  expect "*"
  let name ← if ← acceptWord "as" then pure [← exportedName] else pure []
  expectWord "from"
  let source ← source
  expectEnd
  build .other start (name ++ [source])

def exportDefault (g : Grammar) (start : Nat) : Parser Tree := do
  expectWord "default"
  let t ← token
  let next ← following
  if t.lexeme = .word "class" false then
    build .other start [← classFrom g {} t.start false]
  else if t.lexeme = .word "function" false then
    build .other start [← function g {} t.start false false]
  else if t.lexeme = .word "async" false && next.lexeme = .word "function" false
      && !next.afterNewline then
    advance
    build .other start [← function g {} t.start true false]
  else
    let tree ← g.assignment {}
    expectEnd
    build .other start [tree]

def isDeclarationStart (t next : Token) : Bool :=
  match t.lexeme with
  | .word word false =>
    ["class", "function", "var", "const", "let"].contains word
      || word = "async" && next.lexeme = .word "function" false && !next.afterNewline
  | _ => false

def exportDeclaration (g : Grammar) : Parser Tree := do
  let start ← start
  expectWord "export"
  if ← atWord "default" then exportDefault g start
  else if ← atSign "*" then exportAll start
  else if ← atSign "\x7b" then exportNames start
  else
    ensure (isDeclarationStart (← token) (← following))
    let declared ← g.statement {} true
    build .other start [declared]

/-! ### The whole text -/

def moduleItem (g : Grammar) : Parser Tree := do
  if ← atWord "export" then exportDeclaration g
  else if (← atWord "import") && !(← atImportExpression) then importDeclaration
  else g.statement {} true

/-- The items of a module up to the end of the text. -/
def moduleBody (g : Grammar) : Parser Tree := do
  let start ← start
  let items ← collect do
    if (← token).lexeme = .ending then return none
    return some (← moduleItem g)
  build .statements start items

end Parser

/-- The grammar of code nested at most so deep. -/
def grammar : Nat → Grammar
  | 0 => .none
  | depth + 1 =>
    { assignment := fun ctx c => Parser.assignment (grammar depth) ctx c
      unary := fun ctx c => Parser.unary (grammar depth) ctx false c
      operand := fun ctx c => Parser.operand (grammar depth) ctx false c
      leftHandSide := fun ctx c => Parser.leftHandSide (grammar depth) ctx false c
      statement := fun ctx declares c => Parser.statement (grammar depth) ctx declares c
      pattern := fun ctx c => Parser.pattern (grammar depth) ctx c }

/-- A tree read from a text, and whether something in it is irregular. -/
structure Reading where
  tree : Tree
  irregular : Bool

/-- The text from a first line that tells a shell what to run it with, and its size. -/
def skipHashbang (cs : List Char) : List Char × Nat :=
  match cs with
  | '#' :: '!' :: _ =>
    let line := cs.takeWhile fun c => !isLineEnd c
    (cs.drop line.length, line.foldl (fun n c => n + c.utf8Size) 0)
  | cs => (cs, 0)

/-- Reads a text as a module; a mark of the byte order at its start is not part of it. -/
def read (cs : List Char) : Option Reading :=
  let text := match cs with
    | c :: rest => if c.toNat = 0xfeff then rest else cs
    | [] => []
  let (body, offset) := skipHashbang text
  let depth := 4 * (body.length + 2)
  (Parser.moduleBody (grammar depth) (Cursor.ofText body offset)).map fun (tree, c) =>
    ⟨tree, c.irregular⟩

end PackageVet.JavaScript
