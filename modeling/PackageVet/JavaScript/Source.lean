import PackageVet.JavaScript.Module

/-! Questions about a piece of JavaScript.

Places in a source are given as a line, counted from one, and a column, counted in characters from
nought; inside they are offsets in bytes. Lines end at line feeds only. -/
namespace PackageVet.JavaScript

structure Source where
  text : List Char
  reading : Option Reading

namespace Source

def ofText (text : String) : Source := { text := text.toList, reading := read text.toList }

def tree? (s : Source) : Option Tree := s.reading.map Reading.tree

/-- What was read, if there was nothing irregular in it. -/
def cleanTree? (s : Source) : Option Tree :=
  (s.reading.filter fun r => !r.irregular).map Reading.tree

/-! ### Places -/

/-- The offset of a line and the text from there on, so many lines further. -/
def dropLines : Nat → Nat → List Char → Option (Nat × List Char)
  | 0, offset, cs => some (offset, cs)
  | _ + 1, _, [] => none
  | n + 1, offset, c :: rest =>
    if c = '\n' then dropLines n (offset + 1) rest
    else dropLines (n + 1) (offset + c.utf8Size) rest

/-- The offset of a column in a line; the end of the line has one too. -/
def dropColumns : Nat → Nat → List Char → Option Nat
  | 0, offset, _ => some offset
  | _ + 1, _, [] => none
  | n + 1, offset, c :: rest =>
    if c = '\n' then none else dropColumns n (offset + c.utf8Size) rest

/-- The offset of a place. -/
def offset? (text : List Char) (line column : Nat) : Option Nat :=
  if line = 0 then none
  else (dropLines (line - 1) 0 text).bind fun (offset, rest) => dropColumns column offset rest

/-- The place of an offset, from a place on. An offset inside a character or after the end is put
at the start of its line. -/
def positionFrom (offset : Nat) : Nat → Nat → Nat → List Char → Nat × Nat
  | here, line, column, cs =>
    if here = offset then (line, column)
    else if offset < here then (line, 0)
    else match cs with
      | [] => (line, 0)
      | c :: rest =>
        if c = '\n' then positionFrom offset (here + 1) (line + 1) 0 rest
        else positionFrom offset (here + c.utf8Size) line (column + 1) rest

/-- The place of an offset. -/
def position (text : List Char) (offset : Nat) : Nat × Nat := positionFrom offset 0 1 0 text

/-- The text from an offset on, if it is one between characters. -/
def dropBytes : Nat → List Char → Option (List Char)
  | 0, cs => some cs
  | _ + 1, [] => none
  | n + 1, c :: rest => if c.utf8Size ≤ n + 1 then dropBytes (n + 1 - c.utf8Size) rest else none

/-- So many bytes of a text, if they end between characters. -/
def takeBytes : Nat → List Char → Option (List Char)
  | 0, _ => some []
  | _ + 1, [] => none
  | n + 1, c :: rest =>
    if c.utf8Size ≤ n + 1 then (takeBytes (n + 1 - c.utf8Size) rest).map (c :: ·) else none

/-- The text of a span; nothing where the span cuts a character. -/
def slice (text : List Char) (span : Span) : String :=
  String.ofList (((dropBytes span.start text).bind (takeBytes (span.stop - span.start))).getD [])

/-! ### Arguments of calls -/

/-- One argument of a call. -/
inductive Argument where
  | literal (text : String)
  /-- The code of an expression whose value is only known when it runs. -/
  | dynamic (code : String)
  deriving DecidableEq, Repr

/-- An argument; a function is none. -/
def argument? (text : List Char) (tree : Tree) : Option Argument :=
  match tree.form, tree.parts with
  | .spread, [value] => some (.dynamic (slice text value.span))
  | .string value, _ => some (.literal value)
  | .template texts, [] => some (.literal (String.join texts))
  | .arrow, _ | .function, _ => none
  | _, _ => some (.dynamic (slice text tree.span))

/-- The arguments of the outermost call or construction that starts at a place. -/
def callArguments? (s : Source) (line column : Nat) : Option (List Argument) := do
  let tree ← s.tree?
  let target ← offset? s.text line column
  let call ← tree.preorder.find? fun t =>
    (t.form = .call || t.form = .construct) && t.span.start = target
  return call.parts.tail.filterMap (argument? s.text)

/-- The start of the innermost statement of a list around a place: statements can be put in
there. -/
def statementStart? (s : Source) (line column : Nat) : Option (Nat × Nat) := do
  let tree ← s.tree?
  let target ← offset? s.text line column
  let statement ← (tree.listedStatements.filter fun t => t.span.contains target).getLast?
  return position s.text statement.span.start

end Source

/-! ### Names and literals -/

namespace Tree

/-- The text of a non-empty string, also of one that is spread. -/
def string? (tree : Tree) : Option String :=
  let plain (t : Tree) : Option String :=
    match t.form with
    | .string value => if value = "" then none else some value
    | _ => none
  match tree.form, tree.parts with
  | .spread, [value] => plain value
  | _, _ => plain tree

def name? (tree : Tree) : Option String :=
  match tree.form with
  | .name text => some text
  | _ => none

/-- A name and the name of a member of what it stands for. -/
def nameMember? (tree : Tree) : Option (String × String) :=
  match tree.form, tree.parts with
  | .member property, [object] => object.name?.map fun name => (name, property)
  | _, _ => none

end Tree

/-- The first non-empty string that is an argument of a call in a piece of code. -/
def firstCallString? (code : String) : Option String := do
  let tree ← (Source.ofText code).tree?
  (tree.preorder.filter fun t => t.form = .call).findSome? fun call =>
    call.parts.tail.findSome? Tree.string?

/-- What a construction constructs. -/
inductive Constructed where
  | name (text : String)
  | member (object property : String)
  deriving DecidableEq, Repr

def constructed? (construction : Tree) : Option Constructed :=
  construction.parts.head?.bind fun callee =>
    match callee.name? with
    | some text => some (.name text)
    | none => callee.nameMember?.map fun (object, property) => .member object property

/-- What a piece of code constructs: the first plain name, or else the first member. -/
def firstConstructed? (code : String) : Option Constructed := do
  let tree ← (Source.ofText code).tree?
  let all := (tree.preorder.filter fun t => t.form = .construct).filterMap constructed?
  (all.find? fun c => c matches .name _).orElse fun _ => all.head?

/-- The identifiers of a piece of code. -/
def identifiers (code : String) : List String :=
  match (Source.ofText code).tree? with
  | some tree => tree.preorder.filterMap Tree.name?
  | none => []

end PackageVet.JavaScript
