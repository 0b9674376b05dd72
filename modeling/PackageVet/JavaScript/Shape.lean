import PackageVet.JavaScript.Source
import PackageVet.Text.Word

/-! The shape of a call.

Code that is read without anything irregular has the shape of its first statement. Of other code,
which is often a call cut off in the middle, only the beginning is looked at. -/
namespace PackageVet.JavaScript

inductive CallShape where
  /-- A member by a computed key is called. -/
  | subscript
  /-- A name is called. -/
  | bare (name : String)
  /-- A member of the value of a call, in code that is not read. -/
  | partialMemberCall (call property : String)
  /-- A member of a name, in code that is not read. -/
  | partialMember (object property : String)
  /-- A member of a required module is called. -/
  | requireMember (module_ property : String)
  /-- A member of a name is called. -/
  | member (object property : String)
  /-- A member of the value of a call of a member of a name is called. -/
  | chainedCall (object inner outer : String)
  /-- A member of a member of a name is called. -/
  | nestedMember (object inner outer : String)
  | other
  deriving DecidableEq, Repr

namespace CallShape

/-- The shape of a call of a member of the value of another call. -/
def ofInnerCall (parts : List Tree) (property : String) : CallShape :=
  match parts with
  | callee :: arguments =>
    if callee.form = .name "require" then
      let first := arguments.head?.map fun t => if t.form = .spread then t.parts else [t]
      match first with
      | some [.node (.string value) _ _] => .requireMember value property
      | _ => .other
    else match callee.nameMember? with
      | some (object, inner) => .chainedCall object inner property
      | none => .other
  | [] => .other

/-- The shape of a call of a member of an object. -/
def ofMember (object : Tree) (property : String) : CallShape :=
  match object.form with
  | .name name => .member name property
  | .call => ofInnerCall object.parts property
  | _ =>
    match object.nameMember? with
    | some (name, inner) => .nestedMember name inner property
    | none => .other

/-- The shape of a call by what is called. -/
def ofCallee (callee : Tree) : CallShape :=
  match callee.form, callee.parts with
  | .name name, _ => .bare name
  | .index, _ => .subscript
  | .member property, [object] => ofMember object property
  | _, _ => .other

/-- The shape of the first statement of a text. -/
def ofTree (tree : Tree) : CallShape :=
  match tree.parts with
  | .node .expressionStatement _ [.node .call _ (callee :: _)] :: _ => ofCallee callee
  | _ => .other

/-! ### Code that is not read -/

def isPlainStart (c : Char) : Bool := c.isAlpha || c = '_' || c = '$'

def isPlainPart (c : Char) : Bool := Text.isWord c || c = '$'

/-- A name at the start of a text, and what follows it. -/
def plainName? : List Char → Option (List Char × List Char)
  | c :: rest =>
    if isPlainStart c then some (c :: rest.takeWhile isPlainPart, rest.dropWhile isPlainPart)
    else none
  | [] => none

/-- A point and a name, with blanks before each of them. -/
def pointName? (cs : List Char) : Option (List Char) :=
  match Text.trimLeft cs with
  | '.' :: rest => (plainName? (Text.trimLeft rest)).map Prod.fst
  | _ => none

/-- Arguments in parentheses, with none inside them, and what follows. -/
def plainArguments? (cs : List Char) : Option (List Char × List Char) :=
  match cs with
  | '(' :: rest =>
    let inner := rest.takeWhile fun c => c ≠ '(' && c ≠ ')'
    match rest.drop inner.length with
    | ')' :: after => some ('(' :: inner ++ [')'], after)
    | _ => none
  | _ => none

/-- The shape of a member of the value of a plain call at the start of a text. -/
def partialCall? (cs : List Char) : Option CallShape := do
  let (name, rest) ← plainName? (Text.trimLeft cs)
  let blanks := rest.takeWhile Text.isBlank
  let (arguments, after) ← plainArguments? (rest.drop blanks.length)
  let property ← pointName? after
  return .partialMemberCall (String.ofList (name ++ blanks ++ arguments)) (String.ofList property)

/-- The shape of a member of a name at the start of a text. -/
def partialName? (cs : List Char) : Option CallShape := do
  let (name, rest) ← plainName? (Text.trimLeft cs)
  let property ← pointName? rest
  return .partialMember (String.ofList name) (String.ofList property)

def ofFragment (cs : List Char) : CallShape :=
  ((partialCall? cs).orElse fun _ => partialName? cs).getD .other

/-- The shape of a piece of code. -/
def ofCode (code : String) : CallShape :=
  match (Source.ofText code).cleanTree? with
  | some tree => ofTree tree
  | none => ofFragment code.toList

end CallShape

end PackageVet.JavaScript
