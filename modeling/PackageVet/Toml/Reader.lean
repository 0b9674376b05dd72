import PackageVet.Toml.Scalar

/-! Reading TOML.

The entries of a document are put into a tree in which every table remembers how it came about: a
table may be opened by one header only, and dotted keys extend only tables that dotted keys made. -/
namespace PackageVet.Toml

/-! ### Trees -/

mutual

inductive Node where
  | value (value : TomlValue)
  | table (table : Section)
  /-- The tables of a repeated header, the last one first. -/
  | tables (tables : List Section)

/-- A table: whether it was only passed through by a key or header, whether by a dotted key, and
its entries. -/
inductive Section where
  | mk (implied dotted : Bool) (entries : List (String × Node))

end

namespace Section

def entries : Section → List (String × Node)
  | .mk _ _ entries => entries

def implied : Section → Bool
  | .mk implied _ _ => implied

def dotted : Section → Bool
  | .mk _ dotted _ => dotted

def empty : Section := .mk false false []

def get? (t : Section) (key : String) : Option Node := t.entries.lookup key

def setEntries (t : Section) (entries : List (String × Node)) : Section :=
  .mk t.implied t.dotted entries

def put (t : Section) (key : String) (node : Node) : Section :=
  t.setEntries
    (if (t.get? key).isSome then t.entries.map fun e => if e.1 = key then (key, node) else e
     else t.entries ++ [(key, node)])

/-- Changes the table at the end of a path. Tables on the way are made where there are none; on a
dotted path, a table that was opened by a header is not entered. -/
def descend (dotted : Bool) (change : Section → Option Section) :
    List String → Section → Option Section
  | [], t => change t
  | key :: path, t =>
    match t.get? key with
    | none => (descend dotted change path (.mk true dotted [])).map fun s => t.put key (.table s)
    | some (.table inner) =>
      if dotted && !inner.implied then none
      else (descend dotted change path inner).map fun s => t.put key (.table s)
    | some (.tables (last :: rest)) =>
      (descend dotted change path last).map fun s => t.put key (.tables (s :: rest))
    | some (.tables []) | some (.value _) => none

/-- Adds a value under a key that is not there yet. A dotted key adds to a table of dotted keys
only. -/
def addValue (path : List String) (key : String) (value : TomlValue) (t : Section) :
    Option Section :=
  t.descend (!path.isEmpty) (fun t =>
    if t.dotted = path.isEmpty || (t.get? key).isSome then none
    else some (t.put key (.value value))) path

/-- Opens the table of a header: a new one, or one that headers have only passed through. -/
def openTable (path : List String) (key : String) (t : Section) : Option Section :=
  t.descend false (fun t =>
    match t.get? key with
    | none => some (t.put key (.table empty))
    | some (.table inner) =>
      if inner.implied && !inner.dotted then
        some (t.put key (.table (.mk false false inner.entries)))
      else none
    | _ => none) path

/-- Opens one more table of a repeated header. -/
def openNext (path : List String) (key : String) (t : Section) : Option Section :=
  t.descend false (fun t =>
    match t.get? key with
    | none => some (t.put key (.tables [empty]))
    | some (.tables tables) => some (t.put key (.tables (empty :: tables)))
    | _ => none) path

/-- Adds a value to the table that the last header opened. -/
def addUnder (header : List String) (path : List String) (key : String) (value : TomlValue)
    (t : Section) : Option Section :=
  t.descend false (addValue path key value) header

end Section

mutual

def Node.toValue : Node → TomlValue
  | .value v => v
  | .table t => t.toValue
  | .tables ts => .array (Section.toValues ts).reverse

def Section.toValue : Section → TomlValue
  | .mk _ _ entries => .table (Section.entryValues entries)

def Section.toValues : List Section → List TomlValue
  | [] => []
  | t :: rest => t.toValue :: Section.toValues rest

def Section.entryValues : List (String × Node) → List (String × TomlValue)
  | [] => []
  | (key, node) :: rest => (key, node.toValue) :: Section.entryValues rest

end

/-! ### Values -/

/-- The parts before the last one, and the last one. -/
def splitKey? (parts : List String) : Option (List String × String) :=
  parts.getLast?.map fun key => (parts.dropLast, key)

/-- The table written in braces: its entries, with the tables of dotted keys. -/
def inlineTable? (entries : List (List String × TomlValue)) : Option TomlValue :=
  (entries.foldlM (fun (t : Section) (parts, value) =>
    (splitKey? parts).bind fun (path, key) => t.addValue path key value) Section.empty).map
      Section.toValue

/-- The items of an array, from after its opening bracket on, read by `value`. The fuel is a list
at least as long as the text. -/
def itemsFrom (value : List Char → Option (TomlValue × List Char)) :
    List Char → List Char → List TomlValue → Option (List TomlValue × List Char)
  | [], _, _ => none
  | _ :: fuel, cs, taken =>
    match skipBlank cs cs with
    | ']' :: rest => some (taken.reverse, rest)
    | cs =>
      (value cs).bind fun (item, rest) =>
        match skipBlank rest rest with
        | ',' :: rest => itemsFrom value fuel rest (item :: taken)
        | ']' :: rest => some ((item :: taken).reverse, rest)
        | _ => none

/-- The entries of a table in braces, from a key on. -/
def entriesFrom (value : List Char → Option (TomlValue × List Char)) :
    List Char → List Char → List (List String × TomlValue) →
      Option (List (List String × TomlValue) × List Char)
  | [], _, _ => none
  | _ :: fuel, cs, taken =>
    (key? cs).bind fun (parts, rest) =>
      (mark? '=' rest).bind fun rest =>
        (value (skipSpaces rest)).bind fun (v, rest) =>
          match skipSpaces rest with
          | ',' :: rest => entriesFrom value fuel rest ((parts, v) :: taken)
          | '}' :: rest => some (((parts, v) :: taken).reverse, rest)
          | _ => none

/-- A value with others nested in it at most `depth` deep. -/
def value? : Nat → List Char → Option (TomlValue × List Char)
  | depth, cs =>
    match cs, depth with
    | '[' :: rest, depth + 1 =>
      (itemsFrom (value? depth) cs rest []).map fun (items, rest) => (.array items, rest)
    | '{' :: rest, depth + 1 =>
      match skipSpaces rest with
      | '}' :: rest => some (.table [], rest)
      | rest =>
        (entriesFrom (value? depth) cs rest []).bind fun (entries, rest) =>
          (inlineTable? entries).map fun table => (table, rest)
    | '[' :: _, 0 | '{' :: _, 0 => none
    | _, _ => scalar? cs

/-! ### Documents -/

/-- What has been read of a document: the tree, and the header that is open. -/
structure Document where
  root : Section := .empty
  header : List String := []

namespace Document

/-- One entry, and what follows its line. -/
def entry? (d : Document) (cs : List Char) : Option (Document × List Char) := do
  let (parts, rest) ← key? cs
  let (value, rest) ← value? maxDepth (skipSpaces (← mark? '=' rest))
  let rest ← afterLine? rest
  let (path, key) ← splitKey? parts
  return ({ d with root := ← d.root.addUnder d.header path key value }, rest)

/-- One header, from after its opening brackets on, and what follows its line. -/
def header? (d : Document) (repeated : Bool) (cs : List Char) : Option (Document × List Char) := do
  let (parts, rest) ← key? cs
  let rest ← mark? ']' rest
  let rest ← if repeated then mark? ']' rest else some rest
  let rest ← afterLine? rest
  let (path, key) ← splitKey? parts
  let root ← if repeated then d.root.openNext path key else d.root.openTable path key
  return ({ root, header := parts }, rest)

/-- One line, and what follows it. -/
def line? (d : Document) (cs : List Char) : Option (Document × List Char) :=
  match skipSpaces cs with
  | [] => some (d, [])
  | '[' :: '[' :: rest => d.header? true rest
  | '[' :: rest => d.header? false rest
  | rest =>
    if rest.head? = some '#' || (afterBreak? rest).isSome then
      (afterLine? rest).map fun rest => (d, rest)
    else d.entry? rest

/-- All lines. The fuel is a list at least as long as the text. -/
def linesFrom : List Char → List Char → Document → Option Document
  | _, [], d => some d
  | [], _ :: _, _ => none
  | _ :: fuel, cs, d => (d.line? cs).bind fun (d, rest) => linesFrom fuel rest d

end Document

end Toml

/-- The entries of a TOML document; a mark of the byte order at its start is skipped. -/
def TomlValue.parse? (text : String) : Option TomlValue :=
  let cs := match text.toList with
    | c :: rest => if c.toNat = 0xfeff then rest else c :: rest
    | [] => []
  (Toml.Document.linesFrom cs cs {}).map fun d => d.root.toValue

end PackageVet
