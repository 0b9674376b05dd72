import PackageVet.Json.Value
import PackageVet.Sorted

/-! Reading records out of JSON values.

A record is written as an object, in which a field may stand once and other members are read over,
or as an array of its fields in order. Where a rule asks for a kept value, the value is nested in
the text at most 127 deep, counted from the outermost one. -/
namespace PackageVet.JsonValue

/-- How deep a text may be nested where its values are kept. -/
def maxDepth : Nat := 127

def text? : JsonValue → Option String
  | .string text => text
  | _ => none

def bool? : JsonValue → Option Bool
  | .bool value => some value
  | _ => none

def nat? (most : Nat) : JsonValue → Option Nat
  | .number n => n.natural? most
  | _ => none

/-- The items of an array, each decoded. -/
def list? {α : Type} (decode : JsonValue → Option α) : JsonValue → Option (List α)
  | .array items => items.mapM decode
  | _ => none

/-- The members of an object, each decoded, in the order of names; of members with one name, the
last counts. -/
def map? {α : Type} (decode : JsonValue → Option α) : JsonValue → Option (List (String × α))
  | .object members => do
    let entries ← members.mapM fun (name, value) => do return (← name, ← decode value)
    return Sorted.ofEntries entries
  | _ => none

/-- The value of a field that stands at most once; the outer option fails on a second one. -/
def field? (name : String) (members : List (Option String × JsonValue)) :
    Option (Option JsonValue) :=
  match members.filter fun m => m.1 = some name with
  | [] => some none
  | [m] => some (some m.2)
  | _ => none

/-- The fields of a record, in the order of their names; those left out are none. -/
def fields? (names : List String) : JsonValue → Option (List (Option JsonValue))
  | .object members =>
    if members.all fun m => m.1.isSome then names.mapM fun name => field? name members else none
  | .array items =>
    if items.length ≤ names.length then
      some (items.map some ++ List.replicate (names.length - items.length) none)
    else none
  | _ => none

/-- A field that may be left out. -/
def withDefault {α : Type} (decode : JsonValue → Option α) (value : α) :
    Option JsonValue → Option α
  | some field => decode field
  | none => some value

/-- A field that may be left out or null. -/
def nullable {α : Type} (decode : JsonValue → Option α) : Option JsonValue → Option (Option α)
  | some .null | none => some none
  | some field => (decode field).map some

/-- One of some words, alone or as the name of a member without a value. -/
def choice? {α : Type} (choices : List (String × α)) : JsonValue → Option α
  | .string text => text.bind fun word => choices.lookup word
  | .object [(name, .null)] => name.bind fun word => choices.lookup word
  | _ => none

end PackageVet.JsonValue
