import PackageVet.Toml.Value

/-! Reading records out of TOML values.

A record is written as a table, in which other entries are read over, or as an array of its fields
in order, in which more items are read over. -/
namespace PackageVet.TomlValue

def text? : TomlValue → Option String
  | .string text => some text
  | _ => none

def bool? : TomlValue → Option Bool
  | .boolean value => some value
  | _ => none

/-- A natural number up to `most`. -/
def nat? (most : Nat) : TomlValue → Option Nat
  | .integer n => if 0 ≤ n ∧ n ≤ most then some n.toNat else none
  | _ => none

def list? {α : Type} (decode : TomlValue → Option α) : TomlValue → Option (List α)
  | .array items => items.mapM decode
  | _ => none

/-- The fields of a record, in the order of their names; those left out are none. A date is a
record without any of the fields asked for. -/
def fields? (names : List String) : TomlValue → Option (List (Option TomlValue))
  | .table entries => some (names.map fun name => entries.lookup name)
  | .array items =>
    some ((items.take names.length).map some ++ List.replicate (names.length - items.length) none)
  | .datetime => some (names.map fun _ => none)
  | _ => none

/-- A field that may be left out. -/
def withDefault {α : Type} (decode : TomlValue → Option α) (value : α) :
    Option TomlValue → Option α
  | some field => decode field
  | none => some value

/-- A field that may be left out, with no value of its own then. -/
def optional {α : Type} (decode : TomlValue → Option α) : Option TomlValue → Option (Option α)
  | some field => (decode field).map some
  | none => some none

/-- Whether a value is a table or an array that holds nothing. -/
def isEmpty : TomlValue → Bool
  | .array items => items.isEmpty
  | .table entries => entries.isEmpty
  | _ => false

/-- One of some words, alone or as the key of an empty table. -/
def choice? {α : Type} (choices : List (String × α)) : TomlValue → Option α
  | .string word => choices.lookup word
  | .table [(word, value)] => if value.isEmpty then choices.lookup word else none
  | _ => none

end PackageVet.TomlValue
