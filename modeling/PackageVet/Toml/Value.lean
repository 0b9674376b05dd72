/-! TOML values.

A table keeps its entries in the order of the text, each key once. Of floats and dates only that
they are there is kept: no setting takes one. -/
namespace PackageVet

inductive TomlValue where
  | string (text : String)
  | integer (value : Int)
  | float
  | boolean (value : Bool)
  | datetime
  | array (items : List TomlValue)
  | table (entries : List (String × TomlValue))
  deriving Repr, Inhabited

end PackageVet
