import PackageVet.Text.Decimal
import PackageVet.Text.Printable

/-! Text in quotation marks, as error messages show it.

A quotation mark and a backslash are written after a backslash, the four common controls by a
letter, and a character that does not print by its number in braces. -/
namespace PackageVet.Text

def quoteChar (c : Char) : String :=
  if c = '"' then "\\\""
  else if c = '\\' then "\\\\"
  else if c = '\n' then "\\n"
  else if c = '\t' then "\\t"
  else if c = '\r' then "\\r"
  else if c.toNat = 0 then "\\0"
  else if isPrintable c then String.singleton c
  else "\\u\x7b" ++ hexadecimal c.toNat ++ "\x7d"

def quote (s : String) : String :=
  "\"" ++ String.join (s.toList.map quoteChar) ++ "\""

end PackageVet.Text
