import Dimensional.Text.Escapes

/-!
Quoted text, as error messages show a word: between double quotes, with a backslash before a
quote or a backslash, the short escapes `\0`, `\t`, `\r` and `\n`, and `\u{h}` (lowercase hex,
no leading zeros) for every other character that `isEscaped` names.
-/

namespace Dimensional
namespace Text

/-- Lowercase hexadecimal digits of `n`, without leading zeros. -/
def hexDigits (n : Nat) : String := String.ofList (Nat.toDigits 16 n)

/-- How one character is written inside quotes. -/
def escapeChar (c : Char) : String :=
  if c = '\x00' then "\\0"
  else if c = '\t' then "\\t"
  else if c = '\r' then "\\r"
  else if c = '\n' then "\\n"
  else if c = '\\' then "\\\\"
  else if c = '"' then "\\\""
  else if isEscaped c then "\\u\x7b" ++ hexDigits c.toNat ++ "\x7d"
  else c.toString

/-- `s` between double quotes, each character written by `escapeChar`. -/
def quote (s : String) : String :=
  "\"" ++ String.join (s.toList.map escapeChar) ++ "\""

end Text
end Dimensional
