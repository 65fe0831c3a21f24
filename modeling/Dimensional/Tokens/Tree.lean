/-!
# Token trees

Source text as unit-literal expansion sees it: a sequence of token trees. A tree is a group
of trees between matching delimiters, an identifier, one punctuation character, or a literal
kept as the exact text it was read from. Raw identifiers keep their `r#` prefix in their name.
-/

namespace Dimensional
namespace Tokens

/-- How a group is delimited; `invisible` groups have no delimiter characters. -/
inductive Delimiter where
  | parenthesis
  | bracket
  | brace
  | invisible
  deriving DecidableEq, Repr

/-- A token tree. -/
inductive TokenTree where
  | group (delimiter : Delimiter) (trees : List TokenTree)
  | ident (name : String)
  | punct (c : Char)
  | literal (text : String)
  deriving Repr, Inhabited

/-- The delimiter a closing character ends. -/
def Delimiter.ofClose? : Char → Option Delimiter
  | ')' => some .parenthesis
  | ']' => some .bracket
  | '}' => some .brace
  | _ => none

/-- The delimiter an opening character starts. -/
def Delimiter.ofOpen? : Char → Option Delimiter
  | '(' => some .parenthesis
  | '[' => some .bracket
  | '\x7b' => some .brace
  | _ => none

/-- The two characters of a delimiter, `()`, `[]` or `{}`, and `none` for an invisible group. -/
def Delimiter.text : Delimiter → String
  | .parenthesis => "()"
  | .bracket => "[]"
  | .brace => "\x7b\x7d"
  | .invisible => "none"

end Tokens
end Dimensional
