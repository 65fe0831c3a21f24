import Dimensional.Text.Quoted

/-!
JSON documents. A number keeps the text it was written with, so that a reader of numbers can
apply its own rounding rules to it. `Json.parse?` reads a whole document (RFC 8259 grammar,
surrounding whitespace allowed); `Json.render` writes one compactly, escaping in strings the
quote, the backslash and the control characters, with short forms for `\b`, `\f`, `\n`, `\r`
and `\t` and `\u00XX` (lowercase hex) for the others.
-/

namespace Dimensional

/-- A JSON document; numbers are kept as written. -/
inductive Json where
  | null
  | bool (b : Bool)
  | num (text : String)
  | str (s : String)
  | arr (items : List Json)
  | obj (fields : List (String × Json))
  deriving Inhabited, Repr

namespace Json

/-- How a character is written inside a JSON string. -/
def escapeChar (c : Char) : String :=
  if c = '"' then "\\\""
  else if c = '\\' then "\\\\"
  else if c = '\n' then "\\n"
  else if c = '\r' then "\\r"
  else if c = '\t' then "\\t"
  else if c = '\x08' then "\\b"
  else if c = '\x0c' then "\\f"
  else if c.toNat < 0x20 then
    "\\u00" ++ String.ofList (if c.toNat < 0x10 then ['0'] else []) ++ Text.hexDigits c.toNat
  else c.toString

/-- A JSON string literal of `s`. -/
def quote (s : String) : String := "\"" ++ String.join (s.toList.map escapeChar) ++ "\""

mutual
/-- The compact text of a document. -/
def render : Json → String
  | .null => "null"
  | .bool b => if b then "true" else "false"
  | .num text => text
  | .str s => quote s
  | .arr items => "[" ++ renderItems items ++ "]"
  | .obj fields => "\x7b" ++ renderFields fields ++ "\x7d"

/-- Array items separated by commas. -/
def renderItems : List Json → String
  | [] => ""
  | [j] => render j
  | j :: rest => render j ++ "," ++ renderItems rest

/-- Object fields separated by commas. -/
def renderFields : List (String × Json) → String
  | [] => ""
  | [(k, v)] => quote k ++ ":" ++ render v
  | (k, v) :: rest => quote k ++ ":" ++ render v ++ "," ++ renderFields rest
end

/-- The field of an object named `key`, if any (the first one). -/
def field? (j : Json) (key : String) : Option Json :=
  match j with
  | .obj fields => (fields.find? (·.1 == key)).map (·.2)
  | _ => none

/-- JSON whitespace. -/
def isSpace (c : Char) : Bool := c = ' ' || c = '\t' || c = '\n' || c = '\r'

/-- Value of a hexadecimal digit. -/
def hexValue? (c : Char) : Option Nat :=
  if '0' ≤ c && c ≤ '9' then some (c.toNat - '0'.toNat)
  else if 'a' ≤ c && c ≤ 'f' then some (c.toNat - 'a'.toNat + 10)
  else if 'A' ≤ c && c ≤ 'F' then some (c.toNat - 'A'.toNat + 10)
  else none

/-- The value of four hexadecimal digits. -/
def hex4? (a b c d : Char) : Option Nat := do
  pure ((((← hexValue? a) * 16 + (← hexValue? b)) * 16 + (← hexValue? c)) * 16 + (← hexValue? d))

/-- The character a simple escape `\\c` stands for. -/
def simpleEscape? (c : Char) : Option Char :=
  if c = '"' then some '"' else if c = '\\' then some '\\' else if c = '/' then some '/'
  else if c = 'b' then some '\x08' else if c = 'f' then some '\x0c'
  else if c = 'n' then some '\n' else if c = 'r' then some '\r'
  else if c = 't' then some '\t' else none

/-- The character of a `\\u` escape that is not part of a surrogate pair; a lone surrogate
stands for U+FFFD. -/
def escapedChar (u : Nat) : Char :=
  if 0xD800 ≤ u ∧ u < 0xE000 then Char.ofNat 0xFFFD else Char.ofNat u

/-- The characters of a string body up to its closing quote, and the text after it. -/
def readStringBody? (cs : List Char) (acc : List Char) : Option (String × List Char) :=
  match cs with
  | [] => none
  | '"' :: rest => some (String.ofList acc.reverse, rest)
  | '\\' :: 'u' :: a :: b :: c :: d :: '\\' :: 'u' :: e :: f :: g :: h :: rest =>
    match hex4? a b c d, hex4? e f g h with
    | some u, some l =>
      if 0xD800 ≤ u ∧ u < 0xDC00 ∧ 0xDC00 ≤ l ∧ l < 0xE000 then
        readStringBody? rest (Char.ofNat (0x10000 + (u - 0xD800) * 0x400 + (l - 0xDC00)) :: acc)
      else readStringBody? ('\\' :: 'u' :: e :: f :: g :: h :: rest) (escapedChar u :: acc)
    | some u, none => readStringBody? ('\\' :: 'u' :: e :: f :: g :: h :: rest) (escapedChar u :: acc)
    | none, _ => none
  | '\\' :: 'u' :: a :: b :: c :: d :: rest =>
    match hex4? a b c d with
    | some u => readStringBody? rest (escapedChar u :: acc)
    | none => none
  | '\\' :: c :: rest =>
    match simpleEscape? c with
    | some e => readStringBody? rest (e :: acc)
    | none => none
  | c :: rest => if c.toNat < 0x20 then none else readStringBody? rest (c :: acc)

/-- The text of a number at the head of `cs` (RFC 8259 grammar), and the rest. -/
def readNumberText? (cs : List Char) : Option (String × List Char) :=
  let isDigit (c : Char) : Bool := '0' ≤ c && c ≤ '9'
  let (sign, r) := match cs with
    | '-' :: r => (['-'], r)
    | _ => ([], cs)
  let whole := r.takeWhile isDigit
  let r := r.dropWhile isDigit
  if whole.isEmpty || (whole.length > 1 && whole.head? = some '0') then none
  else
    let (fraction, r) : Option (List Char) × List Char := match r with
      | '.' :: r' =>
        let ds := r'.takeWhile isDigit
        (if ds.isEmpty then none else some ('.' :: ds), r'.dropWhile isDigit)
      | _ => (some [], r)
    match fraction with
    | none => none
    | some fraction =>
      let (exponent, r) : Option (List Char) × List Char := match r with
        | e :: r' =>
          if e = 'e' || e = 'E' then
            let (s, r'') := match r' with
              | '+' :: t => (['+'], t)
              | '-' :: t => (['-'], t)
              | _ => ([], r')
            let ds := r''.takeWhile isDigit
            (if ds.isEmpty then none else some (e :: s ++ ds), r''.dropWhile isDigit)
          else (some [], r)
        | [] => (some [], r)
      exponent.map fun ex => (String.ofList (sign ++ whole ++ fraction ++ ex), r)

mutual
/-- A value at the head of `cs` (after whitespace), and the rest; `fuel` bounds the nesting. -/
def readValue? : Nat → List Char → Option (Json × List Char)
  | 0, _ => none
  | fuel + 1, cs =>
    match cs.dropWhile isSpace with
    | 'n' :: 'u' :: 'l' :: 'l' :: rest => some (.null, rest)
    | 't' :: 'r' :: 'u' :: 'e' :: rest => some (.bool true, rest)
    | 'f' :: 'a' :: 'l' :: 's' :: 'e' :: rest => some (.bool false, rest)
    | '"' :: rest => (readStringBody? rest []).map fun (s, r) => (.str s, r)
    | '[' :: rest =>
      match rest.dropWhile isSpace with
      | ']' :: r => some (.arr [], r)
      | _ => (readItems? fuel rest []).map fun (xs, r) => (.arr xs, r)
    | '{' :: rest =>
      match rest.dropWhile isSpace with
      | '}' :: r => some (.obj [], r)
      | _ => (readFields? fuel rest []).map fun (fs, r) => (.obj fs, r)
    | other => (readNumberText? other).map fun (t, r) => (.num t, r)

/-- Items of a non-empty array up to its closing bracket. -/
def readItems? : Nat → List Char → List Json → Option (List Json × List Char)
  | 0, _, _ => none
  | fuel + 1, cs, acc =>
    match readValue? fuel cs with
    | none => none
    | some (v, r) =>
      match r.dropWhile isSpace with
      | ',' :: r' => readItems? fuel r' (v :: acc)
      | ']' :: r' => some ((v :: acc).reverse, r')
      | _ => none

/-- Fields of a non-empty object up to its closing brace. -/
def readFields? : Nat → List Char → List (String × Json) →
    Option (List (String × Json) × List Char)
  | 0, _, _ => none
  | fuel + 1, cs, acc =>
    match cs.dropWhile isSpace with
    | '"' :: r =>
      match readStringBody? r [] with
      | none => none
      | some (k, r) =>
        match r.dropWhile isSpace with
        | ':' :: r =>
          match readValue? fuel r with
          | none => none
          | some (v, r) =>
            match r.dropWhile isSpace with
            | ',' :: r' => readFields? fuel r' ((k, v) :: acc)
            | '}' :: r' => some (((k, v) :: acc).reverse, r')
            | _ => none
        | _ => none
    | _ => none
end

/-- Reads a whole document; whitespace may surround it. -/
def parse? (s : String) : Option Json :=
  let cs := s.toList
  match readValue? (2 * cs.length + 2) cs with
  | some (v, rest) => if (rest.dropWhile isSpace).isEmpty then some v else none
  | none => none

end Json

end Dimensional
