import Dimensional.Toml.Value
import Dimensional.Decimal.Reading

/-!
The literals of TOML documents: keys, the four kinds of strings, integers, floats, booleans and
date-times. Each reader takes the characters at the head of a text and returns what it read
with the rest. Numbers follow TOML 1.0: digits may be grouped by single underscores, decimal
integers have no leading zero, integers fit in 64 bits, and a float that reads as positive
infinity is refused while `inf` and `nan` are words of their own.
-/

namespace Dimensional
namespace Toml

/-- Whether `c` may stand in a bare key. -/
def isBareKeyChar (c : Char) : Bool := c.isAlphanum || c = '_' || c = '-'

/-- Whether `c` is a control character that no string or comment may hold (tab is allowed). -/
def isControl (c : Char) : Bool := (c.toNat < 0x20 && c ≠ '\t') || c.toNat = 0x7F

/-- Whether `c` is a hexadecimal digit. -/
def isHexDigit (c : Char) : Bool := Decimal.isDigit c || ('a' ≤ c && c ≤ 'f') || ('A' ≤ c && c ≤ 'F')

/-- The value of a hexadecimal digit. -/
def hexValue (c : Char) : Nat :=
  if Decimal.isDigit c then c.toNat - '0'.toNat
  else if 'a' ≤ c && c ≤ 'f' then c.toNat - 'a'.toNat + 10
  else c.toNat - 'A'.toNat + 10

/-- The character of a code given by hexadecimal digits, if it is a Unicode scalar value. -/
def scalarOfHex (ds : List Char) : Except String Char :=
  if ds.all isHexDigit then
    let n := ds.foldl (fun n c => 16 * n + hexValue c) 0
    if n < 0xD800 || (0xE000 ≤ n && n ≤ 0x10FFFF) then .ok (Char.ofNat n)
    else .error "invalid unicode scalar"
  else .error "invalid unicode escape"

/-- The character an escape letter stands for. -/
def simpleEscape? (c : Char) : Option Char :=
  match c with
  | 'b' => some '\x08' | 't' => some '\t' | 'n' => some '\n' | 'f' => some '\x0c'
  | 'r' => some '\r' | '"' => some '"' | '\\' => some '\\'
  | _ => none

/-- Drops blanks and line ends, for the line-ending backslash of multi-line strings. -/
def dropSpace (cs : List Char) : List Char :=
  cs.dropWhile fun c => c = ' ' || c = '\t' || c = '\n' || c = '\r'

/-- The body of a basic string after its opening quote; `multi` for the triple-quoted form,
which may hold line ends and a backslash that ends a line. -/
def readBasic (multi : Bool) : List Char → List Char → Except String (String × List Char)
  | [], _ => .error "unterminated string"
  | '"' :: '"' :: '"' :: '"' :: '"' :: rest, acc =>
    if multi then .ok (String.ofList ('"' :: '"' :: acc).reverse, rest)
    else .ok (String.ofList acc.reverse, '"' :: '"' :: '"' :: '"' :: rest)
  | '"' :: '"' :: '"' :: '"' :: rest, acc =>
    if multi then .ok (String.ofList ('"' :: acc).reverse, rest)
    else .ok (String.ofList acc.reverse, '"' :: '"' :: '"' :: rest)
  | '"' :: '"' :: '"' :: rest, acc =>
    if multi then .ok (String.ofList acc.reverse, rest)
    else .ok (String.ofList acc.reverse, '"' :: '"' :: rest)
  | '"' :: rest, acc =>
    if multi then readBasic multi rest ('"' :: acc) else .ok (String.ofList acc.reverse, rest)
  | '\\' :: 'u' :: a :: b :: c :: d :: rest, acc => do
    readBasic multi rest ((← scalarOfHex [a, b, c, d]) :: acc)
  | '\\' :: 'U' :: a :: b :: c :: d :: e :: f :: g :: h :: rest, acc => do
    readBasic multi rest ((← scalarOfHex [a, b, c, d, e, f, g, h]) :: acc)
  | '\\' :: c :: rest, acc =>
    match simpleEscape? c with
    | some e => readBasic multi rest (e :: acc)
    | none =>
      let tail := (c :: rest).dropWhile fun c => c = ' ' || c = '\t'
      match tail with
      | '\n' :: _ | '\r' :: '\n' :: _ =>
        if multi then readBasic multi (dropSpace rest) acc else .error "invalid escape"
      | _ => .error "invalid escape"
  | '\r' :: '\n' :: rest, acc =>
    if multi then readBasic multi rest ('\n' :: acc) else .error "newline in string"
  | c :: rest, acc =>
    if c = '\n' then (if multi then readBasic multi rest ('\n' :: acc) else .error "newline in string")
    else if isControl c then .error "control character in string"
    else readBasic multi rest (c :: acc)
termination_by cs => cs.length
decreasing_by
  all_goals simp_wf
  all_goals first
    | omega
    | (have : (dropSpace rest).length ≤ rest.length := (List.dropWhile_sublist _).length_le
       omega)

/-- The body of a literal string after its opening quote; `multi` for the triple-quoted form. -/
def readLiteral (multi : Bool) : List Char → List Char → Except String (String × List Char)
  | [], _ => .error "unterminated string"
  | '\'' :: '\'' :: '\'' :: '\'' :: '\'' :: rest, acc =>
    if multi then .ok (String.ofList ('\'' :: '\'' :: acc).reverse, rest)
    else .ok (String.ofList acc.reverse, '\'' :: '\'' :: '\'' :: '\'' :: rest)
  | '\'' :: '\'' :: '\'' :: '\'' :: rest, acc =>
    if multi then .ok (String.ofList ('\'' :: acc).reverse, rest)
    else .ok (String.ofList acc.reverse, '\'' :: '\'' :: '\'' :: rest)
  | '\'' :: '\'' :: '\'' :: rest, acc =>
    if multi then .ok (String.ofList acc.reverse, rest)
    else .ok (String.ofList acc.reverse, '\'' :: '\'' :: rest)
  | '\'' :: rest, acc =>
    if multi then readLiteral multi rest ('\'' :: acc) else .ok (String.ofList acc.reverse, rest)
  | '\r' :: '\n' :: rest, acc =>
    if multi then readLiteral multi rest ('\n' :: acc) else .error "newline in string"
  | c :: rest, acc =>
    if c = '\n' then (if multi then readLiteral multi rest ('\n' :: acc) else .error "newline in string")
    else if isControl c then .error "control character in string"
    else readLiteral multi rest (c :: acc)

/-- Drops the line end right after the opening of a multi-line string. -/
def dropFirstNewline (cs : List Char) : List Char :=
  match cs with
  | '\n' :: rest => rest
  | '\r' :: '\n' :: rest => rest
  | _ => cs

/-- A string of any of the four kinds at the head of `cs`. -/
def readString (cs : List Char) : Except String (String × List Char) :=
  match cs with
  | '"' :: '"' :: '"' :: rest => readBasic true (dropFirstNewline rest) []
  | '"' :: rest => readBasic false rest []
  | '\'' :: '\'' :: '\'' :: rest => readLiteral true (dropFirstNewline rest) []
  | '\'' :: rest => readLiteral false rest []
  | _ => .error "expected a string"

/-- A key part: bare, or a single-line quoted string. -/
def readSimpleKey (cs : List Char) : Except String (String × List Char) :=
  match cs with
  | '"' :: '"' :: '"' :: _ | '\'' :: '\'' :: '\'' :: _ => .error "multi-line key"
  | '"' :: rest => readBasic false rest []
  | '\'' :: rest => readLiteral false rest []
  | _ =>
    let k := cs.takeWhile isBareKeyChar
    if k.isEmpty then .error "expected a key" else .ok (String.ofList k, cs.dropWhile isBareKeyChar)

/-- Drops spaces and tabs. -/
def dropBlanks (cs : List Char) : List Char := cs.dropWhile fun c => c = ' ' || c = '\t'

/-- A dotted key: key parts separated by dots, with blanks around the dots. -/
def readKey (cs : List Char) : Except String (List String × List Char) :=
  go cs.length cs []
where
  go : Nat → List Char → List String → Except String (List String × List Char)
    | 0, _, _ => .error "key too long"
    | fuel + 1, cs, acc => do
      let (k, rest) ← readSimpleKey cs
      match dropBlanks rest with
      | '.' :: more => go fuel (dropBlanks more) (k :: acc)
      | _ => pure ((k :: acc).reverse, rest)

/-- Digits satisfying `p`, grouped by single underscores, at the head of `cs`: the digits
without underscores and the rest; none if no digit comes first or an underscore is not between
two digits. -/
def readDigits (p : Char → Bool) (cs : List Char) : Option (List Char × List Char) :=
  match cs with
  | c :: rest => if p c then go rest [c] else none
  | [] => none
where
  go : List Char → List Char → Option (List Char × List Char)
    | '_' :: c :: rest, acc => if p c then go rest (c :: acc) else none
    | '_' :: [], _ => none
    | c :: rest, acc => if p c then go rest (c :: acc) else some (acc.reverse, c :: rest)
    | [], acc => some (acc.reverse, [])

/-- Whether the characters are the digits `d d` exactly. -/
def twoDigits (a b : Char) : Bool := Decimal.isDigit a && Decimal.isDigit b

/-- Whether `cs` is a local time `hh:mm:ss` with an optional fraction. -/
def isTime (cs : List Char) : Bool :=
  match cs with
  | a :: b :: ':' :: c :: d :: ':' :: e :: f :: rest =>
    twoDigits a b && twoDigits c d && twoDigits e f &&
      match rest with
      | '.' :: frac => !frac.isEmpty && frac.all Decimal.isDigit
      | [] => true
      | _ => false
  | _ => false

/-- Whether `cs` is a time followed by an optional offset `Z` or `±hh:mm`. -/
def isTimeWithOffset (cs : List Char) : Bool :=
  match cs.reverse with
  | 'Z' :: t | 'z' :: t => isTime t.reverse
  | d :: c :: ':' :: b :: a :: s :: t =>
    (s = '+' || s = '-') && twoDigits a b && twoDigits c d && isTime t.reverse || isTime cs
  | _ => isTime cs

/-- Whether `cs` is a date-time, a date or a time of TOML. -/
def isDateTime (cs : List Char) : Bool :=
  match cs with
  | y1 :: y2 :: y3 :: y4 :: '-' :: m1 :: m2 :: '-' :: d1 :: d2 :: rest =>
    twoDigits y1 y2 && twoDigits y3 y4 && twoDigits m1 m2 && twoDigits d1 d2 &&
      match rest with
      | [] => true
      | s :: t => (s = 'T' || s = 't' || s = ' ') && isTimeWithOffset t
  | _ => isTime cs

/-- The largest and least 64-bit integers. -/
def int64Max : Int := 2 ^ (63 : Nat) - 1
def int64Min : Int := -2 ^ (63 : Nat)

/-- An integer in base 16, 8 or 2 after its prefix. -/
def radixInteger (base : Nat) (p : Char → Bool) (cs : List Char) : Except String Value :=
  match readDigits p cs with
  | some (ds, []) =>
    let n : Int := ds.foldl (fun n c => base * n + hexValue c) 0
    if n ≤ int64Max then .ok (.integer n) else .error "integer out of range"
  | _ => .error "invalid integer"

/-- A decimal integer or float, as written after an optional sign. -/
def decimalNumber (negative : Bool) (cs : List Char) : Except String Value := do
  let (whole, rest) ← match cs with
    | '0' :: rest => pure (['0'], rest)
    | _ => match readDigits Decimal.isDigit cs with
      | some r => pure r
      | none => throw "invalid number"
  let (fraction, rest) ← match rest with
    | '.' :: more => match readDigits Decimal.isDigit more with
      | some (f, r) => pure (some f, r)
      | none => throw "invalid float"
    | _ => pure (none, rest)
  let exponent ← match rest with
    | [] => pure none
    | e :: more =>
      if e = 'e' || e = 'E' then
        let (sign, digits) := match more with
          | '+' :: d => (['+'], d)
          | '-' :: d => (['-'], d)
          | d => ([], d)
        match readDigits Decimal.isDigit digits with
        | some (ds, []) => pure (some (sign ++ ds))
        | _ => throw "invalid float"
      else throw "invalid number"
  match fraction, exponent with
  | none, none =>
    let n : Int := Decimal.digitsValue whole
    let n := if negative then -n else n
    if int64Min ≤ n && n ≤ int64Max then pure (.integer n) else throw "integer out of range"
  | _, _ =>
    let text := whole ++ (match fraction with | some f => '.' :: f | none => []) ++
      (match exponent with | some e => 'e' :: e | none => [])
    match Decimal.readFloat? .double (String.ofList text) with
    | some bits =>
      if bits = Decimal.BinaryFormat.double.encodeInfinite false then throw "float out of range"
      else
        let x := Double.ofBits bits
        pure (.float (if negative then -x else x))
    | none => throw "invalid float"

/-- Whether `c` may stand in a number or date-time token. -/
def isTokenChar (c : Char) : Bool :=
  c.isAlphanum || c = '_' || c = '+' || c = '-' || c = '.' || c = ':'

/-- A number, boolean or date-time at the head of `cs`. -/
def readAtom (cs : List Char) : Except String (Value × List Char) := do
  let token := cs.takeWhile isTokenChar
  let rest := cs.dropWhile isTokenChar
  -- a date and a time may be separated by one space
  let (token, rest) := match rest with
    | ' ' :: more =>
      let time := more.takeWhile isTokenChar
      if token.length = 10 && isDateTime token && isDateTime (token ++ ' ' :: time) then
        (token ++ ' ' :: time, more.dropWhile isTokenChar)
      else (token, rest)
    | _ => (token, rest)
  let value ← match token with
    | ['t', 'r', 'u', 'e'] => pure (.boolean true)
    | ['f', 'a', 'l', 's', 'e'] => pure (.boolean false)
    | ['i', 'n', 'f'] | ['+', 'i', 'n', 'f'] => pure (.float (1.0 / 0.0))
    | ['-', 'i', 'n', 'f'] => pure (.float (-1.0 / 0.0))
    | ['n', 'a', 'n'] | ['+', 'n', 'a', 'n'] => pure (.float (0.0 / 0.0))
    | ['-', 'n', 'a', 'n'] => pure (.float (-(0.0 / 0.0)))
    | '0' :: 'x' :: ds => radixInteger 16 isHexDigit ds
    | '0' :: 'o' :: ds => radixInteger 8 (fun c => '0' ≤ c && c ≤ '7') ds
    | '0' :: 'b' :: ds => radixInteger 2 (fun c => c = '0' || c = '1') ds
    | '+' :: ds => decimalNumber false ds
    | '-' :: ds => decimalNumber true ds
    | ds =>
      if isDateTime ds then pure (.datetime (String.ofList ds)) else decimalNumber false ds
  pure (value, rest)

end Toml
end Dimensional
