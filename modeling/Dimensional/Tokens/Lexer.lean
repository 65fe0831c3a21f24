import Dimensional.Tokens.Unicode
import Dimensional.Tokens.Tree
import Dimensional.Text.Quoted

/-!
# Reading token trees from source text

`tokenize?` reads a text into token trees, or fails on text that is not a token sequence: an
unbalanced delimiter, an unterminated literal or comment, or a character that starts no token.

Between tokens, whitespace and comments are skipped: line comments `//` and block comments
`/* */`, which nest. Doc comments (`///`, `//!`, `/** */`, `/*! */`) are not skipped: each
becomes `#`, `!` for the inner kinds, and the bracketed group `[doc = "<text>"]`.

A token is tried in this order: a literal, a punctuation character, an identifier.
* Literals: strings `"…"` and raw strings `r#"…"#`, byte strings `b"…"`/`br"…"`, C strings
  `c"…"`/`cr"…"`, bytes `b'…'`, characters `'…'`, then floats and integers. Each may carry an
  identifier suffix. A float needs a point or an exponent: a point followed by another point or
  by an identifier start belongs to no float (`1._m` is `1`, `.`, `_m`), and an `e` with no
  exponent digits ends the float before it, or gives no float when there is no point (`1e_m`
  is then the integer `1` with suffix `e_m`). Integers are decimal, `0x`, `0o` or `0b`; a digit
  beyond the base refuses the integer, a hexadecimal letter ends a decimal one.
* Punctuation: one of ``~!@#$%^&*-=+|;:,<.>/?'``, but not the `/` of a comment; a quote only
  before an identifier that no quote follows (`'a` is a quote and `a`).
* Identifiers, raw identifiers `r#name`, but no text that starts a raw or prefixed literal.
-/

namespace Dimensional
namespace Tokens

/-- Whether `cs` begins with the characters of `p`. -/
def startsWith (cs : List Char) (p : String) : Bool := p.toList.isPrefixOf cs

/-- Whether `c` is an ASCII digit. -/
def isDigit (c : Char) : Bool := '0' ≤ c && c ≤ '9'

/-- The value of a hexadecimal digit. -/
def hexDigit? (c : Char) : Option Nat :=
  if '0' ≤ c && c ≤ '9' then some (c.toNat - '0'.toNat)
  else if 'a' ≤ c && c ≤ 'f' then some (c.toNat - 'a'.toNat + 10)
  else if 'A' ≤ c && c ≤ 'F' then some (c.toNat - 'A'.toNat + 10)
  else none

/-- Whether `c` is a hexadecimal digit. -/
def isHex (c : Char) : Bool := (hexDigit? c).isSome

/-! ## Identifiers -/

/-- The identifier at the head of `cs`, without the raw prefix, and the rest. -/
def identBody (cs : List Char) : Option (String × List Char) :=
  match cs with
  | c :: rest =>
    if isIdentStart c then some (String.ofList (c :: rest.takeWhile isIdentContinue), rest.dropWhile isIdentContinue)
    else none
  | [] => none

/-- The rest after an optional identifier suffix. -/
def afterSuffix (cs : List Char) : List Char :=
  match identBody cs with
  | some (_, rest) => rest
  | none => cs

/-- `cs` itself, unless it starts with a character that continues an identifier. -/
def wordBreak (cs : List Char) : Option (List Char) :=
  match cs with
  | c :: _ => if isIdentContinue c then none else some cs
  | [] => some cs

/-- An identifier or a raw identifier (`r#name`), whose name keeps the prefix. -/
def identAny (cs : List Char) : Option (String × List Char) :=
  match cs with
  | 'r' :: '#' :: rest => do
    let (name, after) ← identBody rest
    if ["_", "super", "self", "Self", "crate"].contains name then none
    else some ("r#" ++ name, after)
  | _ => identBody cs

/-- The prefixes of raw, byte and C literals, which no identifier starts with. -/
def literalPrefixes : List String :=
  ["r\"", "r#\"", "r##", "b\"", "b'", "br\"", "br#", "c\"", "cr\"", "cr#"]

/-- An identifier token. -/
def ident (cs : List Char) : Option (String × List Char) :=
  if literalPrefixes.any (startsWith cs) then none else identAny cs

/-! ## Escapes -/

/-- The kinds of quoted literals, which differ in the escapes and characters they allow. -/
inductive Quoted where
  | text
  | bytes
  | cText
  deriving DecidableEq, Repr

/-- Escapes of one character after a backslash; C strings have no `\0`. -/
def simpleEscape (k : Quoted) (c : Char) : Bool :=
  c = 'n' || c = 'r' || c = 't' || c = '\\' || c = '\'' || c = '"' || (c = '0' && k != .cText)

/-- Whether `a b` may follow `\x`: an octal then a hexadecimal digit in text, two hexadecimal
digits in bytes, and two hexadecimal digits not both zero in C strings. -/
def hexEscape (k : Quoted) (a b : Char) : Bool :=
  match k with
  | .text => '0' ≤ a && a ≤ '7' && isHex b
  | .bytes => isHex a && isHex b
  | .cText => isHex a && isHex b && !(a = '0' && b = '0')

/-- Whether `n` is a Unicode scalar value. -/
def isScalar (n : Nat) : Bool := n ≤ 0x10FFFF && !(0xD800 ≤ n && n ≤ 0xDFFF)

/-- The digits of `\u{…}` after the brace: at most six hexadecimal digits, with `_` allowed
after the first, then the closing brace; the value must be a scalar value. -/
def unicodeDigits : List Char → (value count : Nat) → Option (Nat × List Char)
  | [], _, _ => none
  | c :: rest, v, n =>
    match hexDigit? c with
    | some d => if n = 6 then none else unicodeDigits rest (16 * v + d) (n + 1)
    | none =>
      if c = '_' && n > 0 then unicodeDigits rest v n
      else if c = '\x7d' && n > 0 then (if isScalar v then some (v, rest) else none)
      else none

/-- A `\u{…}` escape after the `u`: its value and the rest. -/
def unicodeEscape : List Char → Option (Nat × List Char)
  | '\x7b' :: rest => unicodeDigits rest 0 0
  | _ => none

/-- The blanks after an escaped line break, which must end before the text does; a carriage
return must be followed by a line feed. -/
def skipBreakBlanks : List Char → Option (List Char)
  | [] => none
  | '\r' :: '\n' :: rest => skipBreakBlanks rest
  | '\r' :: _ => none
  | c :: rest => if c = ' ' || c = '\t' || c = '\n' then skipBreakBlanks rest else some (c :: rest)

/-- After a backslash and the line break `c`, the rest of the string after the blanks. -/
def skipEscapedBreak (c : Char) (cs : List Char) : Option (List Char) :=
  if c = '\r' then
    match cs with
    | '\n' :: rest => skipBreakBlanks rest
    | _ => none
  else skipBreakBlanks cs

/-- Whether a character may stand unescaped in a quoted literal of kind `k`. -/
def plainAllowed (k : Quoted) (c : Char) : Bool :=
  match k with
  | .text => true
  | .bytes => c.toNat < 0x80
  | .cText => c.toNat != 0

/-! ## Quoted literals -/

/-- The body of a quoted literal after its opening quote; the rest after the closing quote
and an optional suffix. `fuel` bounds the number of steps. -/
def cooked (k : Quoted) : (fuel : Nat) → List Char → Option (List Char)
  | 0, _ => none
  | fuel + 1, cs =>
    match cs with
    | [] => none
    | '"' :: rest => some (afterSuffix rest)
    | '\r' :: '\n' :: rest => cooked k fuel rest
    | '\r' :: _ => none
    | '\\' :: 'x' :: a :: b :: rest =>
      if hexEscape k a b then cooked k fuel rest else none
    | '\\' :: 'u' :: rest =>
      if k = .bytes then none
      else
        match unicodeEscape rest with
        | some (v, after) => if k = .cText && v = 0 then none else cooked k fuel after
        | none => none
    | '\\' :: c :: rest =>
      if simpleEscape k c then cooked k fuel rest
      else if c = '\n' || c = '\r' then
        match skipEscapedBreak c rest with
        | some after => cooked k fuel after
        | none => none
      else none
    | ['\\'] => none
    | c :: rest => if plainAllowed k c then cooked k fuel rest else none

/-- The body of a raw literal after its opening quote, closed by a quote and `hashes` hashes. -/
def rawBody (k : Quoted) (hashes : Nat) : List Char → Option (List Char)
  | [] => none
  | '"' :: rest =>
    if hashes ≤ rest.length && (rest.take hashes).all (· = '#') then some (afterSuffix (rest.drop hashes))
    else rawBody k hashes rest
  | '\r' :: '\n' :: rest => rawBody k hashes rest
  | '\r' :: _ => none
  | c :: rest => if k = .text || plainAllowed k c then rawBody k hashes rest else none

/-- A raw literal after its prefix: at most 255 hashes, a quote, and the body. -/
def raw (k : Quoted) (cs : List Char) : Option (List Char) :=
  let hashes := (cs.takeWhile (· = '#')).length
  match cs.drop hashes with
  | '"' :: rest => if hashes > 255 then none else rawBody k hashes rest
  | _ => none

/-- A byte literal after `b'`. -/
def byteBody : List Char → Option (List Char)
  | '\\' :: rest =>
    match rest with
    | 'x' :: a :: b :: '\'' :: after => if isHex a && isHex b then some (afterSuffix after) else none
    | c :: '\'' :: after => if simpleEscape .bytes c then some (afterSuffix after) else none
    | _ => none
  | c :: '\'' :: rest => if c.toNat < 0x80 then some (afterSuffix rest) else none
  | _ => none

/-- A character literal after its opening quote. -/
def charBody : List Char → Option (List Char)
  | '\\' :: rest =>
    match rest with
    | 'x' :: a :: b :: '\'' :: after => if hexEscape .text a b then some (afterSuffix after) else none
    | 'u' :: after =>
      match unicodeEscape after with
      | some (_, '\'' :: more) => some (afterSuffix more)
      | _ => none
    | c :: '\'' :: after => if simpleEscape .text c then some (afterSuffix after) else none
    | _ => none
  | _ :: '\'' :: rest => some (afterSuffix rest)
  | _ => none

/-! ## Numbers -/

/-- The exponent digits of a float after its `e`. `beforeExp` is where the float ends when the
exponent has no digit (none: there is no float). -/
def floatExponent (beforeExp : Option (List Char)) (hasSign hasValue : Bool) :
    List Char → Option (List Char)
  | [] => if hasValue then some [] else beforeExp
  | c :: rest =>
    if c = '+' || c = '-' then
      if hasValue then some (c :: rest)
      else if hasSign then beforeExp
      else floatExponent beforeExp true hasValue rest
    else if isDigit c then floatExponent beforeExp hasSign true rest
    else if c = '_' then floatExponent beforeExp hasSign hasValue rest
    else if hasValue then some (c :: rest) else beforeExp

/-- The digits of a float after its first digit, with or without a point seen. -/
def floatMantissa (hasDot : Bool) : List Char → Option (List Char)
  | [] => if hasDot then some [] else none
  | c :: rest =>
    if isDigit c || c = '_' then floatMantissa hasDot rest
    else if c = '.' then
      if hasDot then some (c :: rest)
      else
        match rest with
        | d :: _ => if d = '.' || isIdentStart d then none else floatMantissa true rest
        | [] => floatMantissa true rest
    else if c = 'e' || c = 'E' then
      floatExponent (if hasDot then some (c :: rest) else none) false false rest
    else if hasDot then some (c :: rest) else none

/-- A float literal: its digits, an optional suffix, and then no identifier character. -/
def float (cs : List Char) : Option (List Char) :=
  match cs with
  | c :: rest => if isDigit c then (floatMantissa false rest).bind (wordBreak ∘ afterSuffix) else none
  | [] => none

/-- The digits of an integer in `base`; `empty` says whether no digit was seen yet. -/
def intDigits (base : Nat) (empty : Bool) : List Char → Option (List Char)
  | [] => if empty then none else some []
  | c :: rest =>
    if isDigit c then
      if c.toNat - '0'.toNat ≥ base then none else intDigits base false rest
    else if ('a' ≤ c && c ≤ 'f') || ('A' ≤ c && c ≤ 'F') then
      if base ≤ 10 then (if empty then none else some (c :: rest)) else intDigits base false rest
    else if c = '_' then
      if empty && base == 10 then none else intDigits base empty rest
    else if empty then none else some (c :: rest)

/-- An integer literal: an optional base prefix, digits, an optional suffix, and then no
identifier character. -/
def int (cs : List Char) : Option (List Char) :=
  let (base, body) := match cs with
    | '0' :: 'x' :: rest => (16, rest)
    | '0' :: 'o' :: rest => (8, rest)
    | '0' :: 'b' :: rest => (2, rest)
    | _ => (10, cs)
  (intDigits base true body).bind (wordBreak ∘ afterSuffix)

/-- Any literal: the rest after it. -/
def literal (cs : List Char) : Option (List Char) :=
  let quoted : Option (List Char) :=
    match cs with
    | '"' :: rest => cooked .text (rest.length + 1) rest
    | 'r' :: rest => raw .text rest
    | 'b' :: '"' :: rest => cooked .bytes (rest.length + 1) rest
    | 'b' :: 'r' :: rest => raw .bytes rest
    | 'c' :: '"' :: rest => cooked .cText (rest.length + 1) rest
    | 'c' :: 'r' :: rest => raw .cText rest
    | 'b' :: '\'' :: rest => byteBody rest
    | '\'' :: rest => charBody rest
    | _ => none
  quoted <|> float cs <|> int cs

/-! ## Punctuation -/

/-- The punctuation characters. -/
def punctChars : List Char := "~!@#$%^&*-=+|;:,<.>/?'".toList

/-- A punctuation character, but not the slash of a comment. -/
def punctChar (cs : List Char) : Option (Char × List Char) :=
  if startsWith cs "//" || startsWith cs "/*" then none
  else
    match cs with
    | c :: rest => if punctChars.contains c then some (c, rest) else none
    | [] => none

/-- A punctuation token; a quote only before an identifier that no quote follows. -/
def punct (cs : List Char) : Option (Char × List Char) := do
  let (c, rest) ← punctChar cs
  if c = '\'' then
    let (_, after) ← identAny rest
    if after.head? = some '\'' then none else some (c, rest)
  else some (c, rest)

/-! ## Comments -/

/-- A block comment from its `/*`, nested comments included: its text and the rest. -/
def blockComment (depth : Nat) (acc : List Char) : List Char → Option (List Char × List Char)
  | '/' :: '*' :: rest => blockComment (depth + 1) ('*' :: '/' :: acc) rest
  | '*' :: '/' :: rest =>
    if depth ≤ 1 then some (('/' :: '*' :: acc).reverse, rest)
    else blockComment (depth - 1) ('/' :: '*' :: acc) rest
  | c :: rest => blockComment depth (c :: acc) rest
  | [] => none

/-- The text up to the end of the line, and the rest from the line feed on; a carriage return
before the line feed is not part of the text. -/
def untilNewline : List Char → List Char × List Char
  | [] => ([], [])
  | '\n' :: rest => ([], '\n' :: rest)
  | '\r' :: '\n' :: rest => ([], '\n' :: rest)
  | c :: rest => let (line, after) := untilNewline rest; (c :: line, after)

/-- A comment that is skipped: the rest after it. An unterminated block comment is not. -/
def plainComment? (cs : List Char) : Option (List Char) :=
  if startsWith cs "//" && (!startsWith cs "///" || startsWith cs "////") && !startsWith cs "//!" then
    some (untilNewline cs).2
  else if startsWith cs "/**/" then some (cs.drop 4)
  else if startsWith cs "/*" && (!startsWith cs "/**" || startsWith cs "/***") && !startsWith cs "/*!" then
    (blockComment 0 [] cs).map (·.2)
  else none

/-- A doc comment: its text, whether it is an inner one, and the rest. -/
def docComment? (cs : List Char) : Option ((List Char × Bool) × List Char) :=
  let block (inner : Bool) := (blockComment 0 [] cs).map fun (text, rest) =>
    (((text.drop 3).take (text.length - 5), inner), rest)
  if startsWith cs "//!" then
    let (text, rest) := untilNewline (cs.drop 3)
    some ((text, true), rest)
  else if startsWith cs "/*!" then block true
  else if startsWith cs "///" then
    if startsWith (cs.drop 3) "/" then none
    else
      let (text, rest) := untilNewline (cs.drop 3)
      some ((text, false), rest)
  else if startsWith cs "/**" && !startsWith (cs.drop 3) "*" then block false
  else none

/-- Whether every carriage return of a text is followed by a line feed. -/
def crlfOnly : List Char → Bool
  | [] => true
  | '\r' :: '\n' :: rest => crlfOnly rest
  | '\r' :: _ => false
  | _ :: rest => crlfOnly rest

/-- How a character is written in a string literal that stands for a text: as in quoted text,
except that a NUL before an octal digit is written `\x00`. -/
def escapeChar (c : Char) (next : Option Char) : String :=
  if c.toNat = 0 then
    match next with
    | some d => if '0' ≤ d && d ≤ '7' then "\\x00" else "\\0"
    | none => "\\0"
  else Text.escapeChar c

/-- The string literal that stands for a text. -/
def stringLiteral (text : List Char) : String :=
  let rec go : List Char → String
    | [] => ""
    | c :: rest => escapeChar c rest.head? ++ go rest
  "\"" ++ go text ++ "\""

/-- The tokens a doc comment stands for. -/
def docTokens (text : List Char) (inner : Bool) : List TokenTree :=
  [.punct '#'] ++ (if inner then [.punct '!'] else []) ++
    [.group .bracket [.ident "doc", .punct '=', .literal (stringLiteral text)]]

/-! ## Token streams -/

/-- The text a literal marks when it stands for a failed expansion. -/
def errorText : String := "(/*ERROR*/)"

/-- One token that is not a group: the token and the rest. -/
def leaf (cs : List Char) : Option (TokenTree × List Char) :=
  match literal cs with
  | some rest => some (.literal (String.ofList (cs.take (cs.length - rest.length))), rest)
  | none =>
    match punct cs with
    | some (c, rest) => some (.punct c, rest)
    | none =>
      match ident cs with
      | some (name, rest) => some (.ident name, rest)
      | none => if startsWith cs errorText then some (.literal errorText, cs.drop errorText.length) else none

/-- An open group: its delimiter and the trees before it at the enclosing level (reversed). -/
structure Frame where
  delimiter : Delimiter
  outer : List TokenTree

/-- Reads token trees; `trees` holds the trees of the innermost open group, reversed. -/
def stream : (fuel : Nat) → List Char → List Frame → List TokenTree → Option (List TokenTree)
  | 0, _, _, _ => none
  | fuel + 1, cs, stack, trees =>
    match plainComment? cs with
    | some rest => stream fuel rest stack trees
    | none =>
      match cs with
      | [] => if stack.isEmpty then some trees.reverse else none
      | c :: rest =>
        if isSpace c then stream fuel rest stack trees
        else
          match docComment? cs with
          | some ((text, inner), after) =>
            if crlfOnly text then stream fuel after stack ((docTokens text inner).reverse ++ trees)
            else none
          | none =>
            match Delimiter.ofOpen? c with
            | some d =>
              if startsWith cs errorText then
                match leaf cs with
                | some (t, after) => stream fuel after stack (t :: trees)
                | none => none
              else stream fuel rest (⟨d, trees⟩ :: stack) []
            | none =>
              match Delimiter.ofClose? c with
              | some d =>
                match stack with
                | frame :: outer =>
                  if frame.delimiter = d then stream fuel rest outer (.group d trees.reverse :: frame.outer)
                  else none
                | [] => none
              | none =>
                match leaf cs with
                | some (t, after) => stream fuel after stack (t :: trees)
                | none => none

/-- The token trees of a text, none when it is not a token sequence. A leading byte order
mark is skipped. -/
def tokenize? (text : String) : Option (List TokenTree) :=
  let cs := match text.toList with
    | '\uFEFF' :: rest => rest
    | cs => cs
  stream (cs.length + 1) cs [] []

end Tokens
end Dimensional
