import Dimensional.Json.DecodeError
import Dimensional.Json.Value

/-!
Reading typed values from JSON text as a streaming reader does: the text is read once from the
left, each reader asks for the kind of value it expects, and the first fault met is the answer.
A reader that meets a value of another kind reads that value to describe it (`invalidType`).
`ignoreValue` checks the text of a value that is skipped; `seqElement?`, `endSeq`,
`mapKey?`, `colon` and `endMap` are the steps of sequences and maps.
-/

namespace Dimensional
namespace Json

/-- A reader of typed values from the rest of a text. -/
abbrev Decoder := StateT (List Char) (Except DecodeError)

namespace Decoder

variable {β : Type}

/-- Stops with a fault in the text. -/
def fail (f : SyntaxFault) : Decoder β := throw (.malformed f)

/-- Skips whitespace and shows the next character, if any. -/
def peek? : Decoder (Option Char) := do
  modify (·.dropWhile isSpace)
  return (← get).head?

/-- Drops the next character. -/
def eat : Decoder Unit := modify (·.drop 1)

/-- Takes the next character, if any. -/
def next? : Decoder (Option Char) := do
  match ← get with
  | c :: rest => set rest; return some c
  | [] => return none

/-- Reads the given characters of a word such as `null`. -/
def ident : List Char → Decoder Unit
  | [] => pure ()
  | e :: rest => do
    match ← next? with
    | none => fail .eofWhileParsingValue
    | some c => if c = e then ident rest else fail .expectedSomeIdent

/-- The number at the head of the text, which starts with a minus sign or a digit. -/
def number : Decoder Number := fun cs =>
  (readNumber cs).mapError fun e => .malformed e.toFault

/-- The fault of a `\u` escape cut short: the end of the text, unless four bytes remain. -/
def shortEscape (rest : List Char) : SyntaxFault :=
  if (String.ofList rest).utf8ByteSize ≥ 4 then .invalidEscape else .eofWhileParsingString

/-- The body of a string after its opening quote. With `keep`, the characters are collected and
surrogate escapes must pair up; without it the string is only checked. -/
def stringBody (keep : Bool) (cs : List Char) (acc : List Char) :
    Except DecodeError (String × List Char) :=
  match cs with
  | [] => .error (.malformed .eofWhileParsingString)
  | '"' :: rest => .ok (String.ofList acc.reverse, rest)
  | '\\' :: 'u' :: a :: b :: c :: d :: rest =>
    match hex4? a b c d with
    | none => .error (.malformed .invalidEscape)
    | some n =>
      if !keep then stringBody keep rest acc
      else if 0xDC00 ≤ n && n ≤ 0xDFFF then .error (.malformed .loneLeadingSurrogateInHexEscape)
      else if 0xD800 ≤ n && n ≤ 0xDBFF then
        match rest with
        | '\\' :: 'u' :: e :: f :: g :: h :: more =>
          match hex4? e f g h with
          | none => .error (.malformed .invalidEscape)
          | some m =>
            if m < 0xDC00 || 0xDFFF < m then .error (.malformed .loneLeadingSurrogateInHexEscape)
            else
              stringBody keep more (Char.ofNat ((n - 0xD800) * 0x400 + (m - 0xDC00) + 0x10000) :: acc)
        | '\\' :: 'u' :: more => .error (.malformed (shortEscape more))
        | [] | ['\\'] => .error (.malformed .eofWhileParsingString)
        | _ => .error (.malformed .unexpectedEndOfHexEscape)
      else stringBody keep rest (Char.ofNat n :: acc)
  | '\\' :: 'u' :: rest => .error (.malformed (shortEscape rest))
  | '\\' :: c :: rest =>
    match c with
    | '"' => stringBody keep rest ('"' :: acc)
    | '\\' => stringBody keep rest ('\\' :: acc)
    | '/' => stringBody keep rest ('/' :: acc)
    | 'b' => stringBody keep rest ('\x08' :: acc)
    | 'f' => stringBody keep rest ('\x0c' :: acc)
    | 'n' => stringBody keep rest ('\n' :: acc)
    | 'r' => stringBody keep rest ('\r' :: acc)
    | 't' => stringBody keep rest ('\t' :: acc)
    | _ => .error (.malformed .invalidEscape)
  | ['\\'] => .error (.malformed .eofWhileParsingString)
  | c :: rest =>
    if c.toNat < 0x20 then .error (.malformed .controlCharacterWhileParsingString)
    else stringBody keep rest (c :: acc)
termination_by cs.length
decreasing_by all_goals simp_wf <;> omega

/-- A string after its opening quote. -/
def string : Decoder String := fun cs => stringBody true cs []

/-- Checks a string after its opening quote. -/
def ignoreString : Decoder Unit := fun cs => (stringBody false cs []).map fun (_, rest) => ((), rest)

/-- Drops ASCII digits. -/
def digits : Decoder Unit := modify (·.dropWhile isDigitChar)

/-- The next character, or NUL at the end of the text. -/
def nextOrNul : Decoder Char := return (← next?).getD '\x00'

/-- The next character without taking it, or NUL at the end of the text. -/
def peekOrNul : Decoder Char := return (← get).headD '\x00'

/-- Checks the exponent of a skipped number, at its `e`. -/
def ignoreExponent : Decoder Unit := do
  eat
  let c ← peekOrNul
  if c = '+' || c = '-' then eat
  if isDigitChar (← nextOrNul) then digits else fail .invalidNumber

/-- Checks a skipped number after its minus sign. -/
def ignoreNumber : Decoder Unit := do
  let c ← nextOrNul
  if c = '0' then
    if isDigitChar (← peekOrNul) then fail .invalidNumber
  else if isDigitChar c then digits
  else fail .invalidNumber
  let c ← peekOrNul
  if c = '.' then
    eat
    if !isDigitChar (← peekOrNul) then fail .invalidNumber
    digits
    let e ← peekOrNul
    if e = 'e' || e = 'E' then ignoreExponent
  else if c = 'e' || c = 'E' then ignoreExponent

mutual
/-- Checks the text of a value that is skipped; `fuel` bounds the nesting. -/
def ignoreValue : Nat → Decoder Unit
  | 0 => fail .eofWhileParsingValue
  | fuel + 1 => do
    match ← peek? with
    | none => fail .eofWhileParsingValue
    | some 'n' => eat; ident ['u', 'l', 'l']
    | some 't' => eat; ident ['r', 'u', 'e']
    | some 'f' => eat; ident ['a', 'l', 's', 'e']
    | some '-' => eat; ignoreNumber
    | some '"' => eat; ignoreString
    | some '[' =>
      eat
      match ← peek? with
      | some ']' => eat
      | some _ => ignoreValue fuel; ignoreItems fuel
      | none => fail .eofWhileParsingList
    | some '\x7b' =>
      eat
      match ← peek? with
      | some '\x7d' => eat
      | some _ => ignoreMember fuel; ignoreMembers fuel
      | none => fail .eofWhileParsingObject
    | some c => if isDigitChar c then ignoreNumber else fail .expectedSomeValue

/-- The rest of a skipped sequence after an item. -/
def ignoreItems : Nat → Decoder Unit
  | 0 => fail .eofWhileParsingList
  | fuel + 1 => do
    match ← peek? with
    | some ',' => eat; ignoreValue fuel; ignoreItems fuel
    | some ']' => eat
    | some _ => fail .expectedListCommaOrEnd
    | none => fail .eofWhileParsingList

/-- One member of a skipped map: a key, a colon and a value. -/
def ignoreMember : Nat → Decoder Unit
  | 0 => fail .eofWhileParsingObject
  | fuel + 1 => do
    match ← peek? with
    | some '"' => eat; ignoreString
    | some _ => fail .keyMustBeAString
    | none => fail .eofWhileParsingObject
    match ← peek? with
    | some ':' => eat
    | some _ => fail .expectedColon
    | none => fail .eofWhileParsingObject
    ignoreValue fuel

/-- The rest of a skipped map after a member. -/
def ignoreMembers : Nat → Decoder Unit
  | 0 => fail .eofWhileParsingObject
  | fuel + 1 => do
    match ← peek? with
    | some ',' => eat; ignoreMember fuel; ignoreMembers fuel
    | some '\x7d' => eat
    | some _ => fail .expectedObjectCommaOrEnd
    | none => fail .eofWhileParsingObject
end

/-- Skips a value of the rest of the text. -/
def skip : Decoder Unit := do ignoreValue ((← get).length + 1)

/-- The error for a value of another kind than `expected` at the head of the text, after
reading that value to describe it. -/
def invalidType (expected : String) : Decoder DecodeError := do
  match ← peek? with
  | none => pure (.malformed .eofWhileParsingValue)
  | some 'n' => eat; ident ['u', 'l', 'l']; pure (.invalidType .unit expected)
  | some 't' => eat; ident ['r', 'u', 'e']; pure (.invalidType (.bool true) expected)
  | some 'f' => eat; ident ['a', 'l', 's', 'e']; pure (.invalidType (.bool false) expected)
  | some '"' => eat; pure (.invalidType (.str (← string)) expected)
  | some '[' => pure (.invalidType .seq expected)
  | some '\x7b' => pure (.invalidType .map expected)
  | some c =>
    if c = '-' || isDigitChar c then pure (.invalidType (← number).unexpected expected)
    else pure (.malformed .expectedSomeValue)

/-- A number, or the error for a value of another kind. -/
def expectNumber (expected : String) : Decoder Number := do
  match ← peek? with
  | none => fail .eofWhileParsingValue
  | some c => if c = '-' || isDigitChar c then number else throw (← invalidType expected)

/-- The next item of a sequence; none at its end. `first` says whether an item came before. -/
def seqElement? (first : Bool) (item : Decoder β) : Decoder (Option β) := do
  match ← peek? with
  | some ']' => pure none
  | some ',' =>
    if first then some <$> item
    else
      eat
      match ← peek? with
      | some ']' => fail .trailingComma
      | some _ => some <$> item
      | none => fail .eofWhileParsingValue
  | some _ => if first then some <$> item else fail .expectedListCommaOrEnd
  | none => fail .eofWhileParsingList

/-- The end of a sequence whose items were all read. -/
def endSeq : Decoder Unit := do
  match ← peek? with
  | some ']' => eat
  | some ',' =>
    eat
    match ← peek? with
    | some ']' => fail .trailingComma
    | _ => fail .trailingCharacters
  | some _ => fail .trailingCharacters
  | none => fail .eofWhileParsingList

/-- The next key of a map; none at its end. `first` says whether a member came before. -/
def mapKey? (first : Bool) : Decoder (Option String) := do
  match ← peek? with
  | some '\x7d' => pure none
  | some ',' =>
    if first then fail .keyMustBeAString
    else
      eat
      match ← peek? with
      | some '"' => eat; some <$> string
      | some '\x7d' => fail .trailingComma
      | some _ => fail .keyMustBeAString
      | none => fail .eofWhileParsingValue
  | some '"' => if first then do eat; some <$> string else fail .expectedObjectCommaOrEnd
  | some _ => if first then fail .keyMustBeAString else fail .expectedObjectCommaOrEnd
  | none => fail .eofWhileParsingObject

/-- The colon between a key and its value. -/
def colon : Decoder Unit := do
  match ← peek? with
  | some ':' => eat
  | some _ => fail .expectedColon
  | none => fail .eofWhileParsingObject

/-- The end of a map whose members were all read. -/
def endMap : Decoder Unit := do
  match ← peek? with
  | some '\x7d' => eat
  | some ',' => fail .trailingComma
  | some _ => fail .trailingCharacters
  | none => fail .eofWhileParsingObject

/-- The end of the text: nothing but whitespace may follow the value. -/
def finish : Decoder Unit := do
  if (← peek?).isSome then fail .trailingCharacters

/-- Reads a whole text with a reader. -/
def run (d : Decoder β) (text : String) : Except DecodeError β :=
  (d <* finish).run' text.toList

end Decoder

end Json
end Dimensional
