import Dimensional.Toml.Literal

/-!
Reading a whole TOML document into its root table. A document is a sequence of lines: blank
or comment lines, `key = value` lines, `[table]` headers and `[[array]]` headers. Key-value
lines fill the table named by the last header; a header may not define a table twice, and an
array header appends a new table to an array of tables. Keys may not repeat, and inline tables
and arrays written as values are closed: no later line may add to them.
-/

namespace Dimensional
namespace Toml

/-- A table of a document while it is read: values written in place, tables made by headers
or by dotted keys, and arrays of tables made by array headers. -/
inductive Node where
  | value (v : Value)
  /-- A table; `explicit` when a header named it. -/
  | table (explicit : Bool) (fields : List (String × Node))
  | tables (items : List (List (String × Node)))

mutual
/-- The value a node stands for. -/
def Node.toValue : Node → Value
  | .value v => v
  | .table _ fields => .table (Node.fieldsToValue fields)
  | .tables items => .array (Node.itemsToValue items)

/-- The values of the fields of a table node. -/
def Node.fieldsToValue : List (String × Node) → List (String × Value)
  | [] => []
  | (k, n) :: rest => (k, n.toValue) :: Node.fieldsToValue rest

/-- The tables of an array of tables. -/
def Node.itemsToValue : List (List (String × Node)) → List Value
  | [] => []
  | fields :: rest => .table (Node.fieldsToValue fields) :: Node.itemsToValue rest
end

namespace Node

/-- Applies `f` to the fields of the table at `path`, creating tables that are missing;
`headers` lets the path pass through the last table of an array of tables, as headers may. -/
def modifyAt (headers : Bool) (f : List (String × Node) → Except String (List (String × Node))) :
    List String → List (String × Node) → Except String (List (String × Node))
  | [], fields => f fields
  | k :: rest, fields =>
    match fields.lookup k with
    | none => do pure (fields ++ [(k, .table false (← modifyAt headers f rest []))])
    | some (.table e sub) => do pure (setField fields k (.table e (← modifyAt headers f rest sub)))
    | some (.tables items) =>
      match headers, items.reverse with
      | true, last :: before => do
        pure (setField fields k (.tables (before.reverse ++ [← modifyAt headers f rest last])))
      | _, _ => .error ("cannot extend array " ++ k)
    | some (.value _) => .error ("cannot extend value " ++ k)

/-- Adds `v` under a key part, refusing a key that is already there. -/
def addValue (k : String) (v : Value) (fields : List (String × Node)) :
    Except String (List (String × Node)) :=
  if (fields.lookup k).isSome then .error ("duplicate key " ++ k) else .ok (fields ++ [(k, .value v)])

/-- Names the table `k` by a header: a new table, or one made only on the way to another. -/
def defineTable (k : String) (fields : List (String × Node)) : Except String (List (String × Node)) :=
  match fields.lookup k with
  | none => .ok (fields ++ [(k, .table true [])])
  | some (.table false sub) => .ok (setField fields k (.table true sub))
  | _ => .error ("duplicate table " ++ k)

/-- Appends a new table to the array of tables `k`. -/
def appendTable (k : String) (fields : List (String × Node)) : Except String (List (String × Node)) :=
  match fields.lookup k with
  | none => .ok (fields ++ [(k, .tables [[]])])
  | some (.tables items) => .ok (setField fields k (.tables (items ++ [[]])))
  | _ => .error ("duplicate table " ++ k)

end Node

/-- Drops blanks, line ends and comments, as between the items of an array. -/
def dropLayout (cs : List Char) : Except String (List Char) :=
  go cs.length cs
where
  go : Nat → List Char → Except String (List Char)
    | 0, cs => .ok cs
    | fuel + 1, cs =>
      match cs with
      | ' ' :: rest | '\t' :: rest | '\n' :: rest | '\r' :: '\n' :: rest => go fuel rest
      | '#' :: rest =>
        let body := rest.takeWhile (· ≠ '\n')
        if body.any fun c => isControl c && c ≠ '\r' then .error "control character in comment"
        else go fuel (rest.dropWhile (· ≠ '\n'))
      | _ => .ok cs

mutual
/-- A value at the head of `cs`. -/
def readValue : Nat → List Char → Except String (Value × List Char)
  | 0, _ => .error "document too deep"
  | fuel + 1, cs =>
    match cs with
    | '"' :: _ | '\'' :: _ => do
      let (s, rest) ← readString cs
      pure (.string s, rest)
    | '[' :: rest => readArray fuel rest []
    | '\x7b' :: rest => readInline fuel (dropBlanks rest) []
    | _ => readAtom cs

/-- The items of an array after its opening bracket. -/
def readArray : Nat → List Char → List Value → Except String (Value × List Char)
  | 0, _, _ => .error "document too deep"
  | fuel + 1, cs, acc => do
    match ← dropLayout cs with
    | ']' :: rest => pure (.array acc.reverse, rest)
    | cs =>
      let (v, rest) ← readValue fuel cs
      match ← dropLayout rest with
      | ',' :: more => readArray fuel more (v :: acc)
      | ']' :: more => pure (.array (v :: acc).reverse, more)
      | _ => throw "expected , or ] in array"

/-- The key-value pairs of an inline table after its opening brace. -/
def readInline : Nat → List Char → List (String × Value) → Except String (Value × List Char)
  | 0, _, _ => .error "document too deep"
  | fuel + 1, cs, fields => do
    match cs with
    | '\x7d' :: rest =>
      if fields.isEmpty then pure (.table fields, rest) else throw "trailing comma in inline table"
    | _ =>
      let (key, rest) ← readKey cs
      let rest := dropBlanks rest
      let rest ← match rest with
        | '=' :: more => pure (dropBlanks more)
        | _ => throw "expected = in inline table"
      let (v, rest) ← readValue fuel rest
      let fields ← Value.insertDotted v key fields
      match dropBlanks rest with
      | ',' :: more => readInline fuel (dropBlanks more) fields
      | '\x7d' :: more => pure (.table fields, more)
      | _ => throw "expected , or closing brace in inline table"
end

/-- The end of a line: blanks, an optional comment, then a line end or the end of the text. -/
def endLine (cs : List Char) : Except String (List Char) :=
  match dropBlanks cs with
  | [] => .ok []
  | '\n' :: rest | '\r' :: '\n' :: rest => .ok rest
  | '#' :: rest =>
    let body := rest.takeWhile (· ≠ '\n')
    let body := if body.getLast? = some '\r' then body.dropLast else body
    if body.any isControl then .error "control character in comment"
    else .ok ((rest.dropWhile (· ≠ '\n')).drop 1)
  | _ => .error "expected the end of the line"

/-- The lines of a document from `cs` on, into `root`; `current` is the table the last header
named, and `fuel` bounds the number of lines. -/
def readLines : Nat → List Char → List String → List (String × Node) →
    Except String (List (String × Node))
  | 0, _, _, root => .ok root
  | fuel + 1, cs, current, root => do
    match dropBlanks cs with
    | [] => pure root
    | '\n' :: rest | '\r' :: '\n' :: rest => readLines fuel rest current root
    | '#' :: _ => readLines fuel (← endLine (dropBlanks cs)) current root
    | '[' :: '[' :: rest =>
      let (path, rest) ← readKey (dropBlanks rest)
      match dropBlanks rest with
      | ']' :: ']' :: more =>
        let root ← Node.modifyAt true (Node.appendTable (path.getLastD "")) path.dropLast root
        readLines fuel (← endLine more) path root
      | _ => throw "expected ]] after array header"
    | '[' :: rest =>
      let (path, rest) ← readKey (dropBlanks rest)
      match dropBlanks rest with
      | ']' :: more =>
        let root ← Node.modifyAt true (Node.defineTable (path.getLastD "")) path.dropLast root
        readLines fuel (← endLine more) path root
      | _ => throw "expected ] after table header"
    | line =>
      let (key, rest) ← readKey line
      let rest ← match dropBlanks rest with
        | '=' :: more => pure (dropBlanks more)
        | _ => throw "expected = after key"
      let (v, rest) ← readValue (rest.length + 1) rest
      let root ← Node.modifyAt true
        (Node.modifyAt false (Node.addValue (key.getLastD "") v) key.dropLast) current root
      readLines fuel (← endLine rest) current root

/-- The root table of a document, or why it is not one. -/
def parse (text : String) : Except String (List (String × Value)) := do
  let cs := text.toList
  let root ← readLines (cs.length + 1) cs [] []
  pure (Node.fieldsToValue root)

end Toml
end Dimensional
