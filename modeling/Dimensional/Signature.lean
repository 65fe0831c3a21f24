import Dimensional.Signature.Term
import Dimensional.Text.Blank

/-!
Unit signatures such as `kg·m²/s²`. A signature is read in two steps. `Item.scan` cuts it into
items, skipping blanks: each operator (`*`, `·`, `/`) is an item, and so is each word, a longest
run of other characters. `Signature.parse` then reads the items as `word (op? word)*`: words
that stand next to each other multiply, and a `/` negates the power of the next term only, so
`m/s*kg` is `m·kg·s⁻¹`. The first fault from the left is the answer.
-/

namespace Dimensional
namespace Signature

/-- Whether `c` is an operator of signatures. -/
def isOperator (c : Char) : Bool := c = '*' || c = '·' || c = '/'

/-- Whether `c` belongs to a word: neither blank nor an operator. -/
def isWordChar (c : Char) : Bool := !(Text.isBlank c || isOperator c)

/-- An operator or a word of a signature. -/
inductive Item where
  | op (c : Char)
  | word (w : String)
  deriving DecidableEq, Repr

/-- The items of a text, in order. -/
def Item.scan (cs : List Char) : List Item :=
  match cs with
  | [] => []
  | c :: rest =>
    if Text.isBlank c then Item.scan rest
    else if isOperator c then .op c :: Item.scan rest
    else .word (String.ofList (c :: rest.takeWhile isWordChar)) :: Item.scan (rest.dropWhile isWordChar)
termination_by cs.length
decreasing_by
  all_goals simp only [List.length_cons]
  all_goals have : (rest.dropWhile isWordChar).length ≤ rest.length :=
    (List.dropWhile_sublist _).length_le
  all_goals omega

/-- The terms of a list of items. `started` says whether a term came before, `pending` holds
the operator since the last term. -/
def collect (isSymbol : String → Bool) (started : Bool) (pending : Option Char) :
    List Item → Except Fault (List Term)
  | [] =>
    match pending with
    | some op => .error (.dangling op)
    | none => .ok []
  | .op c :: rest =>
    if !started || pending.isSome then .error (.unexpected c)
    else collect isSymbol started (some c) rest
  | .word w :: rest => do
    let t ← Term.ofWord isSymbol w
    let t ← if pending = some '/' then
        match checkedNeg t.power with
        | some p => pure { t with power := p }
        | none => throw .exponentOverflow
      else pure t
    let ts ← collect isSymbol true none rest
    pure (t :: ts)

/-- The terms of a signature; `isSymbol` tells a word that is a registered symbol, which keeps
its trailing digits. A fault is reported with the signature as given. -/
def parse (isSymbol : String → Bool) (signature : String) : Except ParseError (List Term) :=
  match Item.scan signature.toList with
  | [] => .error (.malformed signature .noUnit)
  | items => (collect isSymbol false none items).mapError (.malformed signature)

end Signature
end Dimensional
