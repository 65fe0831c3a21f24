import Dimensional.Vector

/-!
Payloads: what a quantity carries, one element or a vector of two or three. `Payload P α`
says that `P` is made of components of the element type `α`; every component-wise operation is
`map` or `zipWith` of the element operation, and `toList` is the view through which they are
read. Text follows the shape: debug text writes each element as debug text, inside
`Vector2 { x: …, y: … }` for vectors, and display text writes `(x, y)`, passing a number of
places on to every element.
-/

namespace Dimensional

/-- A payload `P` with components of element type `α`. -/
class Payload (P : Type) (α : outParam Type) where
  /-- The components in order. -/
  toList : P → List α
  /-- The payload with the given components, none for another number of them. -/
  ofList? : List α → Option P
  /-- Every component equal to one value. -/
  splat : α → P
  map : (α → α) → P → P
  zipWith : (α → α → α) → P → P → P
  debugText : P → String
  displayText : P → Option Nat → String

instance {α : Type} [Scalar α] : Payload α α where
  toList x := [x]
  ofList? | [x] => some x | _ => none
  splat x := x
  map f x := f x
  zipWith f x y := f x y
  debugText := Scalar.debugText
  displayText := Scalar.displayText

instance {α : Type} [Scalar α] : Payload (Vector2 α) α where
  toList := Vector2.toList
  ofList? := Vector2.ofList?
  splat x := ⟨x, x⟩
  map := Vector2.map
  zipWith := Vector2.zipWith
  debugText v :=
    "Vector2 \x7b x: " ++ Scalar.debugText v.x ++ ", y: " ++ Scalar.debugText v.y ++ " \x7d"
  displayText v p := "(" ++ Scalar.displayText v.x p ++ ", " ++ Scalar.displayText v.y p ++ ")"

instance {α : Type} [Scalar α] : Payload (Vector3 α) α where
  toList := Vector3.toList
  ofList? := Vector3.ofList?
  splat x := ⟨x, x, x⟩
  map := Vector3.map
  zipWith := Vector3.zipWith
  debugText v :=
    "Vector3 \x7b x: " ++ Scalar.debugText v.x ++ ", y: " ++ Scalar.debugText v.y ++
      ", z: " ++ Scalar.debugText v.z ++ " \x7d"
  displayText v p :=
    "(" ++ Scalar.displayText v.x p ++ ", " ++ Scalar.displayText v.y p ++ ", " ++
      Scalar.displayText v.z p ++ ")"

/-- Vector payloads, which have a scalar product. -/
class VectorPayload (P : Type) (α : outParam Type) extends Payload P α where
  dot : P → P → α

instance {α : Type} [Scalar α] : VectorPayload (Vector2 α) α where
  dot := Vector2.dot

instance {α : Type} [Scalar α] : VectorPayload (Vector3 α) α where
  dot := Vector3.dot

namespace Payload

variable {P α : Type} [Payload P α]

/-- Whether some component satisfies `p`. -/
def any (p : α → Bool) (v : P) : Bool := (toList v).any p

/-- Whether every component satisfies `p`. -/
def all (p : α → Bool) (v : P) : Bool := (toList v).all p

/-- Whether `r` holds of every pair of matching components. -/
def all₂ (r : α → α → Bool) (v w : P) : Bool :=
  ((toList v).zip (toList w)).all fun (a, b) => r a b

end Payload

end Dimensional
