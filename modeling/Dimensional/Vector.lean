import Dimensional.Scalar

/-!
Vectors of two and three components. Arithmetic on them is component by component; on top
stand the scalar product (summed from the first component on), the vector product of two
three-vectors, and moving between two and three components.
-/

namespace Dimensional

/-- A vector of two components. -/
structure Vector2 (α : Type) where
  x : α
  y : α
  deriving Repr, Inhabited

/-- A vector of three components. -/
structure Vector3 (α : Type) where
  x : α
  y : α
  z : α
  deriving Repr, Inhabited

namespace Vector2

variable {α β : Type}

/-- Applies `f` to each component. -/
def map (f : α → β) (v : Vector2 α) : Vector2 β := ⟨f v.x, f v.y⟩

/-- Combines matching components. -/
def zipWith (f : α → α → α) (v w : Vector2 α) : Vector2 α := ⟨f v.x w.x, f v.y w.y⟩

/-- The components in order. -/
def toList (v : Vector2 α) : List α := [v.x, v.y]

/-- The vector of a list of two components. -/
def ofList? : List α → Option (Vector2 α)
  | [x, y] => some ⟨x, y⟩
  | _ => none

/-- The scalar product. -/
def dot [Scalar α] (v w : Vector2 α) : α := v.x * w.x + v.y * w.y

/-- The three-vector with `z` appended. -/
def extend (v : Vector2 α) (z : α) : Vector3 α := ⟨v.x, v.y, z⟩

end Vector2

namespace Vector3

variable {α β : Type}

/-- Applies `f` to each component. -/
def map (f : α → β) (v : Vector3 α) : Vector3 β := ⟨f v.x, f v.y, f v.z⟩

/-- Combines matching components. -/
def zipWith (f : α → α → α) (v w : Vector3 α) : Vector3 α :=
  ⟨f v.x w.x, f v.y w.y, f v.z w.z⟩

/-- The components in order. -/
def toList (v : Vector3 α) : List α := [v.x, v.y, v.z]

/-- The vector of a list of three components. -/
def ofList? : List α → Option (Vector3 α)
  | [x, y, z] => some ⟨x, y, z⟩
  | _ => none

/-- The scalar product. -/
def dot [Scalar α] (v w : Vector3 α) : α := v.x * w.x + v.y * w.y + v.z * w.z

/-- The vector product. -/
def cross [Scalar α] (v w : Vector3 α) : Vector3 α :=
  ⟨v.y * w.z - v.z * w.y, v.z * w.x - v.x * w.z, v.x * w.y - v.y * w.x⟩

/-- The two-vector of the first two components. -/
def truncate (v : Vector3 α) : Vector2 α := ⟨v.x, v.y⟩

end Vector3

end Dimensional
