import Dimensional.Proofs.Double
import Dimensional.Quantity

/-!
# Vector quantities axis by axis

Every component-wise operation on a vector quantity is the scalar operation on each axis
(`AxisWise`), derived from the laws of a payload shape (`Payload.Components`); the product with
a scalar on the left also needs a commutative multiplication, which doubles and singles have.
-/

namespace Dimensional

namespace Decimal.BinaryFormat

theorem mul_comm (f : BinaryFormat) (a b : Nat) : f.mul a b = f.mul b a := by
  unfold mul
  cases f.decode a <;> cases f.decode b <;> simp [Nat.mul_comm, Int.add_comm, bne_comm]

end Decimal.BinaryFormat

theorem Double.mul_comm (x y : Double) : x * y = y * x :=
  congrArg Double.ofBits (Decimal.BinaryFormat.double.mul_comm x.toBits y.toBits)

theorem Single.mul_comm (x y : Single) : x * y = y * x :=
  congrArg Single.ofBits (Decimal.BinaryFormat.single.mul_comm x.toBits y.toBits)

def Vector2.axisReaders : List (∀ β, Vector2 β → β) := [fun _ v => v.x, fun _ v => v.y]

def Vector3.axisReaders : List (∀ β, Vector3 β → β) := [fun _ v => v.x, fun _ v => v.y, fun _ v => v.z]

namespace Payload

/-- The laws of a vector payload shape `F` whose components the `readers` read, in order: every
payload operation acts reader by reader, and a list of as many components is a payload. -/
structure Components (F : Type → Type) (payload : ∀ β [Scalar β], VectorPayload (F β) β)
    (readers : List (∀ β, F β → β)) : Prop where
  toList : ∀ {β : Type} [Scalar β] (v : F β), toList v = readers.map fun r => r β v
  map : ∀ {β : Type} [Scalar β] (f : β → β) (v : F β), ∀ r ∈ readers, r β (map f v) = f (r β v)
  zipWith : ∀ {β : Type} [Scalar β] (f : β → β → β) (v w : F β), ∀ r ∈ readers,
    r β (zipWith f v w) = f (r β v) (r β w)
  splat : ∀ {β : Type} [Scalar β] (x : β), ∀ r ∈ readers, r β (splat x : F β) = x
  ofList? : ∀ {β : Type} [Scalar β] (l : List β), l.length = readers.length →
    ∃ v : F β, ofList? l = some v ∧ readers.map (fun r => r β v) = l

theorem components_vector2 :
    Components Vector2 (fun _ _ => inferInstance) Vector2.axisReaders where
  toList _ := rfl
  map _ _ := by simp [Vector2.axisReaders]; exact ⟨rfl, rfl⟩
  zipWith _ _ _ := by simp [Vector2.axisReaders]; exact ⟨rfl, rfl⟩
  splat _ := by simp [Vector2.axisReaders]; exact ⟨rfl, rfl⟩
  ofList? l hl := by
    rcases l with _ | ⟨x, _ | ⟨y, _ | ⟨z, l⟩⟩⟩
    · simp [Vector2.axisReaders] at hl
    · simp [Vector2.axisReaders] at hl
    · exact ⟨⟨x, y⟩, rfl, rfl⟩
    · simp [Vector2.axisReaders] at hl

theorem components_vector3 :
    Components Vector3 (fun _ _ => inferInstance) Vector3.axisReaders where
  toList _ := rfl
  map _ _ := by simp [Vector3.axisReaders]; exact ⟨rfl, rfl, rfl⟩
  zipWith _ _ _ := by simp [Vector3.axisReaders]; exact ⟨rfl, rfl, rfl⟩
  splat _ := by simp [Vector3.axisReaders]; exact ⟨rfl, rfl, rfl⟩
  ofList? l hl := by
    rcases l with _ | ⟨x, _ | ⟨y, _ | ⟨z, _ | ⟨w, l⟩⟩⟩⟩
    · simp [Vector3.axisReaders] at hl
    · simp [Vector3.axisReaders] at hl
    · simp [Vector3.axisReaders] at hl
    · exact ⟨⟨x, y, z⟩, rfl, rfl⟩
    · simp [Vector3.axisReaders] at hl

end Payload

namespace Payload

variable {α : Type} [Scalar α]

@[simp] theorem toList_scalar (x : α) : toList x = [x] := rfl
@[simp] theorem splat_scalar (x : α) : (splat x : α) = x := rfl

end Payload

namespace List

theorem zipWith3_map_self {γ δ₁ δ₂ δ₃ ε : Type*} (f : δ₁ → δ₂ → δ₃ → ε) (g₁ : γ → δ₁)
    (g₂ : γ → δ₂) (g₃ : γ → δ₃) (l : List γ) :
    List.zipWith3 f (l.map g₁) (l.map g₂) (l.map g₃) = l.map fun x => f (g₁ x) (g₂ x) (g₃ x) := by
  induction l with
  | nil => rfl
  | cons x l ih => simp [List.zipWith3, ih]

theorem mapM_some {γ δ : Type*} (g : γ → δ) (l : List γ) :
    l.mapM (fun x => some (g x)) = some (l.map g) :=
  List.mapM_pure

end List

namespace Quantity

variable {F : Type → Type} {α : Type} [Scalar α]

/-- The scalar quantity of the axis that `r` reads. -/
def along {d : Exponents} (r : ∀ β, F β → β) (q : Quantity d (F α)) : Quantity d α :=
  ⟨r α q.value⟩

/-- Every component-wise operation on quantities of shape `F` over `α`, read axis by axis, is
the operation on the scalar quantity of each axis. -/
structure AxisWise (F : Type → Type) (payload : ∀ β [Scalar β], VectorPayload (F β) β)
    (readers : List (∀ β, F β → β)) (α : Type) [Scalar α] : Prop where
  axes : ∀ {d} (q : Quantity d (F α)), q.axes = readers.map (along · q)
  add : ∀ {d} (a b : Quantity d (F α)), (a.add b).axes = List.zipWith Quantity.add a.axes b.axes
  sub : ∀ {d} (a b : Quantity d (F α)), (a.sub b).axes = List.zipWith Quantity.sub a.axes b.axes
  neg : ∀ {d} (a : Quantity d (F α)), a.neg.axes = a.axes.map Quantity.neg
  scale : ∀ {d} (a : Quantity d (F α)) (s : α), (a.scale s).axes = a.axes.map (·.scale s)
  divScalar : ∀ {d} (a : Quantity d (F α)) (s : α),
    (a.divScalar s).axes = a.axes.map (·.divScalar s)
  scaleBy_left : ∀ {d e} (s : Quantity e α) (a : Quantity d (F α)),
    (s.scaleBy a).axes = a.axes.map s.mul
  scaleBy_right : ∀ {d e} (s : Quantity e α) (a : Quantity d (F α)),
    (s.scaleBy a).axes = a.axes.map s.scaleBy
  mul : ∀ {d e} (a : Quantity d (F α)) (b : Quantity e (F α)),
    (a.mul b).axes = List.zipWith Quantity.mul a.axes b.axes
  div : ∀ {d e} (a : Quantity d (F α)) (b : Quantity e (F α)),
    (a.div b).axes = List.zipWith Quantity.div a.axes b.axes
  divBy : ∀ {d e} (a : Quantity d (F α)) (s : Quantity e α), (a.divBy s).axes = a.axes.map (·.div s)
  abs : ∀ {d} (a : Quantity d (F α)), a.abs.axes = a.axes.map Quantity.abs
  signum : ∀ {d} (a : Quantity d (F α)), Payload.toList a.signum = a.axes.map Quantity.signum
  min : ∀ {d} (a b : Quantity d (F α)), (a.min b).axes = List.zipWith Quantity.min a.axes b.axes
  max : ∀ {d} (a b : Quantity d (F α)), (a.max b).axes = List.zipWith Quantity.max a.axes b.axes
  clamp : ∀ {d} (a lo hi : Quantity d (F α)),
    (a.clamp lo hi).axes = List.zipWith3 Quantity.clamp a.axes lo.axes hi.axes
  lerp : ∀ {d} (a b : Quantity d (F α)) (t : α),
    (a.lerp b t).axes = List.zipWith (fun x y => x.lerp y t) a.axes b.axes
  powi : ∀ {d} (a : Quantity d (F α)) (n : Int32), (a.powi n).axes = a.axes.map (·.powi n)
  root : ∀ {d} (a : Quantity d (F α)) (n : Int32), (a.root n).axes = a.axes.map (·.root n)
  ofPayload : ∀ (u : UnitDef) (raw : F α),
    (u.ofPayload raw).axes = (Payload.toList raw).map u.ofPayload
  valueIn : ∀ (u : UnitDef) (q : Quantity u.exponents (F α)),
    Payload.toList (u.valueIn q) = q.axes.map u.valueIn
  cast : ∀ {d} {β : Type} [Scalar β] (q : Quantity d (F α)),
    (q.cast : Option (Quantity d (F β))).map Quantity.axes = q.axes.mapM Quantity.cast
  sum : ∀ {d} (qs : List (Quantity d (F α))),
    (Quantity.sum qs).axes = readers.map fun r => Quantity.sum (qs.map (along r))
  isNaN : ∀ {d} (q : Quantity d (F α)), q.isNaN = q.axes.any Quantity.isNaN
  isInfinite : ∀ {d} (q : Quantity d (F α)), q.isInfinite = q.axes.any Quantity.isInfinite
  isFinite : ∀ {d} (q : Quantity d (F α)), q.isFinite = q.axes.all Quantity.isFinite
  isZero : ∀ {d} (q : Quantity d (F α)), q.isZero = q.axes.all Quantity.isZero

section Components

variable {payload : ∀ β [Scalar β], VectorPayload (F β) β} {readers : List (∀ β, F β → β)}
  (hc : Payload.Components F payload readers)
include hc

theorem axes_eq_map_along {d : Exponents} (q : Quantity d (F α)) :
    q.axes = readers.map (along · q) := by
  simp only [Quantity.axes, hc.toList, List.map_map]
  rfl

theorem axes_eq_of_along {e : Exponents} {c : Quantity e (F α)}
    {g : (∀ β, F β → β) → Quantity e α} (h : ∀ r ∈ readers, along r c = g r) :
    c.axes = readers.map g := by
  rw [axes_eq_map_along hc]
  exact List.map_congr_left h

theorem axes_map_of_along {d e : Exponents} {a : Quantity d (F α)} {c : Quantity e (F α)}
    {f : Quantity d α → Quantity e α} (h : ∀ r ∈ readers, along r c = f (along r a)) :
    c.axes = a.axes.map f := by
  rw [axes_eq_map_along hc a, List.map_map]
  exact axes_eq_of_along hc h

theorem axes_zipWith_of_along {d e k : Exponents} {a : Quantity d (F α)} {b : Quantity e (F α)}
    {c : Quantity k (F α)} {f : Quantity d α → Quantity e α → Quantity k α}
    (h : ∀ r ∈ readers, along r c = f (along r a) (along r b)) :
    c.axes = List.zipWith f a.axes b.axes := by
  rw [axes_eq_map_along hc a, axes_eq_map_along hc b, List.zipWith_map, List.zipWith_self]
  exact axes_eq_of_along hc h

theorem axes_zipWith3_of_along {d : Exponents} {a b c q : Quantity d (F α)}
    {f : Quantity d α → Quantity d α → Quantity d α → Quantity d α}
    (h : ∀ r ∈ readers, along r q = f (along r a) (along r b) (along r c)) :
    q.axes = List.zipWith3 f a.axes b.axes c.axes := by
  rw [axes_eq_map_along hc a, axes_eq_map_along hc b, axes_eq_map_along hc c,
    List.zipWith3_map_self]
  exact axes_eq_of_along hc h

theorem along_mk_map {d e : Exponents} (f : α → α) (q : Quantity d (F α)) {r : ∀ β, F β → β}
    (hr : r ∈ readers) :
    along r (⟨Payload.map f q.value⟩ : Quantity e (F α)) = ⟨f (along r q).value⟩ := by
  simp [along, hc.map f q.value r hr]

theorem along_mk_zipWith {d e k : Exponents} (f : α → α → α) (a : Quantity d (F α))
    (b : Quantity e (F α)) {r : ∀ β, F β → β} (hr : r ∈ readers) :
    along r (⟨Payload.zipWith f a.value b.value⟩ : Quantity k (F α)) =
      ⟨f (along r a).value (along r b).value⟩ := by
  simp [along, hc.zipWith f a.value b.value r hr]

theorem along_zero {d : Exponents} {r : ∀ β, F β → β} (hr : r ∈ readers) :
    along r (Quantity.zero : Quantity d (F α)) = Quantity.zero := by
  simp [along, Quantity.zero, hc.splat _ r hr]

theorem along_foldl_add {d : Exponents} {r : ∀ β, F β → β} (hr : r ∈ readers)
    (acc : Quantity d (F α)) (qs : List (Quantity d (F α))) :
    along r (qs.foldl Quantity.add acc) = (qs.map (along r)).foldl Quantity.add (along r acc) := by
  induction qs generalizing acc with
  | nil => rfl
  | cons q qs ih =>
    rw [List.foldl_cons, ih, List.map_cons, List.foldl_cons]
    congr 1
    exact along_mk_zipWith hc _ acc q hr

theorem toList_map_value {d : Exponents} (f : α → α) (q : Quantity d (F α)) :
    Payload.toList (Payload.map f q.value) = q.axes.map fun c => f c.value := by
  rw [hc.toList, axes_eq_map_along hc q, List.map_map]
  exact List.map_congr_left fun r hr => hc.map f q.value r hr

theorem any_value {d : Exponents} (p : α → Bool) (q : Quantity d (F α)) :
    Payload.any p q.value = q.axes.any fun c => Payload.any p c.value := by
  simp [Payload.any, hc.toList, axes_eq_map_along hc q, along, Function.comp_def]

theorem cast_eq_some {d : Exponents} (β : Type) [Scalar β] (q : Quantity d (F α)) :
    ∃ w : Quantity d (F β), q.cast = some w ∧
      w.axes = q.axes.map fun c => ⟨Scalar.ofDouble (Scalar.toDouble c.value)⟩ := by
  obtain ⟨w, hw, hread⟩ := hc.ofList?
    ((Payload.toList q.value).map fun x => (Scalar.ofDouble (Scalar.toDouble x) : β))
    (by simp [hc.toList])
  refine ⟨⟨w⟩, by simp [Quantity.cast, hw], ?_⟩
  rw [axes_eq_map_along hc, axes_eq_map_along hc q, List.map_map]
  rw [hc.toList, List.map_map] at hread
  exact List.map_congr_left fun r hr => congrArg Quantity.mk (List.map_inj_left.mp hread r hr)

/-- The laws of a payload shape give every operation axis by axis. Only the product with a scalar
quantity on the left needs multiplication to commute: each axis is multiplied on the left of the
scalar, where the scalar product puts the scalar first. -/
theorem axisWise_of_components (hmul : ∀ x y : α, x * y = y * x) :
    AxisWise F payload readers α where
  axes := axes_eq_map_along hc
  add a b := axes_zipWith_of_along hc fun _ hr => along_mk_zipWith hc _ a b hr
  sub a b := axes_zipWith_of_along hc fun _ hr => along_mk_zipWith hc _ a b hr
  neg a := axes_map_of_along hc fun _ hr => along_mk_map hc _ a hr
  scale a _ := axes_map_of_along hc fun _ hr => along_mk_map hc _ a hr
  divScalar a _ := axes_map_of_along hc fun _ hr => along_mk_map hc _ a hr
  scaleBy_left s a := axes_map_of_along hc fun _ hr =>
    (along_mk_map hc _ a hr).trans (congrArg Quantity.mk (hmul _ s.value))
  scaleBy_right _ a := axes_map_of_along hc fun _ hr => along_mk_map hc _ a hr
  mul a b := axes_zipWith_of_along hc fun _ hr => along_mk_zipWith hc _ a b hr
  div a b := axes_zipWith_of_along hc fun _ hr => along_mk_zipWith hc _ a b hr
  divBy a _ := axes_map_of_along hc fun _ hr => along_mk_map hc _ a hr
  abs a := axes_map_of_along hc fun _ hr => along_mk_map hc _ a hr
  signum a := toList_map_value hc _ a
  min a b := axes_zipWith_of_along hc fun _ hr => along_mk_zipWith hc _ a b hr
  max a b := axes_zipWith_of_along hc fun _ hr => along_mk_zipWith hc _ a b hr
  clamp a lo hi := axes_zipWith3_of_along hc fun _ hr => by
    -- the maximum with `lo` first, then the minimum with `hi`, each on the one axis
    rw [Quantity.clamp, Quantity.min, Quantity.zipWith, along_mk_zipWith hc _ _ hi hr,
      Quantity.max, Quantity.zipWith, along_mk_zipWith hc _ a lo hr]
    rfl
  lerp a b _ := axes_zipWith_of_along hc fun _ hr => along_mk_zipWith hc _ a b hr
  powi a _ := axes_map_of_along hc fun _ hr => along_mk_map hc _ a hr
  root a _ := axes_map_of_along hc fun _ hr => along_mk_map hc _ a hr
  ofPayload u raw := by
    rw [hc.toList, List.map_map]
    exact axes_eq_of_along hc fun _ hr => along_mk_map hc _ (⟨raw⟩ : Quantity u.exponents (F α)) hr
  valueIn _ q := toList_map_value hc _ q
  cast := fun {_ β} _ q => by
    obtain ⟨w, hw, haxes⟩ := cast_eq_some hc β q
    rw [hw, Option.map_some, haxes]
    exact (List.mapM_some _ _).symm
  sum qs := axes_eq_of_along hc fun _ hr => by
    rw [Quantity.sum, along_foldl_add hc hr, along_zero hc hr]
    rfl
  isNaN q := any_value hc _ q
  isInfinite q := any_value hc _ q
  isFinite q := by
    rw [Quantity.isFinite, any_value hc, List.not_any_eq_all_not]
    rfl
  isZero q := by
    simp only [Quantity.isZero, Quantity.eq, Payload.all₂, hc.toList, axes_eq_map_along hc q,
      List.zip_map', List.all_map]
    rw [Bool.eq_iff_iff, List.all_eq_true, List.all_eq_true]
    exact forall₂_congr fun r hr => by
      simp [along, hc.splat _ r hr, Quantity.isZero, Quantity.eq, Payload.all₂, Quantity.zero]

end Components

/-- Every component-wise operation on a two- or three-vector quantity is, axis by axis, the
operation on scalar quantities, for any element type whose multiplication commutes. -/
theorem axes_componentwise {α : Type} [Scalar α] (hmul : ∀ x y : α, x * y = y * x) :
    AxisWise Vector2 (fun _ _ => inferInstance) Vector2.axisReaders α ∧
      AxisWise Vector3 (fun _ _ => inferInstance) Vector3.axisReaders α :=
  ⟨axisWise_of_components Payload.components_vector2 hmul,
    axisWise_of_components Payload.components_vector3 hmul⟩

/-- Doubles and singles multiply commutatively, so vectors of either read axis by axis. -/
theorem axes_componentwise_floats :
    ((∀ x y : Double, x * y = y * x) ∧
        AxisWise Vector2 (fun _ _ => inferInstance) Vector2.axisReaders Double ∧
        AxisWise Vector3 (fun _ _ => inferInstance) Vector3.axisReaders Double) ∧
      ((∀ x y : Single, x * y = y * x) ∧
        AxisWise Vector2 (fun _ _ => inferInstance) Vector2.axisReaders Single ∧
        AxisWise Vector3 (fun _ _ => inferInstance) Vector3.axisReaders Single) :=
  ⟨⟨Double.mul_comm, axes_componentwise Double.mul_comm⟩,
    ⟨Single.mul_comm, axes_componentwise Single.mul_comm⟩⟩

end Quantity

end Dimensional
