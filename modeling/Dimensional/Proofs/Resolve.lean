import Dimensional.Registry.Resolve
import Dimensional.Proofs.Registry

/-!
# Resolving signatures

What `Registry.resolve` answers for a signature, said without its loop. Exponents are read as
vectors of integers (`Exponents.vec`), so that the dimension of a signature is the exact sum of
its terms' exponents times their powers, and the 32-bit checks become the statement that a
vector `Fits`.

`resolveTerms` states the answer for the terms of a signature: the first term from the left
that faults gives the error (an unknown symbol, an offset unit that does not stand alone with
power one, or exponents that leave 32 bits, alone or added to the terms before); failing that,
an offset unit is the answer as registered, and otherwise the exact dimension with the product
of the factors, which must be finite and non-zero. `resolve_eq_bind` says that `resolve` is
the parse followed by `resolveTerms`, and `resolveTerms_eq_ok_iff` lists the conditions of a
result in `Resolves`.
-/

namespace Dimensional

namespace Exponents

/-- The exponents as integers, in the order of the base dimensions. -/
def vec (e : Exponents) : Fin 5 → Int
  | 0 => e.length.toInt
  | 1 => e.mass.toInt
  | 2 => e.time.toInt
  | 3 => e.temperature.toInt
  | 4 => e.angle.toInt

/-- Whether every integer of a vector fits in 32 bits. -/
def Fits (v : Fin 5 → Int) : Prop := ∀ k, -2 ^ 31 ≤ v k ∧ v k < 2 ^ 31

instance (v : Fin 5 → Int) : Decidable (Fits v) :=
  Nat.decidableForallFin fun k => -2 ^ 31 ≤ v k ∧ v k < 2 ^ 31

/-- The exponents with the integers of a vector, each taken modulo `2^32`. -/
def ofVec (v : Fin 5 → Int) : Exponents :=
  ⟨Int32.ofInt (v 0), Int32.ofInt (v 1), Int32.ofInt (v 2), Int32.ofInt (v 3), Int32.ofInt (v 4)⟩

/-- The exact exponents of the `n`-th power. -/
def powerVec (e : Exponents) (n : Int32) : Fin 5 → Int := fun k => n.toInt * e.vec k

theorem fits_iff {v : Fin 5 → Int} : Fits v ↔
    (-2 ^ 31 ≤ v 0 ∧ v 0 < 2 ^ 31) ∧ (-2 ^ 31 ≤ v 1 ∧ v 1 < 2 ^ 31) ∧
      (-2 ^ 31 ≤ v 2 ∧ v 2 < 2 ^ 31) ∧ (-2 ^ 31 ≤ v 3 ∧ v 3 < 2 ^ 31) ∧
      (-2 ^ 31 ≤ v 4 ∧ v 4 < 2 ^ 31) := by
  constructor
  · intro h
    exact ⟨h 0, h 1, h 2, h 3, h 4⟩
  · rintro ⟨h0, h1, h2, h3, h4⟩ k
    match k with
    | 0 => exact h0
    | 1 => exact h1
    | 2 => exact h2
    | 3 => exact h3
    | 4 => exact h4

theorem fits_vec (e : Exponents) : Fits e.vec := by
  intro k
  match k with
  | 0 => exact ⟨Int32.le_toInt _, Int32.toInt_lt _⟩
  | 1 => exact ⟨Int32.le_toInt _, Int32.toInt_lt _⟩
  | 2 => exact ⟨Int32.le_toInt _, Int32.toInt_lt _⟩
  | 3 => exact ⟨Int32.le_toInt _, Int32.toInt_lt _⟩
  | 4 => exact ⟨Int32.le_toInt _, Int32.toInt_lt _⟩

@[simp] theorem ofVec_vec (e : Exponents) : ofVec e.vec = e := by
  simp [ofVec, vec, Int32.ofInt_toInt]

theorem vec_ofVec {v : Fin 5 → Int} (h : Fits v) : (ofVec v).vec = v := by
  funext k
  have hk := h k
  match k with
  | 0 => exact Int32.toInt_ofInt_of_le hk.1 hk.2
  | 1 => exact Int32.toInt_ofInt_of_le hk.1 hk.2
  | 2 => exact Int32.toInt_ofInt_of_le hk.1 hk.2
  | 3 => exact Int32.toInt_ofInt_of_le hk.1 hk.2
  | 4 => exact Int32.toInt_ofInt_of_le hk.1 hk.2

@[simp] theorem vec_dimensionless : dimensionless.vec = 0 := by
  funext k
  match k with
  | 0 | 1 | 2 | 3 | 4 => rfl

/-- An operation of exponents made exponent by exponent with a partial operation that computes
`g` exactly and refuses a result out of range computes `g` on the vectors, and refuses a vector
that does not fit. -/
theorem zipWith?_exact {op : Int32 → Int32 → Option Int32} {g : Int → Int → Int}
    (hop : ∀ x y, op x y = if -2 ^ 31 ≤ g x.toInt y.toInt ∧ g x.toInt y.toInt < 2 ^ 31
      then some (Int32.ofInt (g x.toInt y.toInt)) else none) (a b : Exponents) :
    zipWith? op a b = if Fits (fun k => g (a.vec k) (b.vec k))
      then some (ofVec fun k => g (a.vec k) (b.vec k)) else none := by
  simp only [zipWith?, hop, fits_iff, vec, ofVec]
  -- a component out of range makes the whole none; the conditions are linear in the atoms `g x y`
  split_ifs <;> first | rfl | omega

theorem product?_eq (a b : Exponents) :
    a.product? b = if Fits (a.vec + b.vec) then some (ofVec (a.vec + b.vec)) else none :=
  zipWith?_exact (g := (· + ·)) (fun _ _ => rfl) a b

theorem power?_eq (e : Exponents) (n : Int32) :
    e.power? n = if Fits (e.powerVec n) then some (ofVec (e.powerVec n)) else none :=
  zipWith?_exact (g := fun x _ => n.toInt * x) (fun x _ => by simp [checkedMul, Int.mul_comm]) e e

/-- The step of resolution: a power, then its sum with the dimension so far, both checked. -/
theorem power?_bind_product? (e a : Exponents) (n : Int32) :
    (a.power? n).bind e.product? =
      if Fits (a.powerVec n) ∧ Fits (e.vec + a.powerVec n)
      then some (ofVec (e.vec + a.powerVec n)) else none := by
  rw [power?_eq]
  by_cases hp : Fits (a.powerVec n)
  · rw [if_pos hp, Option.bind_some, product?_eq, vec_ofVec hp]
    simp only [hp, true_and]
  · rw [if_neg hp, Option.bind_none]
    simp only [hp, false_and, if_false]

theorem powerVec_one (e : Exponents) : e.powerVec 1 = e.vec := by
  funext k
  simp [powerVec]

end Exponents

namespace Registry

open Exponents Double Signature

section

variable (r : Registry)

/-- What a term adds to the exact dimension of a signature: its unit's exponents times its power.
An unregistered symbol adds nothing; resolution stops at it anyway. -/
def added (t : Term) : Fin 5 → Int :=
  match r.find? t.symbol with
  | some u => u.exponents.powerVec t.power
  | none => 0

/-- The factor a term multiplies in: its unit's factor to its power (one if unregistered). -/
def termFactor (t : Term) : Double :=
  match r.find? t.symbol with
  | some u => Scalar.powi u.factor t.power.toInt
  | none => 1.0

/-- The exact dimension before each term and after the last, from `start`. -/
def runningSums (start : Fin 5 → Int) (ts : List Term) : List (Fin 5 → Int) :=
  (ts.map (added r)).scanl (· + ·) start

/-- The product of the terms' factors from the left, starting from `f`. -/
def factorProduct (f : Double) (ts : List Term) : Double :=
  (ts.map (termFactor r)).foldl (· * ·) f

/-- Why a term of a signature is refused, given the exact dimension `before` of the terms before
it: its symbol is unknown; it is an offset unit that does not stand alone with power one; or
its exponents, or their sum with `before`, leave 32 bits. -/
def termFault (signature : String) (single : Bool) (before : Fin 5 → Int) (t : Term) :
    Option ParseError :=
  match r.find? t.symbol with
  | none => some (.unknownUnit t.symbol)
  | some u =>
    if u.ratio.isAffine then
      if single = true ∧ t.power = 1 then none else some (.affineInCompound t.symbol)
    else if Fits (u.exponents.powerVec t.power) ∧ Fits (before + u.exponents.powerVec t.power)
    then none
    else some (.malformed signature .exponentOverflow)

/-- The first offset unit among the terms. -/
def offsetUnit? (ts : List Term) : Option UnitDef :=
  ts.findSome? fun t => (r.find? t.symbol).filter (·.ratio.isAffine)

/-- The unit of terms that follow terms of exact dimension `start` and factor `f`: the first
fault from the left, if a term faults; an offset unit among the terms as registered; otherwise
the exact dimension and the product of the factors, refused if the product is zero or not
finite. -/
def resolveFrom (signature : String) (single : Bool) (start : Fin 5 → Int) (f : Double)
    (ts : List Term) : Except ParseError UnitDef :=
  match (ts.zip (runningSums r start ts)).findSome? fun p => termFault r signature single p.2 p.1 with
  | some fault => .error fault
  | none =>
    match offsetUnit? r ts with
    | some u => .ok u
    | none =>
      if (factorProduct r f ts).FiniteNonzero then
        .ok (.scaled (ofVec (start + (ts.map (added r)).sum)) (factorProduct r f ts))
      else .error (.malformed signature .factorOutOfRange)

/-- The unit of the terms of a whole signature. -/
def resolveTerms (signature : String) (ts : List Term) : Except ParseError UnitDef :=
  resolveFrom r signature (ts.length == 1) 0 1.0 ts

/-- What the terms of a signature resolve to, when they do: every symbol is registered; an
offset unit stands alone, with power one; each term's exponents, and the exact sum up to it,
fit in 32 bits; the product of the factors is finite and non-zero; and the unit is the offset
unit as registered, or else the exact sum of the exponents with that product. -/
structure Resolves (ts : List Term) (c : UnitDef) : Prop where
  registered : ∀ t ∈ ts, r.contains t.symbol = true
  offsetAlone : offsetUnit? r ts = none ∨ ∃ t, ts = [t] ∧ t.power = 1
  fits : ∀ p ∈ ts.zip (runningSums r 0 ts), Fits (added r p.1) ∧ Fits (p.2 + added r p.1)
  factor : (factorProduct r 1.0 ts).FiniteNonzero
  unit : match offsetUnit? r ts with
    | some u => c = u
    | none => c.exponents.vec = (ts.map (added r)).sum ∧ c.ratio = .scale (factorProduct r 1.0 ts)

end

variable {r : Registry} {signature : String} {single : Bool}

/-! ## One term at a time -/

theorem runningSums_cons (start : Fin 5 → Int) (t : Term) (ts : List Term) :
    runningSums r start (t :: ts) = start :: runningSums r (start + added r t) ts := by
  simp [runningSums, List.scanl_cons]

theorem resolveFrom_of_termFault {start : Fin 5 → Int} {f : Double} {t : Term} {ts : List Term}
    {fault : ParseError} (h : termFault r signature single start t = some fault) :
    resolveFrom r signature single start f (t :: ts) = .error fault := by
  simp only [resolveFrom, runningSums_cons, List.zip_cons_cons, List.findSome?_cons, h]

/-- A scale unit that passes its checks is added to the dimension and the factor, and
resolution goes on with the terms after it. -/
theorem resolveFrom_cons_scale {start : Fin 5 → Int} {f : Double} {t : Term} {ts : List Term}
    {u : UnitDef} (hu : r.find? t.symbol = some u) (hscale : u.ratio.isAffine = false)
    (h : termFault r signature single start t = none) :
    resolveFrom r signature single start f (t :: ts) =
      resolveFrom r signature single (start + u.exponents.powerVec t.power)
        (f * Scalar.powi u.factor t.power.toInt) ts := by
  have hadded : added r t = u.exponents.powerVec t.power := by simp [added, hu]
  have hoffset : offsetUnit? r (t :: ts) = offsetUnit? r ts := by
    simp [offsetUnit?, hu, hscale]
  have hproduct : factorProduct r f (t :: ts) =
      factorProduct r (f * Scalar.powi u.factor t.power.toInt) ts := by
    simp [factorProduct, termFactor, hu]
  simp only [resolveFrom, runningSums_cons, List.zip_cons_cons, List.findSome?_cons, h, hadded,
    hoffset, hproduct, List.map_cons, List.sum_cons]
  rw [← add_assoc]

/-- An offset unit that is the whole signature, with power one, is the answer as registered. -/
theorem resolveFrom_offset {start : Fin 5 → Int} {f : Double} {t : Term} {u : UnitDef}
    (hu : r.find? t.symbol = some u) (haffine : u.ratio.isAffine = true) (hpower : t.power = 1) :
    resolveFrom r signature true start f [t] = .ok u := by
  have hfault : termFault r signature true start t = none := by
    simp [termFault, hu, haffine, hpower]
  have hoffset : offsetUnit? r [t] = some u := by
    simp [offsetUnit?, hu, haffine]
  simp only [resolveFrom, runningSums_cons, List.zip_cons_cons, List.findSome?_cons, hfault,
    List.zip_nil_left, List.findSome?_nil, hoffset]

/-- Once every term has passed, the dimension is the one so far and the factor is checked. -/
theorem combine_nil (e : Exponents) (f : Double) :
    combine r signature single [] e f = resolveFrom r signature single e.vec f [] := by
  have hproduct : factorProduct r f [] = f := rfl
  simp only [combine, resolveFrom, runningSums, List.map_nil, List.scanl_nil, List.zip_nil_left,
    List.findSome?_nil, offsetUnit?, hproduct, List.sum_nil]
  rw [add_zero, ofVec_vec]
  by_cases hf : f.FiniteNonzero
  · rw [if_pos hf, if_neg (by rw [finiteNonzero_iff_check.1 hf]; decide)]
  · rw [if_neg hf, if_pos (by rw [← Bool.not_eq_false, ← finiteNonzero_iff_check]; exact hf)]

/-- Under the single-term flag, nothing follows the first term. -/
theorem eq_nil_of_single {t : Term} {ts : List Term}
    (h : single = true → (t :: ts).length ≤ 1) (hs : single = true) : ts = [] := by
  have := h hs
  rw [List.length_cons] at this
  exact List.eq_nil_of_length_eq_zero (by omega)

/-- The loop of `resolve` computes `resolveFrom`: by induction on the terms, with the dimension
and factor so far as the start. A single term is the only one. -/
theorem combine_eq_resolveFrom (ts : List Term) (e : Exponents) (f : Double)
    (hsingle : single = true → ts.length ≤ 1) :
    combine r signature single ts e f = resolveFrom r signature single e.vec f ts := by
  induction ts generalizing e f with
  | nil => exact combine_nil e f
  | cons t ts ih =>
    rw [combine]
    cases hu : r.find? t.symbol with
    | none =>
      exact (resolveFrom_of_termFault (by simp [termFault, hu])).symm
    | some u =>
      simp only
      cases haffine : u.ratio.isAffine
      · simp only [Bool.false_eq_true, if_false, power?_bind_product?]
        by_cases hfits : Fits (u.exponents.powerVec t.power) ∧
            Fits (e.vec + u.exponents.powerVec t.power)
        · have hfault : termFault r signature single e.vec t = none := by
            simp [termFault, hu, haffine, hfits]
          have hrest : single = true → ts.length ≤ 1 := fun h => by
            simp [eq_nil_of_single hsingle h]
          rw [if_pos hfits]
          dsimp only
          rw [resolveFrom_cons_scale hu haffine hfault, ih _ _ hrest, vec_ofVec hfits.2]
        · rw [if_neg hfits]
          exact (resolveFrom_of_termFault (by simp [termFault, hu, haffine, hfits])).symm
      · simp only [if_true]
        by_cases halone : single = true ∧ t.power = 1
        · obtain ⟨rfl, hpower⟩ := halone
          obtain rfl := eq_nil_of_single hsingle rfl
          simp only [hpower, Bool.and_self, beq_self_eq_true, if_true]
          exact (resolveFrom_offset hu haffine hpower).symm
        · have hcode : (single && t.power == 1) = false := by
            simpa [Bool.and_eq_true] using halone
          rw [hcode]
          exact (resolveFrom_of_termFault (by simp [termFault, hu, haffine, halone])).symm

/-- Resolving a signature is parsing it and resolving its terms; a parse error comes before any
symbol is looked up. -/
theorem resolve_eq_bind (r : Registry) (signature : String) :
    r.resolve signature = (Signature.parse r.contains signature).bind (resolveTerms r signature) := by
  unfold resolve
  cases Signature.parse r.contains signature with
  | error e => rfl
  | ok ts =>
    show combine r signature (ts.length == 1) ts .dimensionless 1.0 = resolveTerms r signature ts
    rw [combine_eq_resolveFrom ts _ _ (fun h => by simp at h; omega), vec_dimensionless]
    rfl

/-! ## When resolution gives a unit -/

theorem resolveFrom_eq_ok_iff {start : Fin 5 → Int} {f : Double} {ts : List Term} {c : UnitDef} :
    resolveFrom r signature single start f ts = .ok c ↔
      (∀ p ∈ ts.zip (runningSums r start ts), termFault r signature single p.2 p.1 = none) ∧
      match offsetUnit? r ts with
      | some u => c = u
      | none => (factorProduct r f ts).FiniteNonzero ∧
          c = .scaled (ofVec (start + (ts.map (added r)).sum)) (factorProduct r f ts) := by
  unfold resolveFrom
  cases hfault : (ts.zip (runningSums r start ts)).findSome? fun p =>
      termFault r signature single p.2 p.1 with
  | some fault =>
    obtain ⟨l₁, p, l₂, hp, hfp, -⟩ := List.findSome?_eq_some_iff.1 hfault
    refine ⟨(fun h => nomatch h), fun ⟨hnone, _⟩ => ?_⟩
    rw [hnone p (by rw [hp]; simp)] at hfp
    exact nomatch hfp
  | none =>
    rw [List.findSome?_eq_none_iff] at hfault
    dsimp only
    cases offsetUnit? r ts with
    | some u =>
      exact ⟨fun h => ⟨hfault, (Except.ok.inj h).symm⟩, fun ⟨_, (h : c = u)⟩ => h ▸ rfl⟩
    | none =>
      by_cases hf : (factorProduct r f ts).FiniteNonzero
      · rw [if_pos hf]
        exact ⟨fun h => ⟨hfault, hf, (Except.ok.inj h).symm⟩, fun ⟨_, _, h⟩ => h ▸ rfl⟩
      · rw [if_neg hf]
        exact ⟨(fun h => nomatch h), fun h => absurd h.2.1 hf⟩

/-- Every term is paired with the exact dimension before it. -/
theorem exists_mem_zip_runningSums (start : Fin 5 → Int) {t : Term} {ts : List Term}
    (ht : t ∈ ts) : ∃ s, (t, s) ∈ ts.zip (runningSums r start ts) := by
  induction ts generalizing start with
  | nil => exact absurd ht List.not_mem_nil
  | cons t' ts ih =>
    rw [runningSums_cons, List.zip_cons_cons]
    rcases List.mem_cons.1 ht with rfl | ht
    · exact ⟨start, List.mem_cons_self⟩
    · obtain ⟨s, hs⟩ := ih (start + added r t') ht
      exact ⟨s, List.mem_cons_of_mem _ hs⟩

theorem exists_of_offsetUnit? {ts : List Term} {u : UnitDef} (h : offsetUnit? r ts = some u) :
    ∃ t ∈ ts, r.find? t.symbol = some u ∧ u.ratio.isAffine = true := by
  obtain ⟨-, t, -, rfl, ht, -⟩ := List.findSome?_eq_some_iff.1 h
  rw [Option.filter_eq_some_iff] at ht
  exact ⟨t, by simp, ht⟩

theorem offsetUnit?_eq_none_iff {ts : List Term} :
    offsetUnit? r ts = none ↔
      ∀ t ∈ ts, ∀ u, r.find? t.symbol = some u → u.ratio.isAffine = false := by
  simp only [offsetUnit?, List.findSome?_eq_none_iff, Option.filter_eq_none_iff,
    Bool.not_eq_true]

theorem contains_of_termFault_eq_none {before : Fin 5 → Int} {t : Term}
    (h : termFault r signature single before t = none) : r.contains t.symbol = true := by
  cases hu : r.find? t.symbol with
  | none => simp [termFault, hu] at h
  | some u => simp [contains, hu]

theorem termFault_eq_none_of_affine {before : Fin 5 → Int} {t : Term} {u : UnitDef}
    (hu : r.find? t.symbol = some u) (haffine : u.ratio.isAffine = true) :
    termFault r signature single before t = none ↔ single = true ∧ t.power = 1 := by
  by_cases h : single = true ∧ t.power = 1 <;> simp [termFault, hu, haffine, h]

theorem termFault_eq_none_of_scale {before : Fin 5 → Int} {t : Term} {u : UnitDef}
    (hu : r.find? t.symbol = some u) (hscale : u.ratio.isAffine = false) :
    termFault r signature single before t = none ↔
      Fits (added r t) ∧ Fits (before + added r t) := by
  have hadded : added r t = u.exponents.powerVec t.power := by simp [added, hu]
  rw [hadded]
  by_cases h : Fits (u.exponents.powerVec t.power) ∧ Fits (before + u.exponents.powerVec t.power) <;>
    simp [termFault, hu, hscale, h]

/-- With no offset unit among the terms, no term faults exactly when every symbol is registered
and every exponent and running sum fits. -/
theorem termFaults_eq_none_iff {start : Fin 5 → Int} {ts : List Term}
    (hscale : offsetUnit? r ts = none) :
    (∀ p ∈ ts.zip (runningSums r start ts), termFault r signature single p.2 p.1 = none) ↔
      (∀ t ∈ ts, r.contains t.symbol = true) ∧
      ∀ p ∈ ts.zip (runningSums r start ts), Fits (added r p.1) ∧ Fits (p.2 + added r p.1) := by
  have hall := offsetUnit?_eq_none_iff.1 hscale
  -- the unit of a term of the signature, once its symbol is known to be registered
  have hunit : ∀ t ∈ ts, r.contains t.symbol = true →
      ∃ u, r.find? t.symbol = some u ∧ u.ratio.isAffine = false := by
    intro t ht hc
    obtain ⟨u, hu⟩ := Option.isSome_iff_exists.1 hc
    exact ⟨u, hu, hall t ht u hu⟩
  constructor
  · intro h
    have hreg : ∀ t ∈ ts, r.contains t.symbol = true := by
      intro t ht
      obtain ⟨s, hs⟩ := exists_mem_zip_runningSums start ht
      exact contains_of_termFault_eq_none (h _ hs)
    refine ⟨hreg, fun p hp => ?_⟩
    have hp₁ := (List.of_mem_zip hp).1
    obtain ⟨u, hu, hs⟩ := hunit p.1 hp₁ (hreg p.1 hp₁)
    exact (termFault_eq_none_of_scale hu hs).1 (h p hp)
  · rintro ⟨hreg, hfits⟩ p hp
    have hp₁ := (List.of_mem_zip hp).1
    obtain ⟨u, hu, hs⟩ := hunit p.1 hp₁ (hreg p.1 hp₁)
    exact (termFault_eq_none_of_scale hu hs).2 (hfits p hp)

/-- When every running sum fits, so does the whole sum: it is the last of them. -/
theorem fits_sum {start : Fin 5 → Int} {ts : List Term} (hstart : Fits start)
    (h : ∀ p ∈ ts.zip (runningSums r start ts), Fits (p.2 + added r p.1)) :
    Fits (start + (ts.map (added r)).sum) := by
  induction ts generalizing start with
  | nil => simpa using hstart
  | cons t ts ih =>
    simp only [runningSums_cons, List.zip_cons_cons, List.mem_cons, forall_eq_or_imp] at h
    rw [List.map_cons, List.sum_cons, ← add_assoc]
    exact ih h.1 h.2

/-- Running sums that all stay in range leave the whole dimension in range. -/
theorem fits_total {ts : List Term}
    (h : ∀ p ∈ ts.zip (runningSums r 0 ts), Fits (added r p.1) ∧ Fits (p.2 + added r p.1)) :
    Fits (ts.map (added r)).sum := by
  have hzero : Fits 0 := vec_dimensionless ▸ fits_vec dimensionless
  simpa using fits_sum hzero fun p hp => (h p hp).2

theorem Resolves.eq_of_offsetUnit? {ts : List Term} {c u : UnitDef} (h : Resolves r ts c)
    (hoff : offsetUnit? r ts = some u) : c = u := by
  have := h.unit
  rw [hoff] at this
  exact this

theorem Resolves.scaled {ts : List Term} {c : UnitDef} (h : Resolves r ts c)
    (hoff : offsetUnit? r ts = none) :
    c.exponents.vec = (ts.map (added r)).sum ∧ c.ratio = .scale (factorProduct r 1.0 ts) := by
  have := h.unit
  rw [hoff] at this
  exact this

theorem eq_scaled_iff {c : UnitDef} {v : Fin 5 → Int} {f : Double} (hv : Fits v) :
    c = .scaled (ofVec v) f ↔ c.exponents.vec = v ∧ c.ratio = .scale f := by
  constructor
  · rintro rfl
    exact ⟨vec_ofVec hv, rfl⟩
  · rintro ⟨hvec, hratio⟩
    obtain ⟨e, ratio⟩ := c
    simp only at hvec hratio
    rw [← hvec, ofVec_vec, hratio]
    rfl

/-- An offset unit with power one, standing alone, resolves to itself: its exponents fit and
its factor, which the rules make finite and non-zero, is multiplied twice by one. -/
theorem resolves_offset {t : Term} {u : UnitDef} (hu : r.find? t.symbol = some u)
    (haffine : u.ratio.isAffine = true) (hpower : t.power = 1) (hfactor : u.factor.FiniteNonzero) :
    Resolves r [t] u := by
  have hadded : added r t = u.exponents.vec := by simp [added, hu, hpower, powerVec_one]
  have hoffset : offsetUnit? r [t] = some u := by simp [offsetUnit?, hu, haffine]
  have hproduct : factorProduct r 1.0 [t] = u.factor := by
    simp only [factorProduct, termFactor, hu, hpower, List.map_cons, List.map_nil,
      List.foldl_cons, List.foldl_nil]
    rw [show ((1 : Int32).toInt) = 1 from rfl, powi_one, one_mul hfactor.1, one_mul hfactor.1]
  refine ⟨?_, .inr ⟨t, rfl, hpower⟩, ?_, hproduct ▸ hfactor, ?_⟩
  · intro t' ht'
    rw [List.mem_singleton.1 ht']
    simp [contains, hu]
  · intro p hp
    simp only [runningSums_cons, List.zip_cons_cons, List.mem_cons, List.zip_nil_left,
      List.not_mem_nil, or_false] at hp
    subst hp
    rw [hadded, zero_add]
    exact ⟨fits_vec _, fits_vec _⟩
  · rw [hoffset]

/-- The terms of a signature resolve to a unit exactly when the conditions of `Resolves` hold;
the registry's rules give an offset unit its finite non-zero factor. -/
theorem resolveTerms_eq_ok_iff (hr : r.Valid) {ts : List Term} {c : UnitDef} :
    resolveTerms r signature ts = .ok c ↔ Resolves r ts c := by
  unfold resolveTerms
  rw [resolveFrom_eq_ok_iff]
  cases hoff : offsetUnit? r ts with
  | some u =>
    obtain ⟨t, ht, hu, haffine⟩ := exists_of_offsetUnit? hoff
    simp only
    constructor
    · rintro ⟨hfaults, rfl⟩
      -- the offset unit's term passed its check, so it is the only term and has power one
      obtain ⟨s, hs⟩ := exists_mem_zip_runningSums 0 ht
      obtain ⟨hsingle, hpower⟩ := (termFault_eq_none_of_affine hu haffine).1 (hfaults _ hs)
      obtain ⟨t', rfl⟩ := List.length_eq_one_iff.1 (beq_iff_eq.1 hsingle)
      obtain rfl := List.mem_singleton.1 ht
      exact resolves_offset hu haffine hpower (hr.find? hu).factor
    · intro hres
      have hc := hres.eq_of_offsetUnit? hoff
      rcases hres.offsetAlone with hnone | ⟨t', rfl, hpower⟩
      · rw [hoff] at hnone
        exact nomatch hnone
      · obtain rfl := List.mem_singleton.1 ht
        refine ⟨?_, hc⟩
        intro p hp
        simp only [runningSums_cons, List.zip_cons_cons, List.mem_cons, List.zip_nil_left,
          List.not_mem_nil, or_false] at hp
        subst hp
        exact (termFault_eq_none_of_affine hu haffine).2 ⟨rfl, hpower⟩
  | none =>
    simp only
    rw [termFaults_eq_none_iff hoff]
    constructor
    · rintro ⟨⟨hreg, hfits⟩, hfactor, hc⟩
      rw [zero_add] at hc
      refine ⟨hreg, .inl hoff, hfits, hfactor, ?_⟩
      rw [hoff]
      exact (eq_scaled_iff (fits_total hfits)).1 hc
    · intro hres
      rw [zero_add]
      exact ⟨⟨hres.registered, hres.fits⟩, hres.factor,
        (eq_scaled_iff (fits_total hres.fits)).2 (hres.scaled hoff)⟩

/-- A unit that resolution gives on a valid registry has a finite non-zero factor and a finite
offset: an offset unit is a registered one, and a scale unit's factor passed the final check. -/
theorem Valid.resolve_rules (hr : r.Valid) {c : UnitDef} (h : r.resolve signature = .ok c) :
    c.factor.FiniteNonzero ∧ c.ratio.offset.isFinite = true := by
  rw [resolve_eq_bind] at h
  cases hp : Signature.parse r.contains signature with
  | error e => rw [hp] at h; exact nomatch h
  | ok ts =>
    rw [hp] at h
    have hres := (resolveTerms_eq_ok_iff hr).1 h
    have hunit := hres.unit
    cases hoff : offsetUnit? r ts with
    | some u =>
      rw [hoff] at hunit
      subst hunit
      obtain ⟨t, -, hu, -⟩ := exists_of_offsetUnit? hoff
      exact ⟨(hr.find? hu).factor, (hr.find? hu).offset⟩
    | none =>
      rw [hoff] at hunit
      obtain ⟨e, ratio⟩ := c
      obtain rfl : ratio = .scale (factorProduct r 1.0 ts) := hunit.2
      exact ⟨hres.factor, isFinite_zero⟩

/-- Resolution of a signature on a valid registry. It is the parse followed by `resolveTerms`,
so a parse error comes first, then the first term from the left that faults, and the factor
check only after every term has passed. When the signature parses, it resolves to `c` exactly
when `Resolves` holds, and the product of the factors passes the check exactly when every
partial product does: a zero or an infinity on the way is never undone. -/
theorem resolve_spec (r : Registry) (hr : r.Valid) (signature : String) :
    r.resolve signature = (Signature.parse r.contains signature).bind (resolveTerms r signature) ∧
    ∀ ts, Signature.parse r.contains signature = .ok ts →
      (∀ c, r.resolve signature = .ok c ↔ Resolves r ts c) ∧
      ((factorProduct r 1.0 ts).FiniteNonzero ↔
        ∀ x ∈ (ts.map (termFactor r)).scanl (· * ·) 1.0, x.FiniteNonzero) := by
  refine ⟨resolve_eq_bind r signature, fun ts hts => ⟨fun c => ?_, finiteNonzero_foldl_mul_iff _ _⟩⟩
  rw [resolve_eq_bind, hts]
  exact resolveTerms_eq_ok_iff hr

theorem resolve_spec_builtin : builtin.Valid ∧
    (builtin.resolve "kg·m²/s²" =
        (Signature.parse builtin.contains "kg·m²/s²").bind (resolveTerms builtin "kg·m²/s²") ∧
      ∀ ts, Signature.parse builtin.contains "kg·m²/s²" = .ok ts →
        (∀ c, builtin.resolve "kg·m²/s²" = .ok c ↔ Resolves builtin ts c) ∧
        ((factorProduct builtin 1.0 ts).FiniteNonzero ↔
          ∀ x ∈ (ts.map (termFactor builtin)).scanl (· * ·) 1.0, x.FiniteNonzero)) :=
  ⟨valid_builtin, resolve_spec builtin valid_builtin "kg·m²/s²"⟩

end Registry

end Dimensional
