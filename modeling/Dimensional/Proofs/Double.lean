import Mathlib
import Dimensional.Scalar

/-!
# Facts of double arithmetic

What the unit registry needs to know of doubles. `decode_finite` reads the bits of a finite
double back from its sign, significand and exponent, and `roundRatio_exact` says that rounding a
value that already is a double gives that double; hence `one_mul`: multiplying by one changes no
finite value. `FiniteNonzero` is the check the registry makes of a factor, and
`finiteNonzero_of_mul` says that a zero, an infinity or a NaN absorbs every product it enters.
-/

namespace Dimensional
namespace Decimal
namespace BinaryFormat

@[simp] theorem double_fractionWidth : double.fractionWidth = 52 := rfl
@[simp] theorem double_exponentWidth : double.exponentWidth = 11 := rfl
@[simp] theorem double_precision : double.precision = 53 := rfl
@[simp] theorem double_signWeight : double.signWeight = 2 ^ 63 := rfl
@[simp] theorem double_leastExponent : double.leastExponent = -1074 := by decide
@[simp] theorem double_greatestExponent : double.greatestExponent = 971 := by decide

/-- The bits of a finite double from its sign, significand and exponent: a subnormal significand
stands at the least exponent, a normal one has its leading bit at `2^52`. -/
theorem decode_finite {b : Nat} (hb : b < 2 ^ 64) {s : Bool} {m : Nat} {q : Int}
    (h : double.decode b = .finite s m q) :
    (m < 2 ^ 52 ∧ q = -1074 ∨ 2 ^ 52 ≤ m ∧ m < 2 ^ 53 ∧ -1074 ≤ q ∧ q ≤ 971) ∧
      b = (if s then 2 ^ 63 else 0) +
        if m < 2 ^ 52 then m else (q + 1075).toNat * 2 ^ 52 + (m - 2 ^ 52) := by
  simp only [decode, double_fractionWidth, double_exponentWidth, double_signWeight,
    double_leastExponent, Nat.reducePow, Nat.reduceSub] at h
  -- the sign bit is the bit above the other 63
  have hsign : (b / 9223372036854775808 % 2 == 1) = decide (2 ^ 63 ≤ b) := by
    by_cases hb' : 2 ^ 63 ≤ b
    · simp only [hb', decide_true, beq_iff_eq]; omega
    · simp only [hb', decide_false, beq_eq_false_iff_ne]; omega
  rw [hsign] at h
  by_cases hmax : b / 4503599627370496 % 2048 = 2047
  · by_cases hfrac : b % 4503599627370496 = 0 <;> simp [hmax, hfrac] at h
  · by_cases hzero : b / 4503599627370496 % 2048 = 0
    · simp only [hzero, if_true] at h
      obtain ⟨rfl, rfl, rfl⟩ := h
      refine ⟨.inl ⟨by omega, rfl⟩, ?_⟩
      simp only [Nat.reducePow]
      rw [if_pos (show b % 4503599627370496 < 4503599627370496 by omega)]
      split <;> rename_i hs <;> simp only [decide_eq_true_eq] at hs <;> omega
    · simp only [hmax, hzero, if_false] at h
      obtain ⟨rfl, rfl, rfl⟩ := h
      refine ⟨.inr ⟨by omega, by omega, by omega, by omega⟩, ?_⟩
      simp only [Nat.reducePow]
      rw [if_neg (show ¬b % 4503599627370496 + 4503599627370496 < 4503599627370496 by omega)]
      split <;> rename_i hs <;> simp only [decide_eq_true_eq] at hs <;> omega

theorem encodeFinite_double (s : Bool) (m : Nat) (q : Int) :
    double.encodeFinite s m q = (if s then 2 ^ 63 else 0) +
      if m < 2 ^ 52 then m else (q + 1075).toNat * 2 ^ 52 + (m - 2 ^ 52) := by
  have hq : q - -1074 + 1 = q + 1075 := by omega
  simp only [encodeFinite, double_fractionWidth, double_signWeight, double_leastExponent, hq]
  split <;> omega

theorem encodeFinite_of_decode {b : Nat} (hb : b < 2 ^ 64) {s : Bool} {m : Nat} {q : Int}
    (h : double.decode b = .finite s m q) : double.encodeFinite s m q = b := by
  rw [encodeFinite_double, (decode_finite hb h).2]

end BinaryFormat

/-- `⌊log₂ (m · 2^a / 2^c)⌋`, read off the significand. -/
theorem floorLog2_mul_two_pow {m : Nat} (hm : m ≠ 0) (a c : Nat) :
    floorLog2 (m * 2 ^ a) (2 ^ c) = ((m.log2 + a : Nat) : Int) - c := by
  have hlow : 2 ^ m.log2 ≤ m := Nat.log2_self_le hm
  have hhigh : m < 2 ^ (m.log2 + 1) := Nat.lt_log2_self
  have hx : (m * 2 ^ a).log2 = m.log2 + a := by
    rw [Nat.log2_eq_iff (Nat.mul_ne_zero hm (Nat.pos_iff_ne_zero.1 (Nat.two_pow_pos a)))]
    constructor
    · rw [Nat.pow_add]; exact Nat.mul_le_mul_right _ hlow
    · rw [show m.log2 + a + 1 = m.log2 + 1 + a by omega, Nat.pow_add]
      exact Nat.mul_lt_mul_of_pos_right hhigh (Nat.two_pow_pos a)
  unfold floorLog2
  simp only [hx, Nat.log2_two_pow]
  -- the first estimate of the exponent is already right
  rw [if_pos]
  split
  · rename_i hd
    have hd' : (((m.log2 + a : Nat) : Int) - c).toNat = m.log2 + a - c := by omega
    rw [hd', ← Nat.pow_add, show c + (m.log2 + a - c) = m.log2 + a by omega, Nat.pow_add]
    exact Nat.mul_le_mul_right _ hlow
  · rename_i hd
    have hd' : (-(((m.log2 + a : Nat) : Int) - c)).toNat = c - (m.log2 + a) := by omega
    rw [hd', Nat.mul_assoc, ← Nat.pow_add]
    calc 2 ^ c = 2 ^ m.log2 * 2 ^ (a + (c - (m.log2 + a))) := by
          rw [← Nat.pow_add]; congr 1; omega
      _ ≤ m * 2 ^ (a + (c - (m.log2 + a))) := Nat.mul_le_mul_right _ hlow
namespace BinaryFormat

/-- Rounding a value that already is a double gives that double. -/
theorem roundRatio_exact {b : Nat} (hb : b < 2 ^ 64) {s : Bool} {m : Nat} {q : Int}
    (h : double.decode b = .finite s m q) (hm : m ≠ 0) {a c : Nat} (hq : (a : Int) - c = q) :
    double.roundRatio s (m * 2 ^ a) (2 ^ c) = b := by
  obtain ⟨hshape, -⟩ := decode_finite hb h
  -- the grid that rounding picks is the one of the value's own exponent
  have hgrid : max (floorLog2 (m * 2 ^ a) (2 ^ c) - double.fractionWidth) double.leastExponent = q := by
    rw [floorLog2_mul_two_pow hm, double_fractionWidth, double_leastExponent]
    rcases hshape with ⟨hlt, rfl⟩ | ⟨hle, hlt, hlo, -⟩
    · have : m.log2 < 52 := (Nat.log2_lt hm).2 hlt
      omega
    · have : m.log2 = 52 := (Nat.log2_eq_iff hm).2 ⟨hle, hlt⟩
      omega
  have hexact : m * 2 ^ a * 2 ^ (-q).toNat = m * (2 ^ c * 2 ^ q.toNat) := by
    rw [Nat.mul_assoc, ← Nat.pow_add, ← Nat.pow_add]
    congr 2
    omega
  have hden : 0 < 2 ^ c * 2 ^ q.toNat := Nat.mul_pos (Nat.two_pow_pos c) (Nat.two_pow_pos _)
  have hm53 : m ≠ 2 ^ 53 := by rcases hshape with ⟨hlt, -⟩ | ⟨-, hlt, -⟩ <;> omega
  have hq971 : ¬971 < q := by rcases hshape with ⟨-, rfl⟩ | ⟨-, -, -, hhi⟩ <;> omega
  unfold roundRatio
  rw [if_neg (Nat.mul_ne_zero hm (Nat.pos_iff_ne_zero.1 (Nat.two_pow_pos a)))]
  simp only [hgrid]
  simp only [hexact, Nat.mul_div_cancel _ hden, Nat.mul_mod_left, nearerNeighbour,
    double_fractionWidth, double_precision, double_greatestExponent]
  have hrem : 2 * 0 < 2 ^ c * 2 ^ q.toNat := by omega
  simp only [if_pos hrem, if_neg hm53, if_neg hq971]
  exact encodeFinite_of_decode hb h

end BinaryFormat

end Decimal

open Decimal

namespace Double

theorem toBits_lt (x : Double) : x.toBits < 2 ^ 64 := UInt64.toNat_lt x.bits

@[simp] theorem ofBits_toBits (x : Double) : ofBits x.toBits = x := by
  simp [ofBits, toBits]

theorem toBits_ofBits {n : Nat} (h : n < 2 ^ 64) : (ofBits n).toBits = n := by
  simpa [ofBits, toBits] using Nat.mod_eq_of_lt h

theorem mul_def (x y : Double) : x * y = ofBits (BinaryFormat.double.mul x.toBits y.toBits) := rfl

theorem one_toBits : (1.0 : Double).toBits = 4607182418800017408 := by decide +kernel

theorem decode_one :
    BinaryFormat.double.decode (1.0 : Double).toBits = .finite false (2 ^ 52) (-52) := by
  rw [one_toBits]; decide +kernel

theorem exists_decode_of_isFinite {x : Double} (h : x.isFinite = true) :
    ∃ s m q, BinaryFormat.double.decode x.toBits = .finite s m q := by
  cases hd : BinaryFormat.double.decode x.toBits with
  | nan => simp [isFinite, isNaN, BinaryFormat.isNaN, hd] at h
  | infinite s => simp [isFinite, isNaN, isInf, BinaryFormat.isNaN, BinaryFormat.isInf, hd] at h
  | finite s m q => exact ⟨s, m, q, rfl⟩

/-- Multiplying a finite double by one gives it back. -/
theorem one_mul {x : Double} (hx : x.isFinite = true) : (1.0 : Double) * x = x := by
  obtain ⟨s, m, q, hd⟩ := exists_decode_of_isFinite hx
  obtain ⟨hshape, -⟩ := BinaryFormat.decode_finite (toBits_lt x) hd
  rw [mul_def]
  conv => rhs; rw [← ofBits_toBits x]
  congr 1
  simp only [BinaryFormat.mul, decode_one, hd, Bool.false_bne, BinaryFormat.roundScaled]
  by_cases hm : m = 0
  · -- a zero keeps its sign
    subst hm
    have hq : q = -1074 := by rcases hshape with ⟨-, hq⟩ | ⟨h52, -⟩ <;> omega
    subst hq
    simp only [Nat.mul_zero, Nat.zero_mul, BinaryFormat.roundRatio, if_true]
    exact BinaryFormat.encodeFinite_of_decode (toBits_lt x) hd
  · rw [show 2 ^ 52 * m * 2 ^ (-52 + q).toNat = m * 2 ^ (52 + (-52 + q).toNat) by
      rw [Nat.pow_add, Nat.mul_comm (2 ^ 52) m, Nat.mul_assoc]]
    exact BinaryFormat.roundRatio_exact (toBits_lt x) hd hm (by omega)

/-- The check a unit factor must pass: finite and not zero. -/
def FiniteNonzero (x : Double) : Prop := x.isFinite = true ∧ (x == 0.0) = false

instance (x : Double) : Decidable (FiniteNonzero x) := inferInstanceAs (Decidable (_ ∧ _))

theorem zero_toBits : (0.0 : Double).toBits = 0 := by decide +kernel

/-- A finite double equals zero exactly when its significand is zero. -/
theorem beq_zero_of_decode {x : Double} {s : Bool} {m : Nat} {q : Int}
    (hd : BinaryFormat.double.decode x.toBits = .finite s m q) : (x == 0.0) = decide (m = 0) := by
  obtain ⟨hshape, hbits⟩ := BinaryFormat.decode_finite (toBits_lt x) hd
  have hnan0 : BinaryFormat.double.isNaN 0 = false := by decide
  have hkey0 : BinaryFormat.double.orderKey 0 = 0 := by decide
  have hnan : BinaryFormat.double.isNaN x.toBits = false := by simp [BinaryFormat.isNaN, hd]
  show BinaryFormat.double.eq x.toBits (0.0 : Double).toBits = _
  rw [zero_toBits, BinaryFormat.eq, hnan, hnan0, hkey0]
  -- below the sign bit stand the exponent field and the fraction, zero only for a zero
  have hkey : x.toBits % 2 ^ 63 = 0 ↔ m = 0 := by
    rw [hbits]; split <;> split <;> omega
  simp only [← hkey, BinaryFormat.orderKey, BinaryFormat.absolute,
    BinaryFormat.double_signWeight, Bool.not_false, Bool.true_and]
  split <;> rw [Bool.eq_iff_iff] <;> simp only [beq_iff_eq, decide_eq_true_eq] <;> omega

theorem finiteNonzero_iff {x : Double} :
    FiniteNonzero x ↔ ∃ s m q, BinaryFormat.double.decode x.toBits = .finite s m q ∧ m ≠ 0 := by
  constructor
  · rintro ⟨hfin, hzero⟩
    obtain ⟨s, m, q, hd⟩ := exists_decode_of_isFinite hfin
    refine ⟨s, m, q, hd, fun hm => ?_⟩
    rw [beq_zero_of_decode hd, hm] at hzero
    simp at hzero
  · rintro ⟨s, m, q, hd, hm⟩
    refine ⟨?_, by simp [beq_zero_of_decode hd, hm]⟩
    simp [isFinite, isNaN, isInf, BinaryFormat.isNaN, BinaryFormat.isInf, hd]

/-- A first power is one multiplication by one. -/
theorem powi_one (x : Double) : Scalar.powi x 1 = 1.0 * x := by
  rw [Scalar.powi, Scalar.powAcc]
  rfl

/-- The check the registry makes of a factor fails exactly on what is not finite and non-zero. -/
theorem finiteNonzero_iff_check {x : Double} :
    x.FiniteNonzero ↔ (!x.isFinite || x == 0.0) = false := by
  unfold FiniteNonzero
  cases x.isFinite <;> cases x == 0.0 <;> decide

@[simp] theorem isFinite_zero : (0.0 : Double).isFinite = true := by decide +kernel

theorem not_finiteNonzero_defaultNaN : ¬FiniteNonzero (ofBits BinaryFormat.double.defaultNaN) := by
  decide +kernel

theorem not_finiteNonzero_infinite (s : Bool) :
    ¬FiniteNonzero (ofBits (BinaryFormat.double.encodeInfinite s)) := by
  cases s <;> decide +kernel

theorem not_finiteNonzero_zero (s : Bool) :
    ¬FiniteNonzero (ofBits (BinaryFormat.double.encodeFinite s 0 BinaryFormat.double.leastExponent)) := by
  cases s <;> decide +kernel

/-- A zero, an infinity or a NaN absorbs every product it enters: when a product passes the
factor check, so does its first factor. -/
theorem finiteNonzero_of_mul {x y : Double} (h : FiniteNonzero (x * y)) : FiniteNonzero x := by
  rw [mul_def] at h
  rw [finiteNonzero_iff]
  cases hx : BinaryFormat.double.decode x.toBits with
  | nan =>
    exfalso
    cases hy : BinaryFormat.double.decode y.toBits <;>
      simp only [BinaryFormat.mul, hx, hy] at h <;> exact not_finiteNonzero_defaultNaN h
  | infinite s =>
    exfalso
    cases hy : BinaryFormat.double.decode y.toBits with
    | nan => simp only [BinaryFormat.mul, hx, hy] at h; exact not_finiteNonzero_defaultNaN h
    | infinite t => simp only [BinaryFormat.mul, hx, hy] at h; exact not_finiteNonzero_infinite _ h
    | finite t n r =>
      simp only [BinaryFormat.mul, hx, hy] at h
      split at h
      · exact not_finiteNonzero_defaultNaN h
      · exact not_finiteNonzero_infinite _ h
  | finite s m q =>
    refine ⟨s, m, q, rfl, fun hm => ?_⟩
    subst hm
    cases hy : BinaryFormat.double.decode y.toBits with
    | nan => simp only [BinaryFormat.mul, hx, hy] at h; exact not_finiteNonzero_defaultNaN h
    | infinite t => simp only [BinaryFormat.mul, hx, hy, if_true] at h; exact not_finiteNonzero_defaultNaN h
    | finite t n r =>
      simp only [BinaryFormat.mul, hx, hy, BinaryFormat.roundScaled, Nat.zero_mul,
        BinaryFormat.roundRatio, if_true] at h
      exact not_finiteNonzero_zero _ h

/-- A product of factors passes the factor check exactly when every partial product does:
a zero or an infinity met on the way is never undone by a later factor. -/
theorem finiteNonzero_foldl_mul_iff (init : Double) (xs : List Double) :
    FiniteNonzero (xs.foldl (· * ·) init) ↔ ∀ p ∈ xs.scanl (· * ·) init, FiniteNonzero p := by
  induction xs generalizing init with
  | nil => simp
  | cons x xs ih =>
    rw [List.foldl_cons, List.scanl_cons, ih]
    constructor
    · intro hall p hp
      rcases List.mem_cons.1 hp with rfl | hp
      · have hhead : p * x ∈ xs.scanl (· * ·) (p * x) :=
          List.mem_of_mem_head? List.head?_scanl
        exact finiteNonzero_of_mul (hall _ hhead)
      · exact hall p hp
    · intro hall p hp
      exact hall p (List.mem_cons_of_mem _ hp)

end Double

end Dimensional
