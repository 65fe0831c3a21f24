import Dimensional.Proofs.Json.Reads

/-!
# Number texts

The text of a JSON number (RFC 8259) is an optional minus sign, an integer part without leading
zeros, an optional fraction and an optional exponent (`NumberText`). Each scanner of the number
reader stops at the first character that cannot continue the number, so on such a text followed
by a delimiter it reads the whole text and answers what it answers on the text alone:
`scans_readNumber` says so of `readNumber`, and `Reads.ignoreNumber` of the checker that skips a
number.

`Scans f t r` states it for a scanner `f`: on `t` followed by anything that may follow a value,
`f` answers `r` and leaves exactly what follows.
-/

namespace Dimensional
namespace Json

open Decimal

/-- Digits: one or more ASCII digits. -/
def Digits (ds : List Char) : Prop := ds ≠ [] ∧ ∀ d ∈ ds, isDigitChar d = true

/-- The integer part of a number: `0`, or a non-zero digit and more digits. -/
inductive IntegerPart : List Char → Prop
  | zero : IntegerPart ['0']
  | digits {d ds} : isDigitChar d = true → d ≠ '0' → (∀ c ∈ ds, isDigitChar c = true) →
      IntegerPart (d :: ds)

/-- The fraction of a number: nothing, or a point and digits. -/
inductive FractionPart : List Char → Prop
  | none : FractionPart []
  | digits {ds} : Digits ds → FractionPart ('.' :: ds)

/-- The exponent of a number: nothing, or `e` or `E`, an optional sign and digits. -/
inductive ExponentPart : List Char → Prop
  | none : ExponentPart []
  | digits {e sign ds} : (e = 'e' ∨ e = 'E') → (sign = [] ∨ sign = ['+'] ∨ sign = ['-']) →
      Digits ds → ExponentPart (e :: sign ++ ds)

/-- The text of a JSON number. -/
inductive NumberText : List Char → Prop
  | mk {sign i f x} : (sign = [] ∨ sign = ['-']) → IntegerPart i → FractionPart f →
      ExponentPart x → NumberText (sign ++ i ++ f ++ x)

/-- `f` reads all of `t`, answering `r`, whatever may follow a value after `t`. -/
def Scans {ε α : Type} (f : List Char → Except ε (α × List Char)) (t : List Char)
    (r : Except ε α) : Prop :=
  ∀ rest, Delimited rest → f (t ++ rest) = r.map (·, rest)

/-! ## What follows a number -/

theorem Delimited.cases {rest : List Char} (h : Delimited rest) :
    rest = [] ∨ ∃ c cs, rest = c :: cs ∧ (c = ',' ∨ c = ']' ∨ c = '}') := by
  cases rest with
  | nil => exact .inl rfl
  | cons c cs => exact .inr ⟨c, cs, rfl, h c rfl⟩

/-- A delimiter is no character of a number. -/
theorem Delimited.head {rest : List Char} (h : Delimited rest) :
    ∀ c ∈ rest.head?, isDigitChar c = false ∧ c ≠ '.' ∧ c ≠ 'e' ∧ c ≠ 'E' ∧ c ≠ '+' ∧ c ≠ '-' := by
  intro c hc
  rcases h c hc with rfl | rfl | rfl <;> decide

theorem ExponentPart.head {x rest : List Char} (hx : ExponentPart x) (hrest : Delimited rest) :
    ∀ c ∈ (x ++ rest).head?, isDigitChar c = false ∧ c ≠ '.' := by
  cases hx with
  | none => exact fun c hc => ⟨(hrest.head c hc).1, (hrest.head c hc).2.1⟩
  | digits he _ _ =>
    intro c hc
    cases hc
    rcases he with rfl | rfl <;> decide

theorem FractionPart.head {f x rest : List Char} (hf : FractionPart f) (hx : ExponentPart x)
    (hrest : Delimited rest) : ∀ c ∈ (f ++ x ++ rest).head?, isDigitChar c = false := by
  cases hf with
  | none => exact fun c hc => (hx.head hrest c hc).1
  | digits _ => intro c hc; cases hc; decide

theorem dropWhile_digits {ds rest : List Char} (hds : ∀ d ∈ ds, isDigitChar d = true)
    (hrest : ∀ c ∈ rest.head?, isDigitChar c = false) : (ds ++ rest).dropWhile isDigitChar = rest := by
  rw [List.dropWhile_append_of_pos hds]
  cases rest with
  | nil => rfl
  | cons c cs => rw [List.dropWhile_cons_of_neg (by simp [hrest c rfl])]

/-! ## One step of each scanner

What each scanner does at the character that decides its next step: a point, an exponent
mark, or the end of the number. -/

section
variable (positive : Bool) (significand : Nat)

/-- The answer of an integer without fraction or exponent. -/
def integerAnswer : Except NumberError Number :=
  if positive then .ok (.unsigned significand)
  else if significand = 0 || 2 ^ (63 : Nat) < significand then
    .ok (.double (-(Double.ofBits (BinaryFormat.double.roundRatio false significand 1))).toBits)
  else .ok (.negative (-(significand : Int)))

theorem readExponentDigits_stop (positiveExp : Bool) (start : Int) {cs : List Char}
    (hcs : ∀ c ∈ cs.head?, isDigitChar c = false) (acc : Nat) :
    readExponentDigits positive positiveExp significand start cs acc =
      (fromParts positive significand
        (saturate (if positiveExp then start + acc else start - acc))).map (·, cs) := by
  cases cs with
  | nil => rfl
  | cons c cs => rw [readExponentDigits, if_neg (by simp [hcs c rfl])]

/-- Without a sign, the exponent digits start at once and the exponent is positive. -/
theorem readExponent_digit (start : Int) {d : Char} (hd : isDigitChar d = true) (cs : List Char) :
    readExponent positive significand start (d :: cs) =
      readExponentDigits positive true significand start cs (digitOf d) := by
  have hplus : d ≠ '+' := fun h => by subst h; exact absurd hd (by decide)
  have hminus : d ≠ '-' := fun h => by subst h; exact absurd hd (by decide)
  unfold readExponent
  split
  rename_i heq
  -- the sign test sees a digit: neither sign applies
  split at heq
  · rename_i h; exact absurd (List.cons_eq_cons.1 h).1 hplus
  · rename_i h; exact absurd (List.cons_eq_cons.1 h).1 hminus
  · cases heq; simp [hd]

theorem finishDecimal_exponent (exponent : Int) {e : Char} (he : e = 'e' ∨ e = 'E')
    (cs : List Char) : finishDecimal positive significand exponent (e :: cs) =
      readExponent positive significand exponent cs := by
  rcases he with rfl | rfl <;> simp [finishDecimal]

theorem finishDecimal_end (exponent : Int) {rest : List Char} (hrest : Delimited rest) :
    finishDecimal positive significand exponent rest =
      (fromParts positive significand exponent).map (·, rest) := by
  rcases hrest.cases with rfl | ⟨c, cs, rfl, hc⟩
  · rfl
  · rcases hc with rfl | rfl | rfl <;> simp [finishDecimal]

/-- Once a fraction has a digit, a character that is no digit ends it. -/
theorem readFraction_stop (exponent : Int) {cs : List Char}
    (hcs : ∀ c ∈ cs.head?, isDigitChar c = false) (s n : Nat) :
    readFraction positive exponent true cs s n = finishDecimal positive s (exponent - n) cs := by
  cases cs with
  | nil => rfl
  | cons c cs =>
    rw [readFraction, if_neg (by simp [hcs c rfl])]
    rfl

theorem afterInteger_point (cs : List Char) :
    afterInteger positive significand ('.' :: cs) = readFraction positive 0 false cs significand 0 := by
  simp [afterInteger]

theorem afterInteger_exponent {e : Char} (he : e = 'e' ∨ e = 'E') (cs : List Char) :
    afterInteger positive significand (e :: cs) = readExponent positive significand 0 cs := by
  rcases he with rfl | rfl <;> simp [afterInteger]

theorem afterInteger_end {rest : List Char} (hrest : Delimited rest) :
    afterInteger positive significand rest = (integerAnswer positive significand).map (·, rest) := by
  rcases hrest.cases with rfl | ⟨c, cs, rfl, hc⟩
  · simp only [afterInteger, integerAnswer]
    split_ifs <;> rfl
  · rcases hc with rfl | rfl | rfl <;>
      · simp only [afterInteger, integerAnswer]
        split_ifs <;> rfl

theorem readLongInteger_point (cs : List Char) (exponent : Nat) :
    readLongInteger positive significand ('.' :: cs) exponent =
      readFraction positive exponent false cs significand 0 := by
  simp [readLongInteger, isDigitChar]

theorem readLongInteger_exponent {e : Char} (he : e = 'e' ∨ e = 'E') (cs : List Char)
    (exponent : Nat) : readLongInteger positive significand (e :: cs) exponent =
      readExponent positive significand exponent cs := by
  rcases he with rfl | rfl <;> simp [readLongInteger, isDigitChar]

theorem readLongInteger_end {rest : List Char} (hrest : Delimited rest) (exponent : Nat) :
    readLongInteger positive significand rest exponent =
      (fromParts positive significand exponent).map (·, rest) := by
  rcases hrest.cases with rfl | ⟨c, cs, rfl, hc⟩
  · rfl
  · rcases hc with rfl | rfl | rfl <;> simp [readLongInteger, isDigitChar]

/-- A character that is no digit ends the integer digits. -/
theorem readIntegerDigits_stop {cs : List Char} (hcs : ∀ c ∈ cs.head?, isDigitChar c = false)
    (s : Nat) : readIntegerDigits positive cs s = afterInteger positive s cs := by
  cases cs with
  | nil => rfl
  | cons c cs => rw [readIntegerDigits, if_neg (by simp [hcs c rfl])]

theorem readUnsignedNumber_zero {cs : List Char} (hcs : ∀ c ∈ cs.head?, isDigitChar c = false) :
    readUnsignedNumber positive ('0' :: cs) = afterInteger positive 0 cs := by
  cases cs with
  | nil => rfl
  | cons c cs => rw [readUnsignedNumber, if_neg (by simp [hcs c rfl])]

theorem readUnsignedNumber_digit {d : Char} (hd : isDigitChar d = true) (hzero : d ≠ '0')
    (cs : List Char) : readUnsignedNumber positive (d :: cs) = readIntegerDigits positive cs (digitOf d) := by
  rw [readUnsignedNumber.eq_def]
  split
  · contradiction
  · rename_i h; cases h; exact absurd rfl hzero
  · rename_i h; cases h; simp [hd]

end

/-- Without a sign, a number starts with a digit. -/
theorem readNumber_digit {d : Char} (hd : isDigitChar d = true) (cs : List Char) :
    readNumber (d :: cs) = readUnsignedNumber true (d :: cs) := by
  rw [readNumber.eq_def]
  split
  · rename_i h
    cases h
    exact absurd hd (by decide)
  · rfl

/-! ## The scanners, from the exponent back to the sign

Each scanner is followed along the part of the grammar it reads, digit by digit; at the
character that ends the part, the step lemmas above hand over to the next scanner. -/

section
variable (positive : Bool) (significand : Nat)

theorem scans_readExponentDigits (positiveExp : Bool) (start : Int) {ds : List Char}
    (hds : ∀ d ∈ ds, isDigitChar d = true) (acc : Nat) :
    ∃ r, Scans (fun cs => readExponentDigits positive positiveExp significand start cs acc) ds r := by
  induction ds generalizing acc with
  | nil =>
    refine ⟨fromParts positive significand
      (saturate (if positiveExp then start + acc else start - acc)), fun rest hrest => ?_⟩
    beta_reduce
    rw [List.nil_append, readExponentDigits_stop positive significand positiveExp start
      fun c hc => (hrest.head c hc).1]
  | cons d ds ih =>
    have hd : isDigitChar d = true := hds d (by simp)
    have hds' : ∀ c ∈ ds, isDigitChar c = true := fun c hc => hds c (by simp [hc])
    by_cases hov : overflows acc (digitOf d) (2 ^ (31 : Nat) - 1) = true
    · -- an exponent past 32 bits: out of range, or zero, and its other digits are skipped
      by_cases hrange : (significand ≠ 0 && positiveExp) = true
      · exact ⟨.error .outOfRange, fun rest _ => by
          beta_reduce
          rw [List.cons_append, readExponentDigits, if_pos hd, if_pos hov, if_pos hrange]; rfl⟩
      · refine ⟨.ok (.double (if positive then (0.0 : Double) else -0.0).toBits),
          fun rest hrest => ?_⟩
        beta_reduce
        rw [List.cons_append, readExponentDigits, if_pos hd, if_pos hov, if_neg hrange,
          dropWhile_digits hds' fun c hc => (hrest.head c hc).1]
        rfl
    · obtain ⟨r, hr⟩ := ih hds' (10 * acc + digitOf d)
      exact ⟨r, fun rest hrest => by
        beta_reduce
        rw [List.cons_append, readExponentDigits, if_pos hd, if_neg hov]; exact hr rest hrest⟩

theorem scans_readExponent (start : Int) {sign ds : List Char}
    (hsign : sign = [] ∨ sign = ['+'] ∨ sign = ['-']) (hds : Digits ds) :
    ∃ r, Scans (readExponent positive significand start) (sign ++ ds) r := by
  obtain ⟨d, ds, rfl⟩ := List.exists_cons_of_ne_nil hds.1
  have hd : isDigitChar d = true := hds.2 d (by simp)
  have hds' : ∀ c ∈ ds, isDigitChar c = true := fun c hc => hds.2 c (by simp [hc])
  -- the sign only fixes the direction of the exponent
  rcases hsign with rfl | rfl | rfl
  · obtain ⟨r, hr⟩ := scans_readExponentDigits positive significand true start hds' (digitOf d)
    exact ⟨r, fun rest hrest => by
      rw [List.nil_append, List.cons_append, readExponent_digit positive significand start hd]
      exact hr rest hrest⟩
  · obtain ⟨r, hr⟩ := scans_readExponentDigits positive significand true start hds' (digitOf d)
    exact ⟨r, fun rest hrest => by
      simp only [List.cons_append, List.nil_append, readExponent, hd, if_true]
      exact hr rest hrest⟩
  · obtain ⟨r, hr⟩ := scans_readExponentDigits positive significand false start hds' (digitOf d)
    exact ⟨r, fun rest hrest => by
      simp only [List.cons_append, List.nil_append, readExponent, hd, if_true]
      exact hr rest hrest⟩

theorem scans_finishDecimal (exponent : Int) {x : List Char} (hx : ExponentPart x) :
    ∃ r, Scans (finishDecimal positive significand exponent) x r := by
  cases hx with
  | none =>
    exact ⟨fromParts positive significand exponent, fun rest hrest => by
      rw [List.nil_append, finishDecimal_end positive significand exponent hrest]⟩
  | @digits e sign ds he hsign hds =>
    obtain ⟨r, hr⟩ := scans_readExponent positive significand exponent hsign hds
    refine ⟨r, fun rest hrest => ?_⟩
    rw [List.cons_append, List.cons_append,
      finishDecimal_exponent positive significand exponent he]
    exact hr rest hrest

theorem scans_readFraction (exponent : Int) {ds x : List Char} (hds : ∀ d ∈ ds, isDigitChar d = true)
    (hx : ExponentPart x) (started : Bool) (hstart : started = true ∨ ds ≠ []) (n : Nat) :
    ∃ r, Scans (fun cs => readFraction positive exponent started cs significand n) (ds ++ x) r := by
  induction ds generalizing started significand n with
  | nil =>
    obtain rfl : started = true := hstart.resolve_right (by simp)
    obtain ⟨r, hr⟩ := scans_finishDecimal positive significand (exponent - n) hx
    exact ⟨r, fun rest hrest => by
      beta_reduce
      rw [List.nil_append, readFraction_stop positive exponent fun c hc => (hx.head hrest c hc).1]
      exact hr rest hrest⟩
  | cons d ds ih =>
    have hd : isDigitChar d = true := hds d (by simp)
    have hds' : ∀ c ∈ ds, isDigitChar c = true := fun c hc => hds c (by simp [hc])
    by_cases hov : overflows significand (digitOf d) u64Max = true
    · -- digits past 64 bits no longer count
      obtain ⟨r, hr⟩ := scans_finishDecimal positive significand (exponent - n) hx
      refine ⟨r, fun rest hrest => ?_⟩
      beta_reduce
      rw [List.cons_append, List.cons_append, List.append_assoc, readFraction, if_pos hd,
        if_pos hov, dropWhile_digits hds' fun c hc => (hx.head hrest c hc).1]
      exact hr rest hrest
    · obtain ⟨r, hr⟩ := ih (10 * significand + digitOf d) hds' true (.inl rfl) (n + 1)
      exact ⟨r, fun rest hrest => by
        beta_reduce
        rw [List.cons_append, List.cons_append, readFraction, if_pos hd, if_neg hov]
        exact hr rest hrest⟩

/-- After the integer part: a fraction, an exponent, or nothing more. -/
theorem scans_afterInteger {f x : List Char} (hf : FractionPart f) (hx : ExponentPart x) :
    ∃ r, Scans (afterInteger positive significand) (f ++ x) r := by
  cases hf with
  | @digits ds hds =>
    obtain ⟨r, hr⟩ := scans_readFraction positive significand 0 hds.2 hx false (.inr hds.1) 0
    exact ⟨r, fun rest hrest => by
      rw [List.cons_append, List.cons_append, afterInteger_point]
      exact hr rest hrest⟩
  | none =>
    cases hx with
    | @digits e sign ds he hsign hds =>
      obtain ⟨r, hr⟩ := scans_readExponent positive significand 0 hsign hds
      exact ⟨r, fun rest hrest => by
        rw [List.nil_append, List.cons_append, List.cons_append,
          afterInteger_exponent positive significand he]
        exact hr rest hrest⟩
    | none =>
      exact ⟨integerAnswer positive significand, fun rest hrest => by
        rw [List.nil_append, List.nil_append, afterInteger_end positive significand hrest]⟩

/-- Integer digits past 64 bits: each raises the exponent, up to the fraction or exponent. -/
theorem scans_readLongInteger {ds f x : List Char} (hds : ∀ d ∈ ds, isDigitChar d = true)
    (hf : FractionPart f) (hx : ExponentPart x) (exponent : Nat) :
    ∃ r, Scans (fun cs => readLongInteger positive significand cs exponent) (ds ++ f ++ x) r := by
  induction ds generalizing exponent with
  | nil =>
    cases hf with
    | @digits ds' hds' =>
      obtain ⟨r, hr⟩ := scans_readFraction positive significand exponent hds'.2 hx false
        (.inr hds'.1) 0
      exact ⟨r, fun rest hrest => by
        beta_reduce
        rw [List.nil_append, List.cons_append, List.cons_append, readLongInteger_point]
        exact hr rest hrest⟩
    | none =>
      cases hx with
      | @digits e sign ds' he hsign hds' =>
        obtain ⟨r, hr⟩ := scans_readExponent positive significand exponent hsign hds'
        exact ⟨r, fun rest hrest => by
          beta_reduce
          rw [List.nil_append, List.nil_append, List.cons_append, List.cons_append,
            readLongInteger_exponent positive significand he]
          exact hr rest hrest⟩
      | none =>
        exact ⟨fromParts positive significand exponent, fun rest hrest => by
          beta_reduce
          rw [List.nil_append, List.nil_append, List.nil_append,
            readLongInteger_end positive significand hrest]⟩
  | cons d ds ih =>
    have hd : isDigitChar d = true := hds d (by simp)
    obtain ⟨r, hr⟩ := ih (fun c hc => hds c (by simp [hc])) (exponent + 1)
    exact ⟨r, fun rest hrest => by
      beta_reduce
      rw [List.cons_append, List.cons_append, List.cons_append, readLongInteger, if_pos hd]
      exact hr rest hrest⟩

theorem scans_readIntegerDigits {ds f x : List Char} (hds : ∀ d ∈ ds, isDigitChar d = true)
    (hf : FractionPart f) (hx : ExponentPart x) :
    ∃ r, Scans (fun cs => readIntegerDigits positive cs significand) (ds ++ f ++ x) r := by
  induction ds generalizing significand with
  | nil =>
    obtain ⟨r, hr⟩ := scans_afterInteger positive significand hf hx
    exact ⟨r, fun rest hrest => by
      beta_reduce
      rw [List.nil_append, readIntegerDigits_stop positive (hf.head hx hrest)]
      exact hr rest hrest⟩
  | cons d ds ih =>
    have hd : isDigitChar d = true := hds d (by simp)
    have hds' : ∀ c ∈ ds, isDigitChar c = true := fun c hc => hds c (by simp [hc])
    by_cases hov : overflows significand (digitOf d) u64Max = true
    · -- past 64 bits the digits go on as a power of ten
      obtain ⟨r, hr⟩ := scans_readLongInteger positive significand hds hf hx 0
      exact ⟨r, fun rest hrest => by
        beta_reduce
        rw [List.cons_append, List.cons_append, List.cons_append, readIntegerDigits, if_pos hd,
          if_pos hov, ← List.cons_append, ← List.cons_append, ← List.cons_append]
        exact hr rest hrest⟩
    · obtain ⟨r, hr⟩ := ih (10 * significand + digitOf d) hds'
      exact ⟨r, fun rest hrest => by
        beta_reduce
        rw [List.cons_append, List.cons_append, List.cons_append, readIntegerDigits, if_pos hd,
          if_neg hov]
        exact hr rest hrest⟩

end

theorem scans_readUnsignedNumber (positive : Bool) {i f x : List Char} (hi : IntegerPart i)
    (hf : FractionPart f) (hx : ExponentPart x) :
    ∃ r, Scans (readUnsignedNumber positive) (i ++ f ++ x) r := by
  cases hi with
  | zero =>
    -- a leading zero is the whole integer part
    obtain ⟨r, hr⟩ := scans_afterInteger positive 0 hf hx
    refine ⟨r, fun rest hrest => ?_⟩
    rw [List.append_assoc, List.append_assoc, List.singleton_append, ← List.append_assoc,
      readUnsignedNumber_zero positive (hf.head hx hrest)]
    exact hr rest hrest
  | @digits d ds hd hzero hds =>
    obtain ⟨r, hr⟩ := scans_readIntegerDigits positive (digitOf d) hds hf hx
    refine ⟨r, fun rest hrest => ?_⟩
    rw [List.cons_append, List.cons_append, List.cons_append,
      readUnsignedNumber_digit positive hd hzero]
    exact hr rest hrest

/-- A number text followed by a delimiter is read whole, with the answer it has alone. -/
theorem scans_readNumber {t : List Char} (ht : NumberText t) : ∃ r, Scans readNumber t r := by
  cases ht with
  | @mk sign i f x hsign hi hf hx =>
    obtain ⟨r, hr⟩ := scans_readUnsignedNumber (sign = []) hi hf hx
    refine ⟨r, fun rest hrest => ?_⟩
    rcases hsign with rfl | rfl
    · -- no sign: the integer part starts with a digit
      obtain ⟨d, ds, rfl, hd⟩ : ∃ d ds, i = d :: ds ∧ isDigitChar d = true := by
        cases hi with
        | zero => exact ⟨'0', [], rfl, rfl⟩
        | digits hd _ _ => exact ⟨_, _, rfl, hd⟩
      simp only [List.nil_append, List.cons_append, readNumber_digit hd]
      simpa using hr rest hrest
    · simp only [List.cons_append, readNumber]
      simpa using hr rest hrest

/-! ## Integer texts

An integer written in decimal is a number text and reads back as itself: unsigned when it is
not negative, negative otherwise, within 64 bits. -/

/-- The value of decimal digits after an accumulated value. -/
def digitsValue (ds : List Char) (acc : Nat) : Nat := ds.foldl (fun a c => 10 * a + digitOf c) acc

theorem le_digitsValue (ds : List Char) (acc : Nat) : acc ≤ digitsValue ds acc := by
  induction ds generalizing acc with
  | nil => exact le_rfl
  | cons c ds ih =>
    calc acc ≤ 10 * acc + digitOf c := by omega
      _ ≤ digitsValue ds (10 * acc + digitOf c) := ih _

theorem overflows_eq_false {a d bound : Nat} (h : 10 * a + d ≤ bound) : overflows a d bound = false := by
  unfold overflows
  have : ¬(a > bound / 10 ∨ d > bound % 10) ∨ a < bound / 10 := by omega
  rcases this with h' | h' <;> simp_all

/-- Integer digits whose value fits in 64 bits are accumulated without overflow. -/
theorem readIntegerDigits_digits (positive : Bool) {ds : List Char}
    (hds : ∀ d ∈ ds, isDigitChar d = true) (acc : Nat) (hv : digitsValue ds acc ≤ u64Max)
    (cs : List Char) :
    readIntegerDigits positive (ds ++ cs) acc = readIntegerDigits positive cs (digitsValue ds acc) := by
  induction ds generalizing acc with
  | nil => rfl
  | cons d ds ih =>
    have hd : isDigitChar d = true := hds d (by simp)
    have hstep : 10 * acc + digitOf d ≤ u64Max :=
      (le_digitsValue ds _).trans hv
    rw [List.cons_append, readIntegerDigits, if_pos hd, if_neg (by simp [overflows_eq_false hstep])]
    exact ih (fun c hc => hds c (by simp [hc])) _ hv

theorem isDigitChar_digitChar {k : Nat} (hk : k < 10) : isDigitChar k.digitChar = true := by
  interval_cases k <;> rfl

theorem digitOf_digitChar {k : Nat} (hk : k < 10) : digitOf k.digitChar = k := by
  interval_cases k <;> rfl

theorem isDigitChar_of_mem_toDigits {n : Nat} {c : Char} (hc : c ∈ Nat.toDigits 10 n) :
    isDigitChar c = true := by
  induction n using Nat.strong_induction_on with
  | _ n ih =>
    by_cases hn : n < 10
    · rw [Nat.toDigits_of_lt_base hn, List.mem_singleton] at hc
      rw [hc]
      exact isDigitChar_digitChar hn
    · rw [Nat.toDigits_of_base_le (by omega) (by omega), List.mem_append, List.mem_singleton] at hc
      rcases hc with hc | rfl
      · exact ih (n / 10) (by omega) hc
      · exact isDigitChar_digitChar (Nat.mod_lt _ (by omega))

theorem digitsValue_toDigits (n : Nat) : digitsValue (Nat.toDigits 10 n) 0 = n := by
  induction n using Nat.strong_induction_on with
  | _ n ih =>
    by_cases hn : n < 10
    · rw [Nat.toDigits_of_lt_base hn]
      simp [digitsValue, digitOf_digitChar hn]
    · -- the last digit is the remainder, the others the quotient by ten
      have hq := ih (n / 10) (by omega)
      simp only [digitsValue] at hq ⊢
      rw [Nat.toDigits_of_base_le (by omega) (by omega), List.foldl_append, hq]
      simp only [List.foldl_cons, List.foldl_nil]
      rw [digitOf_digitChar (Nat.mod_lt _ (by omega))]
      omega

/-- The digits of a positive number start with a digit other than zero. -/
theorem toDigits_head {n : Nat} (hn : 0 < n) :
    ∃ d ds, Nat.toDigits 10 n = d :: ds ∧ d ≠ '0' := by
  induction n using Nat.strong_induction_on with
  | _ n ih =>
    by_cases hlt : n < 10
    · rw [Nat.toDigits_of_lt_base hlt]
      exact ⟨_, [], rfl, by simp; omega⟩
    · obtain ⟨d, ds, hds, hd⟩ := ih (n / 10) (by omega) (by omega)
      rw [Nat.toDigits_of_base_le (by omega) (by omega), hds]
      exact ⟨d, _, rfl, hd⟩

theorem integerPart_toDigits (n : Nat) : IntegerPart (Nat.toDigits 10 n) := by
  rcases Nat.eq_zero_or_pos n with rfl | hn
  · exact .zero
  · obtain ⟨d, ds, hds, hd⟩ := toDigits_head hn
    have hdig : ∀ c ∈ d :: ds, isDigitChar c = true := fun c hc =>
      isDigitChar_of_mem_toDigits (n := n) (hds ▸ hc)
    rw [hds]
    exact .digits (hdig d (by simp)) hd fun c hc => hdig c (by simp [hc])

/-- The decimal text of an integer is a number text. -/
theorem numberText_toString (i : Int) : NumberText (toString i).toList := by
  cases i with
  | ofNat n =>
    have h : NumberText ([] ++ Nat.toDigits 10 n ++ [] ++ []) :=
      .mk (.inl rfl) (integerPart_toDigits n) .none .none
    simpa [toString, Int.repr, Nat.toList_repr] using h
  | negSucc n =>
    have h : NumberText (['-'] ++ Nat.toDigits 10 (n + 1) ++ [] ++ []) :=
      .mk (.inr rfl) (integerPart_toDigits (n + 1)) .none .none
    simpa [toString, Int.repr, Nat.toList_repr] using h

/-- The digits of a number that fits in 64 bits read as the number. -/
theorem scans_toDigits (positive : Bool) {n : Nat} (hn : n ≤ u64Max) :
    Scans (readUnsignedNumber positive) (Nat.toDigits 10 n) (integerAnswer positive n) := by
  intro rest hrest
  have hstop : ∀ c ∈ rest.head?, isDigitChar c = false := fun c hc => (hrest.head c hc).1
  rcases Nat.eq_zero_or_pos n with rfl | hpos
  · rw [show Nat.toDigits 10 0 = ['0'] from rfl, List.singleton_append,
      readUnsignedNumber_zero positive hstop, afterInteger_end positive 0 hrest]
  · obtain ⟨d, ds, hds, hd⟩ := toDigits_head hpos
    have hdig := fun c (hc : c ∈ d :: ds) => isDigitChar_of_mem_toDigits (n := n) (hds ▸ hc)
    have hvalue : digitsValue ds (digitOf d) = n := by
      simpa [hds, digitsValue] using digitsValue_toDigits n
    rw [hds, List.cons_append, readUnsignedNumber_digit positive (hdig d (by simp)) hd,
      readIntegerDigits_digits positive (fun c hc => hdig c (by simp [hc])) _ (hvalue ▸ hn),
      hvalue, readIntegerDigits_stop positive hstop, afterInteger_end positive n hrest]

/-- An integer within 64 bits reads back from its decimal text. -/
theorem scans_toString {i : Int} (hlo : -2 ^ (63 : Nat) ≤ i) (hhi : i < 2 ^ (64 : Nat)) :
    Scans readNumber (toString i).toList
      (.ok (if 0 ≤ i then .unsigned i.toNat else .negative i)) := by
  intro rest hrest
  cases i with
  | ofNat n =>
    simp only [Int.ofNat_eq_natCast] at hhi ⊢
    have hn : n ≤ u64Max := by
      simp only [u64Max]
      omega
    have h := scans_toDigits true hn rest hrest
    rw [if_pos (Int.natCast_nonneg n)]
    rcases Nat.eq_zero_or_pos n with rfl | hpos
    · simpa [toString, Int.repr, Nat.toList_repr, integerAnswer, readNumber] using h
    · obtain ⟨d, ds, hds, -⟩ := toDigits_head hpos
      have hd : isDigitChar d = true := isDigitChar_of_mem_toDigits (n := n) (by simp [hds])
      simp only [toString, Int.repr, Nat.toList_repr, hds, List.cons_append, readNumber_digit hd]
      simpa [hds, integerAnswer] using h
  | negSucc n =>
    -- a minus sign, then the digits of the magnitude, which is at most 2^63
    have hmag : n + 1 ≤ 2 ^ (63 : Nat) := by
      rw [Int.negSucc_eq] at hlo
      omega
    have hn : n + 1 ≤ u64Max := by simp only [u64Max]; omega
    have hanswer : integerAnswer false (n + 1) = .ok (.negative (Int.negSucc n)) := by
      simp [integerAnswer, Int.negSucc_eq]
      omega
    have h := scans_toDigits false hn rest hrest
    rw [hanswer] at h
    rw [if_neg (Int.negSucc_lt_zero n).not_ge]
    simpa [toString, Int.repr, Nat.toList_repr, readNumber] using h

namespace Decoder

/-- A number text followed by a delimiter is read whole by the number step of a decoder. -/
theorem Reads.number {t : List Char} (ht : NumberText t) :
    ∃ r, Reads Decoder.number t [] r := by
  obtain ⟨r, hr⟩ := scans_readNumber ht
  refine ⟨r.mapError fun e => .malformed e.toFault, fun rest hrest => ?_⟩
  show (readNumber (t ++ rest)).mapError _ = _
  rw [hr rest hrest]
  cases r <;> rfl

end Decoder

end Json
end Dimensional
