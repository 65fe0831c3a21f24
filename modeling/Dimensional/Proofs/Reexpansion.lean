import Dimensional.Proofs.Expansion
import Dimensional.Proofs.Magnitude

/-!
# Expanding an expansion

Unit-literal expansion writes the value of each unit literal as a float literal with no suffix,
`floatText`, so the tokens it produces hold no unit literal at any depth, and expanding them again
keeps every token (`expandLiterals_idempotent`).

The written form of a binary value is a word (`NaN`, `inf`, `-inf`) or a `PlainNumber`: an
optional minus, digits, an optional fraction and an optional exponent (`Decimal.render_cases`).
The literal reader takes such text as an integer or a float with an empty suffix
(`integerLiteral?_plainNumber`, `floatLiteral?_plainNumber`), so it is no unit literal
(`unitLiteral?_floatText`).
-/

namespace Dimensional

namespace Decimal

/-- The text of a number literal with no suffix: an optional minus, digits, an optional fraction
and an optional exponent. -/
inductive PlainNumber : List Char → Prop
  | mk {sign whole fraction exponent : List Char} : (sign = [] ∨ sign = ['-']) → whole ≠ [] →
      (∀ c ∈ whole, isDigit c) → FloatFraction isDigit fraction → FloatExponent exponent →
      PlainNumber (sign ++ whole ++ fraction ++ exponent)

/-- A plain number is a number of the decimal grammar. -/
theorem PlainNumber.numberShape {cs : List Char} (h : PlainNumber cs) : NumberShape isDigit cs := by
  obtain ⟨hsign, hne, hw, hf, he⟩ := h
  rename_i sign whole fraction exponent
  obtain ⟨w, ws, rfl⟩ := List.exists_cons_of_ne_nil hne
  have hany : (w :: ws ++ fraction).any isDigit := List.any_eq_true.mpr ⟨w, by simp, hw w (by simp)⟩
  exact .mk (by rcases hsign with rfl | rfl <;> simp [IsSign]) hw hf hany he

/-- No character of a plain number is a base letter. -/
theorem PlainNumber.not_base {cs : List Char} (h : PlainNumber cs) :
    ∀ c ∈ cs, c ≠ 'x' ∧ c ≠ 'o' ∧ c ≠ 'b' := by
  refine h.numberShape.forall_mem (fun c hc => ?_) (fun c hc => ?_) ⟨by decide, by decide⟩
    (by decide) ⟨by decide, by decide⟩ <;>
  · obtain ⟨hlo, hhi⟩ := isDigit_iff.mp hc
    refine ⟨?_, ?_, ?_⟩ <;> rintro rfl <;> simp at hlo hhi

/-! ## The written form of a binary value -/

theorem toList_zeros (n : Nat) : (zeros n).toList = List.replicate n '0' := by
  simp [zeros]

theorem isDigit_of_mem_zeros {n : Nat} {c : Char} (h : c ∈ (zeros n).toList) : isDigit c := by
  rw [toList_zeros, List.mem_replicate] at h
  rw [h.2]
  rfl

/-- Written positionally, digits are a plain number with no sign and no exponent. -/
theorem positional_parts {s : String} (hne : s.toList ≠ []) (hs : ∀ c ∈ s.toList, isDigit c)
    (point : Int) (keepPoint : Bool) :
    ∃ whole fraction, (positional s point keepPoint).toList = whole ++ fraction ∧ whole ≠ [] ∧
      (∀ c ∈ whole, isDigit c) ∧ FloatFraction isDigit fraction := by
  unfold positional
  dsimp only
  by_cases hpoint : point ≤ 0
  · -- a value below one: `0.` and zeros before the digits
    rw [if_pos hpoint]
    refine ⟨['0'], '.' :: ((zeros (-point).toNat).toList ++ s.toList), by simp, by simp,
      by simp; rfl, .point fun c hc => ?_⟩
    rcases List.mem_append.mp hc with hc | hc
    exacts [isDigit_of_mem_zeros hc, hs c hc]
  rw [if_neg hpoint]
  by_cases hlen : point < s.length
  · -- the point falls among the digits
    rw [if_pos hlen]
    have hwhole : s.toList.take point.toNat ≠ [] := by
      simp only [ne_eq, List.take_eq_nil_iff, not_or]
      exact ⟨by omega, hne⟩
    exact ⟨_, '.' :: s.toList.drop point.toNat, by simp, hwhole,
      fun c hc => hs c (List.mem_of_mem_take hc), .point fun c hc => hs c (List.mem_of_mem_drop hc)⟩
  · -- an integer: zeros after the digits, and `.0` when the layout keeps the point
    rw [if_neg hlen]
    refine ⟨s.toList ++ (zeros (point - s.length).toNat).toList,
      (if keepPoint then ".0" else "").toList, by simp, by simp [hne], fun c hc => ?_, ?_⟩
    · rcases List.mem_append.mp hc with hc | hc
      exacts [hs c hc, isDigit_of_mem_zeros hc]
    · cases keepPoint
      · exact .none
      · exact .point fun c hc => by simp at hc; rw [hc]; rfl

/-- Written in exponent form, digits are a plain number with no sign. -/
theorem scientific_parts {s : String} (hne : s.toList ≠ []) (hs : ∀ c ∈ s.toList, isDigit c)
    (x : Int) (plusExponent : Bool) :
    ∃ whole fraction exponent, (scientific s x plusExponent).toList = whole ++ fraction ++ exponent ∧
      whole ≠ [] ∧ (∀ c ∈ whole, isDigit c) ∧ FloatFraction isDigit fraction ∧
      FloatExponent exponent := by
  unfold scientific
  dsimp only
  refine ⟨s.toList.take 1, if (s.toList.drop 1).isEmpty then [] else '.' :: s.toList.drop 1,
    'e' :: (if x < 0 then "-" else if plusExponent then "+" else "").toList ++
      Nat.toDigits 10 x.natAbs, ?_, by simpa [List.take_eq_nil_iff] using hne,
    fun c hc => hs c (List.mem_of_mem_take hc), ?_, ?_⟩
  · split_ifs <;> simp [Nat.toList_repr]
  · split_ifs
    · exact .none
    · exact .point fun c hc => hs c (List.mem_of_mem_drop hc)
  · refine .some (.inl rfl) ?_ (toDigits_ne_nil _) fun c hc => isDigit_of_mem_toDigits hc
    split_ifs <;> simp [IsSign]

theorem toList_sign (negative : Bool) :
    (if negative then "-" else "").toList = [] ∨ (if negative then "-" else "").toList = ['-'] := by
  cases negative <;> simp

/-- What a layout writes is its word for NaN, its word for infinity after an optional minus, or
a plain number. -/
theorem render_cases (l : Layout) (f : BinaryFormat) (bits : Nat) :
    l.render f bits = l.nan ∨
      (∃ negative : Bool, l.render f bits = (if negative then "-" else "") ++ l.infinity) ∨
      PlainNumber (l.render f bits).toList := by
  unfold Layout.render
  split
  · exact .inl rfl
  · exact .inr (.inl ⟨_, rfl⟩)
  rename_i negative m q _
  refine .inr (.inr ?_)
  have hsign := toList_sign negative
  dsimp only
  by_cases hzero : m = 0
  · -- zero: `0`, or `0.0` when the layout keeps the point
    have hbody : (if l.keepPoint then "0.0" else "0").toList =
        ['0'] ++ (if l.keepPoint then ".0" else "").toList ++ [] := by
      cases l.keepPoint <;> rfl
    rw [if_pos hzero, String.toList_append, hbody, ← List.append_assoc, ← List.append_assoc]
    refine .mk hsign (by simp) (by simp; rfl) ?_ .none
    cases l.keepPoint
    · exact .none
    · exact .point fun c hc => by simp at hc; rw [hc]; rfl
  rw [if_neg hzero]
  rcases hshort : shortest f m q with ⟨d, k⟩
  have hdigits : (toString d).toList ≠ [] ∧ ∀ c ∈ (toString d).toList, isDigit c :=
    ⟨by simp [Nat.toList_repr],
      fun c hc => isDigit_of_mem_toDigits (by simpa [Nat.toList_repr] using hc)⟩
  by_cases hrange : l.lowest ≤ k + (toString d).length - 1 ∧ k + (toString d).length - 1 ≤ l.highest
  · obtain ⟨whole, fraction, hparts, hne, hw, hf⟩ := positional_parts hdigits.1 hdigits.2
      (k + (toString d).length - 1 + 1) l.keepPoint
    rw [if_pos hrange, String.toList_append, hparts, ← List.append_assoc,
      ← List.append_nil (_ ++ fraction)]
    exact .mk hsign hne hw hf .none
  · obtain ⟨whole, fraction, exponent, hparts, hne, hw, hf, he⟩ := scientific_parts hdigits.1
      hdigits.2 (k + (toString d).length - 1) l.plusExponent
    rw [if_neg hrange, String.toList_append, hparts, ← List.append_assoc, ← List.append_assoc]
    exact .mk hsign hne hw hf he

end Decimal

namespace Tokens

open Decimal (FloatFraction FloatExponent IsSign PlainNumber isDigit_iff)

theorem isDigit_eq (c : Char) : isDigit c = Decimal.isDigit c := rfl

theorem digitIn_ten {c : Char} (h : Decimal.isDigit c) : digitIn 10 c = some (c.toNat - '0'.toNat) := by
  simp [digitIn, isDigit_eq, h]

theorem digitIn_ten_eq_none {c : Char} (h : Decimal.isDigit c = false) : digitIn 10 c = none := by
  simp [digitIn, isDigit_eq, h]

/-! ## The integer reading -/

/-- Decimal digits are read one by one, whatever follows them. -/
theorem integerDigits_digits {ds : List Char} (hds : ∀ d ∈ ds, Decimal.isDigit d) (t : List Char)
    (v : Nat) (seen : Bool) :
    ∃ v', integerDigits 10 (ds ++ t) v seen = integerDigits 10 t v' (seen || !ds.isEmpty) := by
  induction ds generalizing v seen with
  | nil => exact ⟨v, by simp⟩
  | cons d ds ih =>
    have hd := hds d (List.mem_cons_self ..)
    have hlt : ¬d.toNat - '0'.toNat ≥ 10 := by
      have := isDigit_iff.mp hd
      have h0 : '0'.toNat = 48 := rfl
      omega
    obtain ⟨v', hv'⟩ := ih (fun c hc => hds c (List.mem_cons_of_mem d hc))
      (v * 10 + (d.toNat - '0'.toNat)) true
    refine ⟨v', ?_⟩
    simp only [List.cons_append, integerDigits, digitIn_ten hd, hlt, if_false, hv']
    simp

/-- A point ends an integer reading: the literal is no integer. -/
theorem integerDigits_point (t : List Char) (v : Nat) (seen : Bool) :
    integerDigits 10 ('.' :: t) v seen = none := by
  simp [integerDigits, digitIn_ten_eq_none (by decide : Decimal.isDigit '.' = false)]

/-- Digits to the end of the text make an exponent. -/
theorem exponentFollows_digits {ds : List Char} (hne : ds ≠ []) (hds : ∀ d ∈ ds, Decimal.isDigit d)
    (seen : Bool) : exponentFollows ds seen = true := by
  induction ds generalizing seen with
  | nil => exact absurd rfl hne
  | cons d ds ih =>
    have hd := hds d (List.mem_cons_self ..)
    have hchar : d ≠ '_' ∧ ¬(d = '-' ∨ d = '+') := by
      obtain ⟨hlo, hhi⟩ := isDigit_iff.mp hd
      refine ⟨?_, ?_⟩
      · rintro rfl
        simp at hlo hhi
      · rintro (rfl | rfl) <;> simp at hlo hhi
    rw [exponentFollows, if_neg hchar.1, if_neg (by simpa using hchar.2),
      if_pos (by rw [isDigit_eq]; exact hd)]
    cases ds with
    | nil => rfl
    | cons d' ds => exact ih (List.cons_ne_nil _ _) (fun c hc => hds c (List.mem_cons_of_mem d hc)) true

/-- An exponent ends an integer reading: the literal is no integer. -/
theorem integerDigits_exponent {e : Char} {sign ds : List Char} (he : e = 'e' ∨ e = 'E')
    (hsign : IsSign sign) (hne : ds ≠ []) (hds : ∀ d ∈ ds, Decimal.isDigit d) (v : Nat)
    (seen : Bool) : integerDigits 10 (e :: sign ++ ds) v seen = none := by
  have hfollows : exponentFollows (sign ++ ds) false = true := by
    rcases hsign with rfl | rfl | rfl
    · exact exponentFollows_digits hne hds false
    all_goals simp [exponentFollows]
  have hdigit : Decimal.isDigit e = false := by rcases he with rfl | rfl <;> rfl
  rcases he with rfl | rfl <;>
    simp [integerDigits, digitIn_ten_eq_none hdigit, hfollows]

/-- Text with a digit first and no base letter after it is read in base ten, after its sign. -/
theorem integerLiteral?_digitFirst {sign rest : List Char} {w : Char}
    (hsign : sign = [] ∨ sign = ['-']) (hw : Decimal.isDigit w)
    (hbase : ∀ c ∈ rest.head?, c ≠ 'x' ∧ c ≠ 'o' ∧ c ≠ 'b') :
    integerLiteral? (sign ++ w :: rest) =
      (integerDigits 10 (w :: rest) 0 false).bind fun r =>
        if suffixOk r.2 then some (String.ofList sign ++ toString r.1, String.ofList r.2) else none := by
  have hminus : w ≠ '-' := by
    rintro rfl
    simp [isDigit_iff] at hw
  -- a leading zero is a base prefix only before a base letter
  by_cases hzero : w = '0'
  · subst hzero
    cases rest with
    | nil =>
      rcases hsign with rfl | rfl <;> simp [integerLiteral?, isDigit] <;>
        cases integerDigits 10 ['0'] 0 false <;> rfl
    | cons c r =>
      obtain ⟨hx, ho, hb⟩ := hbase c rfl
      rcases hsign with rfl | rfl <;> simp [integerLiteral?, isDigit, hx, ho, hb] <;>
        cases integerDigits 10 ('0' :: c :: r) 0 false <;> rfl
  · rcases hsign with rfl | rfl <;> simp [integerLiteral?, hminus, hzero, isDigit_eq, hw] <;>
      cases integerDigits 10 (w :: rest) 0 false <;> rfl

/-- A plain number is never an integer with a suffix. -/
theorem integerLiteral?_plainNumber {cs : List Char} (h : PlainNumber cs) {d s : String}
    (hcs : integerLiteral? cs = some (d, s)) : s = "" := by
  have hbase := h.not_base
  obtain ⟨hsign, hne, hw, hf, he⟩ := h
  rename_i sign whole fraction exponent
  obtain ⟨w, ws, rfl⟩ := List.exists_cons_of_ne_nil hne
  have hrest : ∀ c ∈ (ws ++ fraction ++ exponent).head?, c ≠ 'x' ∧ c ≠ 'o' ∧ c ≠ 'b' :=
    fun c hc => hbase c (by simpa using Or.inr (Or.inr (List.mem_of_mem_head? hc)))
  have hdigits : ∃ v, integerDigits 10 (w :: ws ++ (fraction ++ exponent)) 0 false =
      integerDigits 10 (fraction ++ exponent) v true := by
    simpa using integerDigits_digits hw (fraction ++ exponent) 0 false
  obtain ⟨v, hv⟩ := hdigits
  rw [show sign ++ w :: ws ++ fraction ++ exponent = sign ++ w :: (ws ++ fraction ++ exponent) by simp,
    integerLiteral?_digitFirst hsign (hw w (by simp)) hrest,
    show w :: (ws ++ fraction ++ exponent) = w :: ws ++ (fraction ++ exponent) by simp, hv] at hcs
  -- a point or an exponent ends the reading with no integer; otherwise nothing is left over
  cases hf with
  | point hds => simp [integerDigits_point] at hcs
  | none =>
    cases he with
    | some he hsign hne hds =>
      rw [List.nil_append, integerDigits_exponent he hsign hne hds] at hcs
      cases hcs
    | none =>
      simp only [List.append_nil, integerDigits, if_true, Option.bind_some, suffixOk,
        List.isEmpty_nil, Bool.true_or, Option.some.injEq, Prod.mk.injEq] at hcs
      rw [← hcs.2]

/-! ## The float reading -/

/-- Text with a digit first is read as a float after its sign. -/
theorem floatLiteral?_digitFirst {sign rest : List Char} {w : Char}
    (hsign : sign = [] ∨ sign = ['-']) (hw : Decimal.isDigit w) :
    floatLiteral? (sign ++ w :: rest) = floatDigits ⟨sign, false, false, false, false⟩ (w :: rest) := by
  have hminus : w ≠ '-' := by
    rintro rfl
    simp [isDigit_iff] at hw
  rcases hsign with rfl | rfl <;> simp [floatLiteral?, hminus, isDigit_eq, hw]

/-- Digits are added to the reading, and complete an exponent once its `e` is read. -/
theorem floatDigits_digits {ds : List Char} (hds : ∀ d ∈ ds, Decimal.isDigit d) (s : FloatScan)
    (t : List Char) :
    floatDigits s (ds ++ t) =
      floatDigits
        { s with digits := ds.reverse ++ s.digits, hasExponent := s.hasExponent || (s.hasE && !ds.isEmpty) }
        t := by
  induction ds generalizing s with
  | nil => simp
  | cons d ds ih =>
    have hd := hds d (List.mem_cons_self ..)
    have hunder : d ≠ '_' := by
      rintro rfl
      simp [isDigit_iff] at hd
    rw [List.cons_append, floatDigits, if_neg hunder, if_pos (by rw [isDigit_eq]; exact hd),
      ih fun c hc => hds c (List.mem_cons_of_mem d hc)]
    obtain ⟨digits, hasDot, hasE, hasSign, hasExponent⟩ := s
    cases hasE <;> simp

/-- A first point is added to the reading of a mantissa. -/
theorem floatDigits_point (s : FloatScan) (hE : s.hasE = false) (hdot : s.hasDot = false)
    (t : List Char) :
    floatDigits s ('.' :: t) = floatDigits { s with digits := '.' :: s.digits, hasDot := true } t := by
  have hpoint : Decimal.isDigit '.' = false := by decide
  rw [floatDigits]
  simp [hE, hdot, isDigit_eq, hpoint]

/-- An `e` followed by a sign or a digit starts an exponent, and its sign is read with it. -/
theorem floatDigits_exponentSign {e : Char} {sign ds : List Char} (he : e = 'e' ∨ e = 'E')
    (hsign : IsSign sign) (hne : ds ≠ []) (hds : ∀ d ∈ ds, Decimal.isDigit d) (s : FloatScan)
    (hE : s.hasE = false) (hexp : s.hasExponent = false) (hs : s.hasSign = false) (t : List Char) :
    ∃ s₁, floatDigits s (e :: sign ++ ds ++ t) = floatDigits s₁ (ds ++ t) ∧ s₁.hasE = true ∧
      s₁.hasExponent = false := by
  obtain ⟨d, ds', rfl⟩ := List.exists_cons_of_ne_nil hne
  have hd := hds d (List.mem_cons_self ..)
  have hunder : d ≠ '_' := by
    rintro rfl
    simp [isDigit_iff] at hd
  have hchars : Decimal.isDigit 'e' = false ∧ Decimal.isDigit 'E' = false ∧
      Decimal.isDigit '+' = false ∧ Decimal.isDigit '-' = false := by decide
  -- the `e`, then the sign if there is one, each take one step of the reading
  rcases hsign with rfl | rfl | rfl <;> rcases he with rfl | rfl <;>
    simp only [List.cons_append, List.nil_append] <;> rw [floatDigits] <;>
    simp [isDigit_eq, hchars, hunder, hd, hE]
  -- with no sign the digits of the exponent come next; a sign takes one more step
  · exact ⟨_, rfl, rfl, hexp⟩
  · exact ⟨_, rfl, rfl, hexp⟩
  all_goals
    rw [floatDigits]
    simp [isDigit_eq, hchars, hs, hexp]
    exact ⟨_, rfl, rfl, rfl⟩

/-- A reading that reaches the end of the text leaves no suffix. -/
theorem floatDigits_nil_suffix {s : FloatScan} {d x : String} (h : floatDigits s [] = some (d, x)) :
    x = "" := by
  simp only [floatDigits, FloatScan.finish, suffixOk, List.isEmpty_nil, Bool.true_or, if_true] at h
  split at h
  · cases h
  · cases h
    rfl

/-- After the digits of a mantissa, its fraction and an exponent are read to the end of the text. -/
theorem floatDigits_tail {fraction exponent : List Char}
    (hf : FloatFraction Decimal.isDigit fraction) (he : FloatExponent exponent) (s : FloatScan)
    (hE : s.hasE = false) (hdot : s.hasDot = false) (hexp : s.hasExponent = false)
    (hs : s.hasSign = false) : ∃ s', floatDigits s (fraction ++ exponent) = floatDigits s' [] := by
  have hexponent : ∀ s : FloatScan, s.hasE = false → s.hasExponent = false → s.hasSign = false →
      ∃ s', floatDigits s exponent = floatDigits s' [] := by
    intro s hE hexp hs
    cases he with
    | none => exact ⟨s, rfl⟩
    | some he hsign hne hds =>
      obtain ⟨s₁, h₁, -, -⟩ := floatDigits_exponentSign he hsign hne hds s hE hexp hs []
      rw [← List.append_nil (_ :: _ ++ _), h₁, floatDigits_digits hds]
      exact ⟨_, rfl⟩
  cases hf with
  | none => exact hexponent s hE hexp hs
  | point hds =>
    rw [List.cons_append, floatDigits_point s hE hdot, floatDigits_digits hds]
    exact hexponent _ hE (by simp [hexp, hE]) hs

/-- A plain number is never a float with a suffix. -/
theorem floatLiteral?_plainNumber {cs : List Char} (h : PlainNumber cs) {d s : String}
    (hcs : floatLiteral? cs = some (d, s)) : s = "" := by
  obtain ⟨hsign, hne, hw, hf, he⟩ := h
  rename_i sign whole fraction exponent
  obtain ⟨w, ws, rfl⟩ := List.exists_cons_of_ne_nil hne
  rw [show sign ++ w :: ws ++ fraction ++ exponent = sign ++ w :: (ws ++ fraction ++ exponent) by simp,
    floatLiteral?_digitFirst hsign (hw w (by simp)),
    show w :: (ws ++ fraction ++ exponent) = w :: ws ++ (fraction ++ exponent) by simp,
    floatDigits_digits hw] at hcs
  -- the digits leave a reading with no point, exponent or sign, which reads the rest to the end
  have hrest : ∀ s₀ : FloatScan, s₀.hasE = false → s₀.hasDot = false → s₀.hasExponent = false →
      s₀.hasSign = false → floatDigits s₀ (fraction ++ exponent) = some (d, s) → s = "" := by
    intro s₀ hE hdot hexp hs h
    obtain ⟨s', hs'⟩ := floatDigits_tail hf he s₀ hE hdot hexp hs
    rw [hs'] at h
    exact floatDigits_nil_suffix h
  exact hrest _ (by rfl) (by rfl) (by rfl) (by rfl) hcs

/-! ## Classifying a literal -/

theorem classify_eq_integer {text d s : String} (h : Numeric.classify text = .integer d s) :
    integerLiteral? text.toList = some (d, s) := by
  unfold Numeric.classify at h
  split at h
  · split_ifs at h
    split at h
    · rename_i hint
      cases h
      exact hint
    · split at h <;> cases h
  · cases h

theorem classify_eq_float {text d s : String} (h : Numeric.classify text = .float d s) :
    floatLiteral? text.toList = some (d, s) := by
  unfold Numeric.classify at h
  split at h
  · split_ifs at h
    split at h
    · cases h
    · split at h
      · rename_i hfloat
        cases h
        exact hfloat
      · cases h
  · cases h

end Tokens

namespace Literals

open Tokens Decimal

/-- A plain number is no unit literal: it is read, if at all, with an empty suffix. -/
theorem unitLiteral?_plainNumber {cs : List Char} (h : PlainNumber cs) :
    unitLiteral? (String.ofList cs) = none := by
  unfold unitLiteral?
  split
  · rename_i d s hclass
    have hs := integerLiteral?_plainNumber h (by simpa using classify_eq_integer hclass)
    simp [hs]
  · rename_i d s hclass
    have hs := floatLiteral?_plainNumber h (by simpa using classify_eq_float hclass)
    simp [hs]
  · rfl

/-- The written value of a unit literal is no unit literal. -/
theorem unitLiteral?_floatText (v : Double) : unitLiteral? (floatText v) = none := by
  rcases render_cases Layout.pointed .double v.toBits with h | ⟨negative, h⟩ | h
  · rw [floatText, h]
    rfl
  · rw [floatText, h]
    cases negative <;> rfl
  · rw [floatText, ← String.ofList_toList (s := Layout.pointed.render .double v.toBits)]
    exact unitLiteral?_plainNumber h

/-! ## Expanding twice -/

/-- No literal of a token sequence, at any depth, is a unit literal. -/
def NoUnitLiteral (ts : List TokenTree) : Prop := ∀ text ∈ literalTexts ts, unitLiteral? text = none

section
variable {d : Delimiter} {inner rest : List TokenTree}

@[simp] theorem noUnitLiteral_nil : NoUnitLiteral [] := by
  simp [NoUnitLiteral, literalTexts]

@[simp] theorem noUnitLiteral_group :
    NoUnitLiteral (.group d inner :: rest) ↔ NoUnitLiteral inner ∧ NoUnitLiteral rest := by
  simp [NoUnitLiteral, literalTexts, or_imp, forall_and]

@[simp] theorem noUnitLiteral_literal {text : String} :
    NoUnitLiteral (.literal text :: rest) ↔ unitLiteral? text = none ∧ NoUnitLiteral rest := by
  simp [NoUnitLiteral, literalTexts]

@[simp] theorem noUnitLiteral_ident {name : String} :
    NoUnitLiteral (.ident name :: rest) ↔ NoUnitLiteral rest := by
  simp [NoUnitLiteral, literalTexts]

@[simp] theorem noUnitLiteral_punct {c : Char} :
    NoUnitLiteral (.punct c :: rest) ↔ NoUnitLiteral rest := by
  simp [NoUnitLiteral, literalTexts]

end

/-- What expansion writes holds no unit literal: kept literals are none, and the value in each
unit call is written as a plain number. -/
theorem Rewrites.noUnitLiteral {ts ts' : List TokenTree} (h : Rewrites ts ts') : NoUnitLiteral ts' := by
  induction h with
  | nil => exact noUnitLiteral_nil
  | group _ _ ihi ihr => exact noUnitLiteral_group.mpr ⟨ihi, ihr⟩
  | ident _ ih => exact noUnitLiteral_ident.mpr ih
  | punct _ ih => exact noUnitLiteral_punct.mpr ih
  | kept hnone _ ih => exact noUnitLiteral_literal.mpr ⟨hnone, ih⟩
  | unit _ _ _ _ ih => simpa using ⟨unitLiteral?_floatText _, ih⟩

/-- A sequence with no unit literal is its own rewriting. -/
theorem rewrites_self {ts : List TokenTree} (h : NoUnitLiteral ts) : Rewrites ts ts := by
  fun_induction literalTexts ts with
  | case1 => exact .nil
  | case2 d inner rest ihi ihr =>
    obtain ⟨hinner, hrest⟩ := noUnitLiteral_group.mp h
    exact .group (ihi hinner) (ihr hrest)
  | case3 text rest ih =>
    obtain ⟨htext, hrest⟩ := noUnitLiteral_literal.mp h
    exact .kept htext (ih hrest)
  | case4 name rest ih => exact .ident (ih (noUnitLiteral_ident.mp h))
  | case5 c rest ih => exact .punct (ih (noUnitLiteral_punct.mp h))

/-- Expanding unit literals a second time changes nothing: the expansion holds no unit literal,
so a second expansion keeps every token. -/
theorem expandLiterals_idempotent {ts ts' : List TokenTree} (h : expandLiterals ts = .ok ts') :
    expandLiterals ts' = .ok ts' := by
  have hcases := expandLiterals_cases ts
  cases hfault : firstFault ts with
  | some e =>
    rw [hfault] at hcases
    rw [hcases] at h
    cases h
  | none =>
    rw [hfault] at hcases
    obtain ⟨ts'', hts'', hrel⟩ := hcases
    rw [hts''] at h
    cases h
    exact expandLiterals_of_rewrites (rewrites_self hrel.noUnitLiteral)

/-- `1_km` expands to the call of `km` on the double `1`, and that call expands to itself. -/
theorem expandLiterals_idempotent_km :
    expandLiterals [.literal "1_km"] = .ok (unitCall "km" (Double.ofBits 0x3FF0000000000000)) ∧
      expandLiterals (unitCall "km" (Double.ofBits 0x3FF0000000000000)) =
        .ok (unitCall "km" (Double.ofBits 0x3FF0000000000000)) := by
  have hunit : unitLiteral? "1_km" = some ("1", "km") := by decide +kernel
  have hread : readFloat? .double "1" = some 0x3FF0000000000000 := by decide +kernel
  have hv : base10Value? "1" = some (Double.ofBits 0x3FF0000000000000) := by
    simp [base10Value?, hread]
  have hfinite : Scalar.isFinite (Double.ofBits 0x3FF0000000000000) = true := by decide +kernel
  have h : expandLiterals [.literal "1_km"] = .ok (unitCall "km" (Double.ofBits 0x3FF0000000000000)) := by
    simpa [unitCall] using expandLiterals_of_rewrites (.unit hunit hv hfinite .nil)
  exact ⟨h, expandLiterals_idempotent h⟩

end Literals

end Dimensional
