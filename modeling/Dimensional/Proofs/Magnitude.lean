import Dimensional.Proofs.Powers
import Dimensional.Magnitude

/-!
# The number at the head of quantity text

`Magnitude.prefixLength` scans the number at the head of trimmed quantity text character by
character: a sign, a run of digits and underscores, a fraction, and an exponent taken only when a
digit follows it. Here the same shape is written as a grammar, `NumberShape`, one constructor per
production, and the scanner is shown to find the longest prefix of the text in that grammar
(`prefixLength_longest`), made of one-byte characters only. With its underscores dropped that
prefix is a text of `FloatText`, the decimal grammar `Decimal.readFloat?` reads in full
(`readFloat?_isSome`), so `Magnitude.split` reads every number it finds and refuses text only when
no prefix is a number and the first word is no float either (`split_reads_longest_prefix`).
-/

namespace Dimensional
namespace List

theorem takeWhile_append_stop {α : Type} {p : α → Bool} {xs ys : List α}
    (hxs : ∀ x ∈ xs, p x) (hys : ∀ y ∈ ys.head?, p y = false) : (xs ++ ys).takeWhile p = xs := by
  rw [List.takeWhile_append_of_pos hxs]
  cases ys with
  | nil => simp
  | cons y ys => simp [List.takeWhile_cons_of_neg, hys y rfl]

theorem dropWhile_append_stop {α : Type} {p : α → Bool} {xs ys : List α}
    (hxs : ∀ x ∈ xs, p x) (hys : ∀ y ∈ ys.head?, p y = false) : (xs ++ ys).dropWhile p = ys := by
  rw [List.dropWhile_append_of_pos hxs]
  cases ys with
  | nil => simp
  | cons y ys => simp [List.dropWhile_cons_of_neg, hys y rfl]

theorem drop_length_takeWhile {α : Type} {p : α → Bool} (r : List α) :
    r.drop (r.takeWhile p).length = r.dropWhile p := by
  have h : (r.takeWhile p ++ r.dropWhile p).drop (r.takeWhile p).length = r.dropWhile p :=
    List.drop_left
  rwa [List.takeWhile_append_dropWhile] at h

theorem take_length_takeWhile {α : Type} {p : α → Bool} (r : List α) :
    r.take (r.takeWhile p).length = r.takeWhile p :=
  (List.prefix_iff_eq_take.mp (List.takeWhile_prefix p)).symm

end List

namespace Decimal

/-! ## The grammar of decimal numbers -/

/-- An optional sign `[+-]`. -/
def IsSign (sign : List Char) : Prop := sign = [] ∨ sign = ['+'] ∨ sign = ['-']

/-- An optional fraction `. w*`, its characters `w` of class `p`. -/
inductive FloatFraction (p : Char → Bool) : List Char → Prop
  | none : FloatFraction p []
  | point {ds : List Char} : (∀ d ∈ ds, p d) → FloatFraction p ('.' :: ds)

/-- An optional exponent `[eE] [+-]? digit+`. -/
inductive FloatExponent : List Char → Prop
  | none : FloatExponent []
  | some {e : Char} {sign ds : List Char} : (e = 'e' ∨ e = 'E') → IsSign sign → ds ≠ [] →
      (∀ d ∈ ds, isDigit d) → FloatExponent (e :: sign ++ ds)

/-- A decimal number `[+-]? w* (. w*)? ([eE] [+-]? digit+)?` with a digit before its exponent,
where `w` ranges over the class `p` of mantissa characters. -/
inductive NumberShape (p : Char → Bool) : List Char → Prop
  | mk {sign whole fraction exponent : List Char} : IsSign sign → (∀ c ∈ whole, p c) →
      FloatFraction p fraction → (whole ++ fraction).any isDigit → FloatExponent exponent →
      NumberShape p (sign ++ whole ++ fraction ++ exponent)

/-- Text that reads as a float: a decimal number of digits, or `inf`, `infinity` or `nan` in any
case, each after an optional sign. -/
def FloatText (cs : List Char) : Prop :=
  NumberShape isDigit cs ∨
    ∃ sign word, IsSign sign ∧ cs = sign ++ word ∧
      word.map lowerAscii ∈ ["inf".toList, "infinity".toList, "nan".toList]

theorem sign_ne_of_isDigit {c : Char} (h : isDigit c) : c ≠ '+' ∧ c ≠ '-' := by
  constructor <;> rintro rfl <;> simp [isDigit] at h

theorem IsSign.filter {sign : List Char} (h : IsSign sign) : sign.filter (· ≠ '_') = sign := by
  rcases h with rfl | rfl | rfl <;> decide

/-- A sign is split off whatever follows it, as long as that does not start with a sign itself. -/
theorem splitSign_append {sign body : List Char} (h : IsSign sign)
    (hbody : ∀ c ∈ body.head?, c ≠ '+' ∧ c ≠ '-') :
    ∃ negative, splitSign (sign ++ body) = (negative, body) := by
  rcases h with rfl | rfl | rfl
  · cases body with
    | nil => exact ⟨false, rfl⟩
    | cons c cs =>
      obtain ⟨hplus, hminus⟩ := hbody c rfl
      exact ⟨false, by simp [splitSign, hplus, hminus]⟩
  · exact ⟨false, rfl⟩
  · exact ⟨true, rfl⟩

theorem FloatExponent.head {exponent : List Char} (h : FloatExponent exponent) :
    ∀ c ∈ exponent.head?, c = 'e' ∨ c = 'E' := by
  cases h with
  | none => simp
  | some he => simpa using he

theorem FloatExponent.filter {exponent : List Char} (h : FloatExponent exponent) :
    exponent.filter (· ≠ '_') = exponent := by
  cases h with
  | none => rfl
  | some he hsign _ hds =>
    rw [List.filter_eq_self]
    intro c hc
    rcases List.mem_cons.mp hc with rfl | hc
    · rcases he with rfl | rfl <;> decide
    rcases List.mem_append.mp hc with hc | hc
    · rcases hsign with rfl | rfl | rfl <;> simp_all
    · have hd := hds c hc
      simp only [ne_eq, decide_eq_true_eq]
      rintro rfl
      simp [isDigit] at hd

/-! ## Reading the grammar -/

theorem readExponent?_isSome {sign ds : List Char} (hsign : IsSign sign) (hne : ds ≠ [])
    (hds : ∀ d ∈ ds, isDigit d) : (readExponent? (sign ++ ds)).isSome := by
  have hhead : ∀ c ∈ ds.head?, c ≠ '+' ∧ c ≠ '-' := fun c hc =>
    sign_ne_of_isDigit (hds c (List.mem_of_mem_head? hc))
  obtain ⟨negative, hsplit⟩ := splitSign_append hsign hhead
  simp [readExponent?, hsplit, hne, List.all_eq_true.mpr hds]

theorem readDecimal?_isSome {whole fraction exponent : List Char} (hw : ∀ c ∈ whole, isDigit c)
    (hf : FloatFraction isDigit fraction) (hany : (whole ++ fraction).any isDigit)
    (he : FloatExponent exponent) : (readDecimal? (whole ++ fraction ++ exponent)).isSome := by
  have hstop : ∀ c ∈ exponent.head?, isDigit c = false := fun c hc => by
    rcases he.head c hc with rfl | rfl <;> rfl
  have hmid : ∀ c ∈ (fraction ++ exponent).head?, isDigit c = false := by
    cases hf with
    | none => simpa using hstop
    | point => simp [isDigit]
  rw [List.append_assoc]
  simp only [readDecimal?, List.takeWhile_append_stop hw hmid, List.dropWhile_append_stop hw hmid]
  -- the fraction, then the exponent, each in the two shapes it can take
  cases hf with
  | none =>
    have hwhole : whole ≠ [] := by rintro rfl; simp at hany
    cases he with
    | none => simp [hwhole]
    | some he hsign hne hds =>
      rcases he with rfl | rfl <;> simp [hwhole, readExponent?_isSome hsign hne hds]
  | @point ds hds =>
    have hdigits : ¬(whole = [] ∧ ds = []) := by
      rintro ⟨rfl, rfl⟩
      simp [isDigit] at hany
    simp only [List.cons_append, List.takeWhile_append_stop hds hstop,
      List.dropWhile_append_stop hds hstop]
    cases he with
    | none => simpa using hdigits
    | some he hsign hne hes =>
      rcases he with rfl | rfl <;> simp [hdigits, readExponent?_isSome hsign hne hes]

/-- A mantissa with a digit in it starts with neither sign, when its characters are no signs. -/
theorem mantissa_head_ne_sign {p : Char → Bool} (hp : ∀ c, p c → c ≠ '+' ∧ c ≠ '-')
    {whole fraction : List Char} (hw : ∀ c ∈ whole, p c) (hf : FloatFraction p fraction)
    (hany : (whole ++ fraction).any isDigit) (rest : List Char) :
    ∀ c ∈ (whole ++ fraction ++ rest).head?, c ≠ '+' ∧ c ≠ '-' := by
  cases whole with
  | cons c cs => simpa using hp c (hw c (List.mem_cons_self ..))
  | nil =>
    cases hf with
    | none => simp at hany
    | point => simp

/-- Every text of the float grammar is read, whatever the format. -/
theorem readFloat?_isSome {cs : List Char} (h : FloatText cs) (f : BinaryFormat) :
    (readFloat? f (String.ofList cs)).isSome := by
  rcases h with ⟨hsign, hw, hf, hany, he⟩ | ⟨sign, word, hsign, rfl, hword⟩
  · rename_i sign whole fraction exponent
    obtain ⟨negative, hsplit⟩ := splitSign_append hsign
      (mantissa_head_ne_sign (fun c hc => sign_ne_of_isDigit hc) hw hf hany exponent)
    have hcs : sign ++ whole ++ fraction ++ exponent = sign ++ (whole ++ fraction ++ exponent) := by
      simp
    simp only [readFloat?, String.toList_ofList, hcs, hsplit]
    split_ifs
    · rfl
    · rfl
    · simpa using readDecimal?_isSome hw hf hany he
  · have hhead : ∀ c ∈ word.head?, c ≠ '+' ∧ c ≠ '-' := by
      intro c hc
      obtain ⟨rest, rfl⟩ : ∃ rest, word = c :: rest := by
        cases word with
        | nil => simp at hc
        | cons d rest => exact ⟨rest, by simp_all⟩
      constructor <;> rintro rfl <;> simp [lowerAscii] at hword
    obtain ⟨negative, hsplit⟩ := splitSign_append hsign hhead
    simp only [readFloat?, String.toList_ofList, hsplit]
    rcases List.mem_cons.mp hword with hinf | hword
    · simp [hinf]
    rcases List.mem_cons.mp hword with hinfinity | hword
    · simp [hinfinity]
    · simp [List.mem_singleton.mp hword]

theorem NumberShape.ne_nil {p : Char → Bool} {q : List Char} (h : NumberShape p q) : q ≠ [] := by
  obtain ⟨_, _, _, hany, _⟩ := h
  intro hq
  simp_all

/-- Every character of a number is a sign, a point, an exponent letter, a digit or a mantissa
character, so a class of characters that holds all of these holds the whole number. -/
theorem NumberShape.forall_mem {p : Char → Bool} {C : Char → Prop} (hp : ∀ c, p c → C c)
    (hdigit : ∀ d, isDigit d → C d) (hsigns : C '+' ∧ C '-') (hpoint : C '.')
    (hletters : C 'e' ∧ C 'E') {q : List Char} (h : NumberShape p q) : ∀ c ∈ q, C c := by
  obtain ⟨hsign, hw, hf, _, he⟩ := h
  intro c hc
  simp only [List.mem_append] at hc
  rcases hc with ((hc | hc) | hc) | hc
  · rcases hsign with rfl | rfl | rfl <;> simp_all
  · exact hp c (hw c hc)
  · cases hf with
    | none => simp at hc
    | point hds =>
      rcases List.mem_cons.mp hc with rfl | hc
      · exact hpoint
      · exact hp c (hds c hc)
  · cases he with
    | none => simp at hc
    | some he hsign _ hds =>
      rcases List.mem_cons.mp hc with rfl | hc
      · rcases he with rfl | rfl
        exacts [hletters.1, hletters.2]
      rcases List.mem_append.mp hc with hc | hc
      · rcases hsign with rfl | rfl | rfl <;> simp_all
      · exact hdigit c (hds c hc)

/-- Every character of a number is a single byte, when its mantissa characters are. -/
theorem NumberShape.ascii {p : Char → Bool} (hp : ∀ c, p c → c.toNat < 128) {q : List Char}
    (h : NumberShape p q) : ∀ c ∈ q, c.toNat < 128 := by
  have hdigit : ∀ d, isDigit d → d.toNat < 128 := fun d hd => by
    have := isDigit_iff.mp hd
    omega
  exact h.forall_mem hp hdigit ⟨by decide, by decide⟩ (by decide) ⟨by decide, by decide⟩

end Decimal
namespace Magnitude

open Decimal

theorem isDigit_of_isDigitOrUnderscore {c : Char} (h : isDigitOrUnderscore c) (hc : c ≠ '_') :
    isDigit c := by
  simpa [isDigitOrUnderscore, hc] using h

theorem sign_ne_of_isDigitOrUnderscore {c : Char} (h : isDigitOrUnderscore c) :
    c ≠ '+' ∧ c ≠ '-' := by
  constructor <;> rintro rfl <;> simp [isDigitOrUnderscore, isDigit] at h

/-! ## Signs and exponents -/

theorem signLength_append {sign body : List Char} (h : IsSign sign)
    (hbody : ∀ c ∈ body.head?, c ≠ '+' ∧ c ≠ '-') : signLength (sign ++ body) = sign.length := by
  rcases h with rfl | rfl | rfl
  · cases body with
    | nil => rfl
    | cons c cs =>
      obtain ⟨hplus, hminus⟩ := hbody c rfl
      unfold signLength
      split <;> simp_all
  · rfl
  · rfl

theorem isSign_take_signLength (cs : List Char) : IsSign (cs.take (signLength cs)) := by
  unfold signLength
  split <;> simp [IsSign]

theorem signLength_le_length (cs : List Char) : signLength cs ≤ cs.length := by
  unfold signLength
  split <;> simp

/-- What the scanner takes as an exponent is one. -/
theorem floatExponent_take_exponentLength (cs : List Char) :
    FloatExponent (cs.take (exponentLength cs)) := by
  unfold exponentLength
  split
  · rename_i c rest
    dsimp only
    split_ifs with hc hdigits
    · exact .none
    · set digits := (rest.drop (signLength rest)).takeWhile isDigit
      have htake : rest.take (signLength rest + digits.length) =
          rest.take (signLength rest) ++ digits := by
        rw [List.take_add, List.take_length_takeWhile]
      rw [show 1 + signLength rest + digits.length = signLength rest + digits.length + 1 by omega,
        List.take_succ_cons, htake, ← List.cons_append]
      exact .some (by simpa using hc) (isSign_take_signLength rest)
        (by simpa using hdigits) (fun d hd => List.mem_takeWhile_imp hd)
    · exact .none
  · exact .none

theorem exponentLength_le_length (cs : List Char) : exponentLength cs ≤ cs.length := by
  unfold exponentLength
  split
  · rename_i c rest
    have hsign := signLength_le_length rest
    have hdigits : ((rest.drop (signLength rest)).takeWhile isDigit).length ≤
        (rest.drop (signLength rest)).length :=
      (List.takeWhile_prefix isDigit).length_le
    simp only [List.length_drop] at hdigits
    dsimp only
    split_ifs <;> simp
    omega
  · rfl

/-- An exponent in the grammar is taken whole, and any digits after it with it. -/
theorem exponentLength_some {e : Char} {sign ds : List Char} (he : e = 'e' ∨ e = 'E')
    (hsign : IsSign sign) (hne : ds ≠ []) (hds : ∀ d ∈ ds, isDigit d) (r : List Char) :
    exponentLength (e :: sign ++ ds ++ r) =
      1 + sign.length + ds.length + (r.takeWhile isDigit).length := by
  have hstart : ∀ c ∈ (ds ++ r).head?, c ≠ '+' ∧ c ≠ '-' := by
    cases ds with
    | nil => exact absurd rfl hne
    | cons d ds => simpa using sign_ne_of_isDigit (hds d (List.mem_cons_self ..))
  have hsignLength := signLength_append hsign hstart
  have hdigits : (ds ++ r).takeWhile isDigit = ds ++ r.takeWhile isDigit :=
    List.takeWhile_append_of_pos hds
  have he' : (e = 'e' || e = 'E') = true := by simpa using he
  simp only [List.cons_append, List.append_assoc, exponentLength, he', if_true,
    hsignLength, List.drop_left, hdigits]
  simp [List.isEmpty_iff, hne]
  omega

theorem length_le_exponentLength {exponent : List Char} (h : FloatExponent exponent)
    (r : List Char) : exponent.length ≤ exponentLength (exponent ++ r) := by
  cases h with
  | none => simp
  | some he hsign hne hds =>
    rw [exponentLength_some he hsign hne hds]
    simp only [List.length_cons, List.length_append]
    omega

/-! ## The mantissa -/

/-- The digits, underscores and fraction the scanner reads after the sign of `body`, and what
follows them. -/
def mantissa (body : List Char) : List Char × List Char :=
  match body.dropWhile isDigitOrUnderscore with
  | '.' :: r => (body.takeWhile isDigitOrUnderscore ++ '.' :: r.takeWhile isDigitOrUnderscore,
      r.dropWhile isDigitOrUnderscore)
  | rest => (body.takeWhile isDigitOrUnderscore, rest)

/-- The scanner reads a sign, a mantissa and an exponent after it. -/
theorem prefixLength_eq (cs : List Char) :
    prefixLength cs =
      if (mantissa (cs.drop (signLength cs))).1.any isDigit then
        signLength cs + (mantissa (cs.drop (signLength cs))).1.length +
          exponentLength (mantissa (cs.drop (signLength cs))).2
      else 0 := by
  unfold prefixLength mantissa
  dsimp only
  generalize (cs.drop (signLength cs)).dropWhile isDigitOrUnderscore = after
  rcases after with _ | ⟨c, r⟩
  · simp
  · by_cases hc : c = '.'
    · subst hc
      simp [List.drop_length_takeWhile, Nat.add_assoc]
    · simp [hc]

theorem mantissa_append (body : List Char) : (mantissa body).1 ++ (mantissa body).2 = body := by
  unfold mantissa
  split
  · rename_i r heq
    have hbody : body.takeWhile isDigitOrUnderscore ++ body.dropWhile isDigitOrUnderscore = body :=
      List.takeWhile_append_dropWhile
    conv_rhs => rw [← hbody, heq]
    simp
  · exact List.takeWhile_append_dropWhile

theorem mantissa_shape (body : List Char) :
    ∃ whole fraction, (mantissa body).1 = whole ++ fraction ∧
      (∀ c ∈ whole, isDigitOrUnderscore c) ∧ FloatFraction isDigitOrUnderscore fraction := by
  unfold mantissa
  split
  · exact ⟨_, _, rfl, fun c hc => List.mem_takeWhile_imp hc,
      .point fun d hd => List.mem_takeWhile_imp hd⟩
  · exact ⟨_, [], (List.append_nil _).symm, fun c hc => List.mem_takeWhile_imp hc, .none⟩

theorem mantissa_whole {whole : List Char} (hw : ∀ c ∈ whole, isDigitOrUnderscore c)
    (t : List Char) : mantissa (whole ++ t) = (whole ++ (mantissa t).1, (mantissa t).2) := by
  unfold mantissa
  rw [List.dropWhile_append_of_pos hw, List.takeWhile_append_of_pos hw]
  split <;> simp

theorem mantissa_point {ds : List Char} (hds : ∀ d ∈ ds, isDigitOrUnderscore d) (t : List Char) :
    mantissa ('.' :: ds ++ t) =
      ('.' :: ds ++ t.takeWhile isDigitOrUnderscore, t.dropWhile isDigitOrUnderscore) := by
  have hdot : isDigitOrUnderscore '.' = false := by decide
  simp [mantissa, List.dropWhile_cons_of_neg, List.takeWhile_cons_of_neg, hdot,
    List.takeWhile_append_of_pos hds, List.dropWhile_append_of_pos hds]

/-- Whatever follows a mantissa of the grammar, the scanner reads at least that mantissa. -/
theorem mantissa_grows {whole fraction : List Char} (hw : ∀ c ∈ whole, isDigitOrUnderscore c)
    (hf : FloatFraction isDigitOrUnderscore fraction) (t : List Char) :
    whole ++ fraction <+: (mantissa (whole ++ fraction ++ t)).1 := by
  cases hf with
  | none => simp [mantissa_whole hw]
  | point hds =>
    rw [List.append_assoc, mantissa_whole hw, mantissa_point hds]
    simp

/-- The scanner's mantissa ends where the grammar's does when the next character is neither a
mantissa character nor a point. -/
theorem mantissa_stop {whole fraction t : List Char}
    (hw : ∀ c ∈ whole, isDigitOrUnderscore c) (hf : FloatFraction isDigitOrUnderscore fraction)
    (ht : ∀ c ∈ t.head?, isDigitOrUnderscore c = false ∧ c ≠ '.') :
    mantissa (whole ++ fraction ++ t) = (whole ++ fraction, t) := by
  have htake : t.takeWhile isDigitOrUnderscore = [] := by
    cases t with
    | nil => rfl
    | cons c t => exact List.takeWhile_cons_of_neg (by simp [(ht c rfl).1])
  have hdrop : t.dropWhile isDigitOrUnderscore = t := by
    cases t with
    | nil => rfl
    | cons c t => exact List.dropWhile_cons_of_neg (by simp [(ht c rfl).1])
  cases hf with
  | none =>
    rw [List.append_nil, mantissa_whole hw]
    unfold mantissa
    rw [htake, hdrop]
    cases t with
    | nil => simp
    | cons c t =>
      have hpoint := (ht c rfl).2
      split
      · rename_i heq
        exact absurd (List.cons.inj heq).1 hpoint
      · simp
  | point hds =>
    rw [List.append_assoc, mantissa_whole hw, mantissa_point hds, htake, hdrop]
    simp

/-- Before an exponent the scanner reads exactly the mantissa of the grammar. -/
theorem mantissa_exponent {whole fraction t : List Char}
    (hw : ∀ c ∈ whole, isDigitOrUnderscore c) (hf : FloatFraction isDigitOrUnderscore fraction)
    (ht : ∀ c ∈ t.head?, c = 'e' ∨ c = 'E') :
    mantissa (whole ++ fraction ++ t) = (whole ++ fraction, t) :=
  mantissa_stop hw hf fun c hc => by rcases ht c hc with rfl | rfl <;> decide

/-! ## The longest number prefix -/

/-- The scanner's reading of `cs`: a sign, a mantissa of the grammar, and what follows. -/
theorem prefixLength_parts (cs : List Char) :
    ∃ sign whole fraction rest, cs = sign ++ whole ++ fraction ++ rest ∧ IsSign sign ∧
      (∀ c ∈ whole, isDigitOrUnderscore c) ∧ FloatFraction isDigitOrUnderscore fraction ∧
      prefixLength cs = if (whole ++ fraction).any isDigit then
        sign.length + (whole ++ fraction).length + exponentLength rest else 0 := by
  obtain ⟨whole, fraction, hm, hw, hf⟩ := mantissa_shape (cs.drop (signLength cs))
  refine ⟨cs.take (signLength cs), whole, fraction, (mantissa (cs.drop (signLength cs))).2, ?_,
    isSign_take_signLength cs, hw, hf, ?_⟩
  · rw [List.append_assoc _ whole, ← hm, List.append_assoc, mantissa_append,
      List.take_append_drop]
  · rw [prefixLength_eq, ← hm, List.length_take_of_le (signLength_le_length cs)]

/-- What the scanner reads is a number of the grammar. -/
theorem numberShape_take_prefixLength {cs : List Char} (h : prefixLength cs ≠ 0) :
    prefixLength cs ≤ cs.length ∧ NumberShape isDigitOrUnderscore (cs.take (prefixLength cs)) := by
  obtain ⟨sign, whole, fraction, rest, rfl, hsign, hw, hf, hlength⟩ := prefixLength_parts cs
  rw [hlength] at h ⊢
  split_ifs at h ⊢ with hany
  · have hexp := exponentLength_le_length rest
    have htake : (sign ++ whole ++ fraction ++ rest).take
        (sign.length + (whole ++ fraction).length + exponentLength rest) =
          sign ++ whole ++ fraction ++ rest.take (exponentLength rest) := by
      rw [← List.length_append, List.append_assoc sign whole fraction,
        List.take_length_add_append]
    refine ⟨by simp; omega, ?_⟩
    rw [htake]
    exact .mk hsign hw hf hany (floatExponent_take_exponentLength rest)
  · exact absurd rfl h

/-- No prefix of the grammar is longer than what the scanner reads. -/
theorem length_le_prefixLength {q : List Char} (hq : NumberShape isDigitOrUnderscore q)
    (r : List Char) : q.length ≤ prefixLength (q ++ r) := by
  obtain ⟨hsign, hw, hf, hany, he⟩ := hq
  rename_i sign whole fraction exponent
  have hsignLength : signLength (sign ++ (whole ++ fraction ++ (exponent ++ r))) = sign.length :=
    signLength_append hsign (mantissa_head_ne_sign (fun c hc => sign_ne_of_isDigitOrUnderscore hc)
      hw hf hany _)
  have hgrows := mantissa_grows hw hf (exponent ++ r)
  have hany' : (mantissa (whole ++ fraction ++ (exponent ++ r))).1.any isDigit := by
    obtain ⟨c, hc, hd⟩ := List.any_eq_true.mp hany
    exact List.any_eq_true.mpr ⟨c, hgrows.subset hc, hd⟩
  have hq : sign ++ whole ++ fraction ++ exponent ++ r =
      sign ++ (whole ++ fraction ++ (exponent ++ r)) := by simp
  rw [hq, prefixLength_eq, hsignLength, List.drop_left, if_pos hany']
  -- without an exponent the mantissa alone bounds the number; with one, the scanner stops its
  -- mantissa where the grammar does and then reads at least the exponent
  cases he with
  | none =>
    have := hgrows.length_le
    simp only [List.length_append, List.length_nil] at this ⊢
    omega
  | @some e sign' ds he' hs hne hds =>
    have hexp := length_le_exponentLength (.some he' hs hne hds) r
    have hhead : ∀ c ∈ (e :: sign' ++ ds ++ r).head?, c = 'e' ∨ c = 'E' := by simpa using he'
    rw [mantissa_exponent hw hf hhead]
    simp only [List.length_append] at hexp ⊢
    omega

/-- `n` is the length of the longest prefix of `cs` that `P` accepts, and zero when none does. -/
structure LongestPrefix (P : List Char → Prop) (cs : List Char) (n : Nat) : Prop where
  longest : ∀ q, q <+: cs → P q → q.length ≤ n
  found : n = 0 ∧ (∀ q, q <+: cs → ¬P q) ∨ n ≤ cs.length ∧ P (cs.take n)

/-- The scanner's number is the longest prefix of the text in the grammar. -/
theorem prefixLength_longest (cs : List Char) :
    LongestPrefix (NumberShape isDigitOrUnderscore) cs (prefixLength cs) where
  longest q hq hnum := by
    obtain ⟨r, rfl⟩ := hq
    exact length_le_prefixLength hnum r
  found := by
    by_cases h : prefixLength cs = 0
    · refine .inl ⟨h, fun q hq hnum => hnum.ne_nil ?_⟩
      obtain ⟨r, rfl⟩ := hq
      have := length_le_prefixLength hnum r
      exact List.eq_nil_of_length_eq_zero (by omega)
    · exact .inr (numberShape_take_prefixLength h)

/-! ## Reading the number -/

theorem floatFraction_filter_underscore {fraction : List Char}
    (h : FloatFraction isDigitOrUnderscore fraction) :
    FloatFraction isDigit (fraction.filter (· ≠ '_')) := by
  cases h with
  | none => exact .none
  | point hds =>
    rw [List.filter_cons_of_pos (by decide)]
    refine .point fun d hd => ?_
    obtain ⟨hd, hne⟩ := List.mem_filter.mp hd
    exact isDigit_of_isDigitOrUnderscore (hds d hd) (by simpa using hne)

/-- Without its underscores a number of the scanner's grammar is one of digits. -/
theorem numberShape_filter_underscore {q : List Char} (h : NumberShape isDigitOrUnderscore q) :
    NumberShape isDigit (q.filter (· ≠ '_')) := by
  obtain ⟨hsign, hw, hf, hany, he⟩ := h
  rename_i sign whole fraction exponent
  have hwhole : ∀ c ∈ whole.filter (· ≠ '_'), isDigit c := fun c hc => by
    obtain ⟨hc, hne⟩ := List.mem_filter.mp hc
    exact isDigit_of_isDigitOrUnderscore (hw c hc) (by simpa using hne)
  have hany' : (whole.filter (· ≠ '_') ++ fraction.filter (· ≠ '_')).any isDigit := by
    rw [← List.filter_append]
    obtain ⟨c, hc, hd⟩ := List.any_eq_true.mp hany
    have hne : c ≠ '_' := by
      rintro rfl
      simp [isDigit] at hd
    exact List.any_eq_true.mpr ⟨c, List.mem_filter.mpr ⟨hc, by simpa using hne⟩, hd⟩
  simp only [List.filter_append, hsign.filter, he.filter]
  exact .mk hsign hwhole (floatFraction_filter_underscore hf) hany' he

theorem utf8Size_of_ascii {c : Char} (h : c.toNat < 128) : c.utf8Size = 1 := by
  rw [Char.utf8Size_eq_one_iff, UInt32.le_iff_toNat_le]
  exact Nat.lt_succ_iff.mp h

theorem utf8ByteSize_ofList_of_ascii {cs : List Char} (h : ∀ c ∈ cs, c.toNat < 128) :
    (String.ofList cs).utf8ByteSize = cs.length := by
  rw [String.utf8ByteSize_ofList]
  induction cs with
  | nil => rfl
  | cons c cs ih =>
    rw [String.utf8Len_cons, ih fun d hd => h d (List.mem_cons_of_mem c hd),
      utf8Size_of_ascii (h c (List.mem_cons_self ..))]
    rfl

theorem ascii_of_isDigitOrUnderscore {c : Char} (h : isDigitOrUnderscore c) : c.toNat < 128 := by
  rcases Bool.or_eq_true _ _ ▸ h with hd | hu
  · have := isDigit_iff.mp hd
    omega
  · rw [of_decide_eq_true hu]
    decide

/-- The number is counted in bytes as in characters: all of them are ASCII. -/
theorem utf8ByteSize_take_prefixLength (cs : List Char) :
    (String.ofList (cs.take (prefixLength cs))).utf8ByteSize = prefixLength cs := by
  by_cases h : prefixLength cs = 0
  · simp [h]
  · obtain ⟨hle, hnum⟩ := numberShape_take_prefixLength h
    rw [utf8ByteSize_ofList_of_ascii (hnum.ascii fun _ => ascii_of_isDigitOrUnderscore),
      List.length_take_of_le hle]

theorem splitText_of_ne_zero {cs : List Char} (h : prefixLength cs ≠ 0) :
    splitText cs = (cs.take (prefixLength cs), cs.drop (prefixLength cs)) := by
  unfold splitText
  split <;> simp_all

theorem splitText_of_eq_zero {cs : List Char} (h : prefixLength cs = 0) :
    splitText cs = (cs.takeWhile (fun c => !Text.isBlank c), cs.dropWhile (fun c => !Text.isBlank c)) := by
  unfold splitText
  rw [h]
  rfl

/-- What `split` makes of text whose trimmed characters `u` are not empty. The number is the
longest prefix of `u` in the scanner's grammar, as many bytes long as characters. When there is
one, its text without underscores is a float and is read. The text is refused only when no
prefix of `u` is a number and its first word, without underscores, is no float either. -/
structure Splits (t : String) (u : List Char) : Prop where
  longest : LongestPrefix (NumberShape isDigitOrUnderscore) u (prefixLength u)
  bytes : (String.ofList (u.take (prefixLength u))).utf8ByteSize = prefixLength u
  reads : prefixLength u ≠ 0 → FloatText ((u.take (prefixLength u)).filter (· ≠ '_')) ∧
    ∃ bits, readFloat? .double (String.ofList ((u.take (prefixLength u)).filter (· ≠ '_'))) =
        some bits ∧
      split t = .ok (Double.ofBits bits, String.ofList (Text.trimBlanks (u.drop (prefixLength u))))
  refuses : ∀ e, split t = .error e →
    prefixLength u = 0 ∧ (∀ q, q <+: u → ¬NumberShape isDigitOrUnderscore q) ∧
      e = .invalidNumber (String.ofList (u.takeWhile fun c => !Text.isBlank c)) ∧
      ¬FloatText ((u.takeWhile fun c => !Text.isBlank c).filter (· ≠ '_'))

/-- Text with a number prefix reads it: without underscores it is a float, and `split` gives its
value and the trimmed rest. -/
theorem split_of_prefixLength_ne_zero {t : String} {u : List Char}
    (hu : Text.trimBlanks t.toList = u) (hne : u ≠ []) (h : prefixLength u ≠ 0) :
    FloatText ((u.take (prefixLength u)).filter (· ≠ '_')) ∧
      ∃ bits, readFloat? .double (String.ofList ((u.take (prefixLength u)).filter (· ≠ '_'))) =
          some bits ∧
        split t =
          .ok (Double.ofBits bits, String.ofList (Text.trimBlanks (u.drop (prefixLength u)))) := by
  have hempty : u.isEmpty = false := by simpa using hne
  have hfloat : FloatText ((u.take (prefixLength u)).filter (· ≠ '_')) :=
    .inl (numberShape_filter_underscore (numberShape_take_prefixLength h).2)
  obtain ⟨bits, hbits⟩ := Option.isSome_iff_exists.mp (readFloat?_isSome hfloat .double)
  refine ⟨hfloat, bits, hbits, ?_⟩
  simp only [split, hu, hempty, splitText_of_ne_zero h, hbits]
  rfl

theorem not_numberShape_of_prefixLength_eq_zero {cs : List Char} (h : prefixLength cs = 0) :
    ∀ q, q <+: cs → ¬NumberShape isDigitOrUnderscore q := by
  rcases (prefixLength_longest cs).found with ⟨_, hnone⟩ | ⟨_, hnum⟩
  · exact hnone
  · rw [h] at hnum
    exact absurd rfl hnum.ne_nil

/-- `split` refuses non-empty text only when no prefix is a number, naming the first word, which
without its underscores is no float. -/
theorem split_eq_error {t : String} {u : List Char} (hu : Text.trimBlanks t.toList = u)
    (hne : u ≠ []) {e : ParseError} (he : split t = .error e) :
    prefixLength u = 0 ∧ (∀ q, q <+: u → ¬NumberShape isDigitOrUnderscore q) ∧
      e = .invalidNumber (String.ofList (u.takeWhile fun c => !Text.isBlank c)) ∧
      ¬FloatText ((u.takeWhile fun c => !Text.isBlank c).filter (· ≠ '_')) := by
  by_cases h : prefixLength u = 0
  · have hempty : u.isEmpty = false := by simpa using hne
    simp only [split, hu, hempty, Bool.false_eq_true, ↓reduceIte, splitText_of_eq_zero h] at he
    split at he
    · cases he
    · rename_i hread
      refine ⟨h, not_numberShape_of_prefixLength_eq_zero h, (Except.error.inj he).symm,
        fun hfloat => ?_⟩
      have hsome := readFloat?_isSome hfloat .double
      rw [hread] at hsome
      cases hsome
  · obtain ⟨_, _, _, hok⟩ := split_of_prefixLength_ne_zero hu hne h
    rw [hok] at he
    cases he

theorem split_reads_longest_prefix (t : String) {u : List Char}
    (hu : Text.trimBlanks t.toList = u) (hne : u ≠ []) : Splits t u :=
  ⟨prefixLength_longest u, utf8ByteSize_take_prefixLength u,
    split_of_prefixLength_ne_zero hu hne, fun _ he => split_eq_error hu hne he⟩

/-- The number of `  -4e3km ` is `-4e3`, read before the symbol `km`. -/
theorem split_reads_longest_prefix_km :
    Text.trimBlanks "  -4e3km ".toList = "-4e3km".toList ∧ "-4e3km".toList ≠ [] ∧
      Splits "  -4e3km " "-4e3km".toList :=
  have hu : Text.trimBlanks "  -4e3km ".toList = "-4e3km".toList := by decide +kernel
  have hne : "-4e3km".toList ≠ [] := by simp
  ⟨hu, hne, split_reads_longest_prefix "  -4e3km " hu hne⟩

end Magnitude
end Dimensional
