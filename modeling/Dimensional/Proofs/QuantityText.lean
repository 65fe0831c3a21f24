import Dimensional.Proofs.Magnitude
import Dimensional.Registry.Resolve

/-!
# Blanks between a number and its unit

Quantity text is a number and then a signature, with or without blanks between them: `3 eV` and
`3eV` read alike. The scanner of `Magnitude.prefixLength` stops right after a number of the
grammar `NumberShape` when what follows cannot continue it (`Stops`): no digit, underscore or
point, and no exponent unless the number already has one (`prefixLength_append_stop`). Text
made of such a number `n` and a rest `y` is then split into `n`, read as a float, and `y`
trimmed (`split_number_append`), so blanks put between the two change nothing
(`parseQuantity_blanks_after_number`).
-/

namespace Dimensional

namespace Text

theorem dropBlanks_append_of_head {cs ds : List Char} (h : ∀ c ∈ ds.head?, isBlank c = false) :
    dropBlanks (cs ++ ds) = dropBlanks cs ++ ds := by
  induction cs with
  | nil =>
    cases ds with
    | nil => rfl
    | cons d ds => exact List.dropWhile_cons_of_neg (by simp [h d rfl])
  | cons c cs ih =>
    by_cases hc : isBlank c = true
    · simp only [dropBlanks, List.cons_append, List.dropWhile_cons_of_pos hc] at ih ⊢
      exact ih
    · simp only [dropBlanks, List.cons_append, List.dropWhile_cons_of_neg hc]

theorem trimBlanks_blanks_append {bs : List Char} (h : ∀ c ∈ bs, isBlank c = true) (cs : List Char) :
    trimBlanks (bs ++ cs) = trimBlanks cs := by
  simp only [trimBlanks, dropBlanks, List.dropWhile_append_of_pos h]

theorem trimBlanks_append_blanks (cs : List Char) {bs : List Char} (h : ∀ c ∈ bs, isBlank c = true) :
    trimBlanks (cs ++ bs) = trimBlanks cs := by
  simp only [trimBlanks, dropBlanks]
  rw [List.dropWhile_append]
  -- blanks after text that is not all blank survive the first pass and go in the second
  split_ifs with hcs
  · rw [List.isEmpty_iff.mp hcs, List.dropWhile_eq_nil_iff.mpr h]
  · rw [List.reverse_append, List.dropWhile_append_of_pos (by simpa using h)]

/-- Text that starts with `cs`, none of whose characters is blank, keeps `cs` whole when it is
trimmed, and its end `y` loses its trailing blanks: what is left of `y` is `y` without some blanks
at its end. -/
theorem trimBlanks_nonblank_append {cs : List Char} (hne : cs ≠ [])
    (hcs : ∀ c ∈ cs, isBlank c = false) (y : List Char) :
    ∃ y' bs, y = y' ++ bs ∧ (∀ c ∈ bs, isBlank c = true) ∧
      trimBlanks (cs ++ y) = cs ++ y' := by
  have hfront : ∀ c ∈ (cs ++ y).head?, isBlank c = false := by
    obtain ⟨c, cs', rfl⟩ := List.exists_cons_of_ne_nil hne
    simpa using hcs c (List.mem_cons_self ..)
  have hback : ∀ c ∈ cs.reverse.head?, isBlank c = false := fun c hc =>
    hcs c (List.mem_reverse.mp (List.mem_of_mem_head? hc))
  refine ⟨(dropBlanks y.reverse).reverse, (y.reverse.takeWhile isBlank).reverse, ?_,
    fun c hc => List.mem_takeWhile_imp (List.mem_reverse.mp hc), ?_⟩
  · rw [← List.reverse_append, dropBlanks, List.takeWhile_append_dropWhile, List.reverse_reverse]
  · have hleft := @dropBlanks_append_of_head [] _ hfront
    rw [List.nil_append, show dropBlanks [] = [] from rfl, List.nil_append] at hleft
    rw [trimBlanks, hleft, List.reverse_append, dropBlanks_append_of_head hback, List.reverse_append,
      List.reverse_reverse]

theorem isBlank_eq_false_of_isDigit {c : Char} (h : Decimal.isDigit c = true) :
    isBlank c = false := by
  have := Decimal.isDigit_iff.mp h
  simp only [isBlank]
  simp
  omega

end Text

namespace Magnitude

open Decimal

/-- Text that starts with an exponent: `e` or `E`, an optional sign, and a digit. -/
def StartsWithExponent (cs : List Char) : Prop :=
  ∃ e sign d rest, (e = 'e' ∨ e = 'E') ∧ IsSign sign ∧ isDigit d = true ∧ cs = e :: sign ++ d :: rest

/-- `y` cannot continue the number `n`: it starts with no digit, underscore or point, and, when
`n` has no exponent, with no exponent either. -/
structure Stops (n y : List Char) : Prop where
  head : ∀ c ∈ y.head?, isDigit c = false ∧ c ≠ '_' ∧ c ≠ '.'
  exponent : 'e' ∉ n → 'E' ∉ n → ¬StartsWithExponent y

/-- Text whose scanned exponent is not empty starts with an exponent. -/
theorem startsWithExponent_of_exponentLength {cs : List Char} (h : exponentLength cs ≠ 0) :
    StartsWithExponent cs := by
  have hle := exponentLength_le_length cs
  have htake := floatExponent_take_exponentLength cs
  have hcs := List.take_append_drop (exponentLength cs) cs
  generalize exponentLength cs = k at h hle htake hcs
  have hlen : (cs.take k).length = k := List.length_take_of_le hle
  generalize cs.take k = t at htake hcs hlen
  cases htake with
  | none => exact absurd hlen.symm (by simpa using h)
  | @some e sign ds he hsign hne hds =>
    obtain ⟨d, ds', rfl⟩ := List.exists_cons_of_ne_nil hne
    exact ⟨e, sign, d, ds' ++ cs.drop k, he, hsign, hds d (List.mem_cons_self ..),
      hcs.symm.trans (by simp)⟩

/-- A mantissa without an exponent has no exponent letter. -/
theorem exponentLetter_not_mem {sign whole fraction : List Char} (hsign : IsSign sign)
    (hw : ∀ c ∈ whole, isDigitOrUnderscore c) (hf : FloatFraction isDigitOrUnderscore fraction)
    {e : Char} (he : e = 'e' ∨ e = 'E') : e ∉ sign ++ whole ++ fraction := by
  have hletter : isDigitOrUnderscore e = false := by rcases he with rfl | rfl <;> rfl
  intro hmem
  simp only [List.mem_append] at hmem
  rcases hmem with (hmem | hmem) | hmem
  · rcases hsign with rfl | rfl | rfl <;> rcases he with rfl | rfl <;> simp_all
  · simp_all
  · cases hf with
    | none => simp at hmem
    | point hds =>
      rcases List.mem_cons.mp hmem with rfl | hmem
      · rcases he with h | h <;> cases h
      · simp_all

/-- The scanner stops at the end of a number that the rest of the text cannot continue. -/
theorem prefixLength_append_stop {n y : List Char} (hn : NumberShape isDigitOrUnderscore n)
    (hy : Stops n y) : prefixLength (n ++ y) = n.length := by
  obtain ⟨hsign, hw, hf, hany, he⟩ := hn
  rename_i sign whole fraction exponent
  have hsignLength : signLength (sign ++ (whole ++ fraction ++ (exponent ++ y))) = sign.length :=
    signLength_append hsign (mantissa_head_ne_sign (fun c hc => sign_ne_of_isDigitOrUnderscore hc)
      hw hf hany _)
  have hq : sign ++ whole ++ fraction ++ exponent ++ y =
      sign ++ (whole ++ fraction ++ (exponent ++ y)) := by simp
  rw [hq, prefixLength_eq, hsignLength, List.drop_left]
  cases he with
  | none =>
    -- no exponent: the rest starts no mantissa character, and no exponent either
    have hstop : ∀ c ∈ y.head?, isDigitOrUnderscore c = false ∧ c ≠ '.' := fun c hc => by
      obtain ⟨hdigit, hunder, hpoint⟩ := hy.head c hc
      exact ⟨by simp [isDigitOrUnderscore, hdigit, hunder], hpoint⟩
    have hnoexp : exponentLength y = 0 := by
      by_contra hexp
      refine hy.exponent ?_ ?_ (startsWithExponent_of_exponentLength hexp) <;>
        simpa using exponentLetter_not_mem hsign hw hf (by simp)
    rw [List.nil_append, mantissa_stop hw hf hstop, if_pos hany, hnoexp]
    simp
  | @some e sign' ds hletter hs hne hds =>
    -- the exponent ends the mantissa, and the rest starts no digit to lengthen the exponent
    have hhead : ∀ c ∈ (e :: sign' ++ ds ++ y).head?, c = 'e' ∨ c = 'E' := by simpa using hletter
    have hdigits : y.takeWhile isDigit = [] := by
      cases y with
      | nil => rfl
      | cons c y => exact List.takeWhile_cons_of_neg (by simp [(hy.head c rfl).1])
    rw [mantissa_exponent hw hf hhead, if_pos hany, exponentLength_some hletter hs hne hds, hdigits]
    simp only [List.length_append, List.length_cons, List.length_nil]
    omega

/-- What cannot continue a number cannot once blanks are cut from its end. -/
theorem Stops.of_append {n y bs : List Char} (h : Stops n (y ++ bs)) : Stops n y where
  head c hc := h.head c (by
    obtain ⟨d, y', rfl⟩ := List.exists_cons_of_ne_nil (List.ne_nil_of_mem (List.mem_of_mem_head? hc))
    simpa using hc)
  exponent he hE := by
    rintro ⟨e, sign, d, rest, hletter, hsign, hd, hy⟩
    exact h.exponent he hE ⟨e, sign, d, rest ++ bs, hletter, hsign, hd, by simp [hy]⟩

/-- A blank is no character of a number. -/
theorem not_numberChar_of_isBlank {c : Char} (h : Text.isBlank c = true) :
    isDigit c = false ∧ c ≠ '_' ∧ c ≠ '.' ∧ c ≠ 'e' ∧ c ≠ 'E' := by
  refine ⟨?_, ?_, ?_, ?_, ?_⟩
  · cases hd : isDigit c
    · rfl
    · rw [Text.isBlank_eq_false_of_isDigit hd] at h
      cases h
  all_goals
    rintro rfl
    revert h
    decide

/-- Blanks cannot continue a number. -/
theorem stops_blanks_append {n bs y : List Char} (hbs : ∀ c ∈ bs, Text.isBlank c = true)
    (hne : bs ≠ []) : Stops n (bs ++ y) := by
  obtain ⟨b, bs', rfl⟩ := List.exists_cons_of_ne_nil hne
  obtain ⟨hdigit, hunder, hpoint, he, hE⟩ :=
    not_numberChar_of_isBlank (hbs b (List.mem_cons_self ..))
  refine ⟨fun c hc => ?_, ?_⟩
  · obtain rfl : b = c := by simpa using hc
    exact ⟨hdigit, hunder, hpoint⟩
  · rintro - - ⟨e, sign, d, rest, hletter, -, -, h⟩
    simp only [List.cons_append, List.cons.injEq] at h
    rcases hletter with rfl | rfl
    exacts [he h.1, hE h.1]

/-- Text made of a number `n` and a rest `y` that cannot continue it is split into `n`, read as
a float, and `y` trimmed. -/
theorem split_number_append {t : String} {n y : List Char} (ht : t.toList = n ++ y)
    (hne : n ≠ []) (hnum : prefixLength n = n.length) (hy : Stops n y) :
    ∃ bits, readFloat? .double (String.ofList (n.filter (· ≠ '_'))) = some bits ∧
      split t = .ok (Double.ofBits bits, String.ofList (Text.trimBlanks y)) := by
  have hshape : NumberShape isDigitOrUnderscore n := by
    have h := (@numberShape_take_prefixLength n (by simpa [hnum] using hne)).2
    rwa [hnum, List.take_length] at h
  have hblank : ∀ c ∈ n, Text.isBlank c = false := by
    refine hshape.forall_mem (fun c hc => ?_) (fun c hc => Text.isBlank_eq_false_of_isDigit hc)
      ⟨by decide, by decide⟩ (by decide) ⟨by decide, by decide⟩
    rcases Bool.or_eq_true _ _ ▸ hc with hd | hu
    · exact Text.isBlank_eq_false_of_isDigit hd
    · rw [of_decide_eq_true hu]
      decide
  obtain ⟨y', bs, rfl, hbs, htrim⟩ := Text.trimBlanks_nonblank_append hne hblank y
  have hlen : prefixLength (n ++ y') = n.length := prefixLength_append_stop hshape hy.of_append
  have hu : Text.trimBlanks t.toList = n ++ y' := by rw [ht, htrim]
  have hpos : prefixLength (n ++ y') ≠ 0 := by simpa [hlen] using hne
  obtain ⟨-, bits, hbits, hsplit⟩ := split_of_prefixLength_ne_zero hu (by simp [hne]) hpos
  rw [hlen, List.take_left] at hbits
  rw [hlen, List.drop_left] at hsplit
  refine ⟨bits, hbits, ?_⟩
  rw [hsplit, Text.trimBlanks_append_blanks y' hbs]

end Magnitude

namespace Registry

/-- Blanks between a number and its signature change nothing: the quantity text `n ++ w ++ s`,
with `n` a whole number token, `w` blanks and `s` a signature that cannot continue the number,
reads as `n ++ s` in every registry, whatever dimension is expected. -/
theorem parseQuantity_blanks_after_number (r : Registry) (expected : Exponents) {n w s : String}
    (hne : n.toList ≠ []) (hnum : Magnitude.prefixLength n.toList = n.toList.length)
    (hw : ∀ c ∈ w.toList, Text.isBlank c = true) (hs : Magnitude.Stops n.toList s.toList) :
    r.parseQuantity expected (n ++ w ++ s) = r.parseQuantity expected (n ++ s) := by
  have hsplit : Magnitude.split (n ++ w ++ s) = Magnitude.split (n ++ s) := by
    by_cases hempty : w.toList = []
    · rw [String.toList_eq_nil_iff.mp hempty, String.append_empty]
    obtain ⟨bits, hbits, hspaced⟩ := Magnitude.split_number_append (t := n ++ w ++ s)
      (y := w.toList ++ s.toList) (by simp) hne hnum (Magnitude.stops_blanks_append hw hempty)
    obtain ⟨bits', hbits', hjoined⟩ := Magnitude.split_number_append (t := n ++ s) (y := s.toList)
      (by simp) hne hnum hs
    rw [hspaced, hjoined, Option.some.inj (hbits.symm.trans hbits'),
      Text.trimBlanks_blanks_append hw]
  simp only [parseQuantity, hsplit]

/-- `3 eV` reads as `3eV`: a signature that starts with `e` but no exponent stays whole. -/
theorem parseQuantity_blanks_after_number_eV :
    "3".toList ≠ [] ∧ Magnitude.prefixLength "3".toList = "3".toList.length ∧
      (∀ c ∈ " ".toList, Text.isBlank c = true) ∧ Magnitude.Stops "3".toList "eV".toList ∧
      builtin.parseQuantity ⟨2, 1, -2, 0, 0⟩ ("3" ++ " " ++ "eV") =
        builtin.parseQuantity ⟨2, 1, -2, 0, 0⟩ ("3" ++ "eV") := by
  have hne : "3".toList ≠ [] := by simp
  have hnum : Magnitude.prefixLength "3".toList = "3".toList.length := by
    simp only [show "3".toList = ['3'] by simp]
    decide
  have hw : ∀ c ∈ " ".toList, Text.isBlank c = true := by simp [Text.isBlank]
  have hs : Magnitude.Stops "3".toList "eV".toList := by
    refine ⟨by simp [Decimal.isDigit], ?_⟩
    rintro - - ⟨e, sign, d, rest, -, hsign, hd, h⟩
    rcases hsign with rfl | rfl | rfl <;> simp at h
    obtain ⟨-, rfl, -⟩ := h
    simp [Decimal.isDigit] at hd
  exact ⟨hne, hnum, hw, hs, parseQuantity_blanks_after_number builtin _ hne hnum hw hs⟩

end Registry

end Dimensional
