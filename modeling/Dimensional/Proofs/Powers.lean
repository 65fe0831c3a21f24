import Dimensional.Proofs.Symbols
import Dimensional.Proofs.Json.Numbers

/-!
# Powers written after a symbol

A term carries its power in one of three spellings: after a `^` (`s^-2`), as a run of
superscript characters at the end (`s⁻²`), or as trailing ASCII digits with an optional `-`
before them (`s-2`). `readInt32?_toString` says that the decimal text of a 32-bit integer reads
back as that integer, and `map_fromSuperscript_superscript` that the superscript form of an
integer maps back to its decimal text.

`parse_powers` states when each spelling of a symbol and a non-zero power, written alone as a
signature, reads as that one term: the `^` form always; the superscript form when the symbol
does not itself end in a superscript character, which would join the run; the digit form when
the symbol ends in no digit, ends in `-` only before a negative power, and the whole word is
not a registered symbol, which would keep its digits.
-/

namespace Dimensional

namespace Decimal

theorem isDigit_iff {c : Char} : isDigit c = true ↔ 48 ≤ c.toNat ∧ c.toNat ≤ 57 := by
  simp only [isDigit, Bool.and_eq_true, decide_eq_true_eq]
  exact Iff.rfl

/-- An ASCII digit is one of the ten. -/
theorem eq_digit_of_isDigit {c : Char} (h : isDigit c = true) :
    c = '0' ∨ c = '1' ∨ c = '2' ∨ c = '3' ∨ c = '4' ∨ c = '5' ∨ c = '6' ∨ c = '7' ∨ c = '8' ∨
      c = '9' := by
  obtain ⟨hlo, hhi⟩ := isDigit_iff.1 h
  have hc : c = Char.ofNat c.toNat := (Char.ofNat_toNat c).symm
  generalize c.toNat = n at hc hlo hhi
  subst hc
  interval_cases n <;> decide

theorem isDigit_of_mem_toDigits {n : Nat} {c : Char} (h : c ∈ Nat.toDigits 10 n) :
    isDigit c = true :=
  Json.isDigitChar_of_mem_toDigits h

theorem digitsValue_toDigits (n : Nat) : digitsValue (Nat.toDigits 10 n) = n :=
  Json.digitsValue_toDigits n

theorem toDigits_ne_nil (n : Nat) : Nat.toDigits 10 n ≠ [] := by
  by_cases hn : n < 10
  · simp [Nat.toDigits_of_lt_base hn]
  · simp [Nat.toDigits_of_base_le (by omega : 1 < 10) (by omega : 10 ≤ n)]

/-- The decimal text of an integer: a minus before a negative one, then the digits of its
magnitude. -/
theorem toList_toString_int (i : Int) :
    (toString i).toList = (if i < 0 then ['-'] else []) ++ Nat.toDigits 10 i.natAbs := by
  cases i with
  | ofNat n => simp [toString, Int.repr, Nat.toList_repr]
  | negSucc n => simp [toString, Int.repr, Nat.toList_repr]

/-- Text that starts with a digit has no sign. -/
theorem splitSign_of_isDigit {d : Char} (hd : isDigit d = true) (ds : List Char) :
    splitSign (d :: ds) = (false, d :: ds) := by
  unfold splitSign
  split
  · rename_i heq
    rw [List.cons.injEq] at heq
    rw [heq.1] at hd
    exact absurd hd (by decide)
  · rename_i heq
    rw [List.cons.injEq] at heq
    rw [heq.1] at hd
    exact absurd hd (by decide)
  · rfl

/-- The decimal text of a 32-bit integer reads back as that integer. -/
theorem readInt32?_toString (p : Int32) : readInt32? (toString p) = some p := by
  have hdigits : ∀ c ∈ Nat.toDigits 10 p.toInt.natAbs, isDigit c = true :=
    fun c hc => isDigit_of_mem_toDigits hc
  obtain ⟨d, ds, hdds⟩ := List.exists_cons_of_ne_nil (toDigits_ne_nil p.toInt.natAbs)
  have hsign : splitSign (toString p).toList =
      (decide (p.toInt < 0), Nat.toDigits 10 p.toInt.natAbs) := by
    rw [show toString p = toString p.toInt from rfl, toList_toString_int]
    by_cases hneg : p.toInt < 0
    · simp [hneg, splitSign]
    · rw [if_neg hneg, List.nil_append, decide_eq_false hneg, hdds]
      exact splitSign_of_isDigit (hdigits d (by simp [hdds])) ds
  -- the magnitude with its sign is the integer, which is in range
  have hvalue : (if decide (p.toInt < 0) then -(digitsValue (Nat.toDigits 10 p.toInt.natAbs) : Int)
      else digitsValue (Nat.toDigits 10 p.toInt.natAbs)) = p.toInt := by
    rw [digitsValue_toDigits]
    by_cases hneg : p.toInt < 0
    · rw [if_pos (decide_eq_true hneg), Int.ofNat_natAbs_of_nonpos (by omega), Int.neg_neg]
    · rw [if_neg (by simpa using hneg), Int.natAbs_of_nonneg (by omega)]
  have hall : (Nat.toDigits 10 p.toInt.natAbs).all isDigit = true := List.all_eq_true.2 hdigits
  have hnonempty : (Nat.toDigits 10 p.toInt.natAbs).isEmpty = false := by simp [hdds]
  simp only [readInt32?, hsign, hall, hnonempty, Bool.not_true, Bool.or_false, Bool.false_eq_true,
    if_false, hvalue]
  rw [if_pos (by simpa using ⟨Int32.le_toInt p, Int32.toInt_lt p⟩), Int32.ofInt_toInt]

/-- The sign and digits of a 32-bit integer, as its text spells them, read back as the integer. -/
theorem readInt32?_signDigits (p : Int32) :
    readInt32? (String.ofList
      ((if p.toInt < 0 then ['-'] else []) ++ Nat.toDigits 10 p.toInt.natAbs)) = some p := by
  rw [← toList_toString_int, String.ofList_toList]
  exact readInt32?_toString p

end Decimal

namespace Signature

open Decimal Exponents

/-! ## Superscript digits -/

theorem isSuperscript_iff {c : Char} :
    isSuperscript c = true ↔ c = '⁻' ∨ c = '⁰' ∨ c = '¹' ∨ c = '²' ∨ c = '³' ∨ c = '⁴' ∨
      c = '⁵' ∨ c = '⁶' ∨ c = '⁷' ∨ c = '⁸' ∨ c = '⁹' := by
  simp [isSuperscript, superscriptDigits]

/-- A digit written in superscript is a superscript character that reads back as the digit. -/
theorem superscriptDigit_of_isDigit {c : Char} (h : isDigit c = true) :
    isSuperscript (superscriptDigit c) = true ∧ fromSuperscript (superscriptDigit c) = c := by
  rcases eq_digit_of_isDigit h with rfl | rfl | rfl | rfl | rfl | rfl | rfl | rfl | rfl | rfl <;>
    decide

/-- The superscript form of an integer: `⁻` before a negative one, then the digits of its
magnitude in superscript. -/
theorem toList_superscript (n : Int) :
    (superscript n).toList =
      (if n < 0 then ['⁻'] else []) ++ (Nat.toDigits 10 n.natAbs).map superscriptDigit := by
  have hdigits : (toString n.natAbs).toList = Nat.toDigits 10 n.natAbs := Nat.toList_repr
  simp only [superscript, String.toList_append, String.toList_ofList, hdigits]
  split <;> rfl

theorem isSuperscript_of_mem_superscript {n : Int} {c : Char} (h : c ∈ (superscript n).toList) :
    isSuperscript c = true := by
  rw [toList_superscript, List.mem_append] at h
  rcases h with h | h
  · split at h
    · rw [List.mem_singleton.1 h]
      decide
    · cases h
  · obtain ⟨d, hd, rfl⟩ := List.mem_map.1 h
    exact (superscriptDigit_of_isDigit (isDigit_of_mem_toDigits hd)).1

/-- Read character by character, the superscript form of an integer is its decimal text. -/
theorem map_fromSuperscript_superscript (n : Int) :
    (superscript n).toList.map fromSuperscript = (toString n).toList := by
  have hdigits : (Nat.toDigits 10 n.natAbs).map (fromSuperscript ∘ superscriptDigit) =
      Nat.toDigits 10 n.natAbs := by
    conv => rhs; rw [← List.map_id (Nat.toDigits 10 n.natAbs)]
    exact List.map_congr_left fun d hd => (superscriptDigit_of_isDigit (isDigit_of_mem_toDigits hd)).2
  rw [toList_superscript, toList_toString_int, List.map_append, List.map_map, hdigits]
  split <;> rfl

theorem superscript_ne_nil (n : Int) : (superscript n).toList ≠ [] := by
  rw [toList_superscript]
  simp

/-! ## Characters of a term -/

theorem isWordChar_of_isDigit {c : Char} (h : isDigit c = true) : isWordChar c = true := by
  rcases eq_digit_of_isDigit h with rfl | rfl | rfl | rfl | rfl | rfl | rfl | rfl | rfl | rfl <;>
    decide

theorem isWordChar_of_isSuperscript {c : Char} (h : isSuperscript c = true) : isWordChar c = true := by
  rcases isSuperscript_iff.1 h with rfl | rfl | rfl | rfl | rfl | rfl | rfl | rfl | rfl | rfl | rfl <;>
    decide

theorem not_isSuperscript_of_isDigit {c : Char} (h : isDigit c = true) : isSuperscript c = false := by
  rcases eq_digit_of_isDigit h with rfl | rfl | rfl | rfl | rfl | rfl | rfl | rfl | rfl | rfl <;>
    decide

/-- Every character of the decimal text of an integer is a digit or the minus. -/
theorem mem_toString_int {i : Int} {c : Char} (h : c ∈ (toString i).toList) :
    isDigit c = true ∨ c = '-' := by
  rw [toList_toString_int, List.mem_append] at h
  rcases h with h | h
  · split at h
    · exact .inr (List.mem_singleton.1 h)
    · cases h
  · exact .inl (isDigit_of_mem_toDigits h)

/-! ## Splitting a word -/

/-- A run of characters of `p` after a text that does not end in one is the trailing run. -/
theorem splitTrailing_append {p : Char → Bool} {s t : List Char}
    (hs : ∀ c ∈ s.getLast?, p c = false) (ht : ∀ c ∈ t, p c = true) :
    splitTrailing p (s ++ t) = (s, t) := by
  have hstop : s.reverse.takeWhile p = [] := by
    have h := congrArg Prod.snd (splitTrailing_eq_self hs)
    simpa [splitTrailing] using h
  have hrun : (t.reverse ++ s.reverse).takeWhile p = t.reverse := by
    rw [List.takeWhile_append_of_pos (by simpa using ht), hstop, List.append_nil]
  simp [splitTrailing, hrun]

section
variable (isSymbol : String → Bool)

/-- After a `^`, the decimal text of the power. -/
theorem splitWord_caret {s : String} (hs : '^' ∉ s.toList) (p : Int32) :
    splitWord isSymbol (s ++ "^" ++ toString p) = .ok (s, p) := by
  have hkeep : ∀ c ∈ s.toList, decide (c ≠ '^') = true := fun c hc =>
    decide_eq_true fun h => hs (h ▸ hc)
  have hcs : (s ++ "^" ++ toString p).toList = s.toList ++ '^' :: (toString p).toList := by
    simp
  simp only [splitWord, hcs, List.contains_append, List.contains_cons, beq_self_eq_true,
    Bool.true_or, Bool.or_true, if_true, List.takeWhile_append_of_pos hkeep,
    List.dropWhile_append_of_pos hkeep]
  simp [readInt32?_toString]

/-- A run of superscript characters at the end is the power. -/
theorem splitWord_superscript {s : String} (hs : '^' ∉ s.toList)
    (hlast : ∀ c ∈ s.toList.getLast?, isSuperscript c = false) (p : Int32) :
    splitWord isSymbol (s ++ superscript p.toInt) = .ok (s, p) := by
  have hcaret : (s ++ superscript p.toInt).toList.contains '^' = false := by
    simp only [String.toList_append, List.contains_append, Bool.or_eq_false_iff]
    refine ⟨by simpa using hs, ?_⟩
    simpa using fun h => absurd (isSuperscript_of_mem_superscript h) (by decide)
  have hsplit : splitTrailing isSuperscript (s ++ superscript p.toInt).toList =
      (s.toList, (superscript p.toInt).toList) := by
    rw [String.toList_append]
    exact splitTrailing_append hlast fun c hc => isSuperscript_of_mem_superscript hc
  have hrun : (superscript p.toInt).toList.isEmpty = false := by
    simpa using superscript_ne_nil p.toInt
  simp only [splitWord, hcaret, hsplit, hrun, Bool.false_eq_true, if_false, Bool.not_false,
    if_true, map_fromSuperscript_superscript, String.ofList_toList]
  rw [show toString p.toInt = toString p from rfl, readInt32?_toString]

/-- Trailing digits are the power, with a `-` right before them when the power is negative. -/
theorem splitWord_digits {s : String} (hs : '^' ∉ s.toList) (p : Int32)
    (hsym : isSymbol (s ++ toString p) = false)
    (hdigit : ∀ c ∈ s.toList.getLast?, isDigit c = false)
    (hminus : ∀ c ∈ s.toList.getLast?, c = '-' → p < 0) :
    splitWord isSymbol (s ++ toString p) = .ok (s, p) := by
  have hdigits : ∀ c ∈ Nat.toDigits 10 p.toInt.natAbs, isDigit c = true :=
    fun c hc => isDigit_of_mem_toDigits hc
  have htext : (toString p).toList =
      (if p.toInt < 0 then ['-'] else []) ++ Nat.toDigits 10 p.toInt.natAbs :=
    toList_toString_int p.toInt
  have hpow : '^' ∉ (toString p).toList := fun h => by
    rcases mem_toString_int h with h | h <;> revert h <;> decide
  have hcaret : (s ++ toString p).toList.contains '^' = false := by
    simp [hs, hpow]
  -- the word ends in a digit, so no superscript run is read
  have hsup : splitTrailing isSuperscript (s ++ toString p).toList =
      ((s ++ toString p).toList, []) := by
    apply splitTrailing_eq_self
    intro c hc
    rw [String.toList_append, htext, ← List.append_assoc, List.getLast?_append,
      List.getLast?_eq_some_getLast (toDigits_ne_nil _)] at hc
    simp only [Option.some_or, Option.mem_def, Option.some.injEq] at hc
    exact not_isSuperscript_of_isDigit (hdigits c (hc ▸ List.getLast_mem _))
  by_cases hneg : p.toInt < 0
  · have hstem : ∀ c ∈ (s.toList ++ ['-']).getLast?, isDigit c = false := by simp [isDigit]
    have htrail : splitTrailing isDigit (s ++ toString p).toList =
        (s.toList ++ ['-'], Nat.toDigits 10 p.toInt.natAbs) := by
      rw [String.toList_append, htext, if_pos hneg, ← List.append_assoc]
      exact splitTrailing_append hstem hdigits
    have hread : readInt32? (String.ofList ('-' :: Nat.toDigits 10 p.toInt.natAbs)) = some p := by
      simpa [hneg] using readInt32?_signDigits p
    simp only [splitWord, hcaret, hsup, hsym, htrail, Bool.false_eq_true, if_false,
      List.isEmpty_nil, Bool.not_true, List.getLast?_append, List.getLast?_singleton,
      Option.some_or, List.dropLast_concat, if_true, hread, String.ofList_toList]
    simp
  · have hlast : ∀ c ∈ s.toList.getLast?, c ≠ '-' := fun c hc heq =>
      hneg (Int32.lt_iff_toInt_lt.1 (hminus c hc heq))
    have htrail : splitTrailing isDigit (s ++ toString p).toList =
        (s.toList, Nat.toDigits 10 p.toInt.natAbs) := by
      rw [String.toList_append, htext, if_neg hneg, List.nil_append]
      exact splitTrailing_append hdigit hdigits
    have hread : readInt32? (String.ofList (Nat.toDigits 10 p.toInt.natAbs)) = some p := by
      simpa [hneg] using readInt32?_signDigits p
    have hnot : s.toList.getLast? ≠ some '-' := fun h => hlast '-' h rfl
    simp only [splitWord, hcaret, hsup, hsym, htrail, Bool.false_eq_true, if_false,
      List.isEmpty_nil, Bool.not_true, hnot, hread, String.ofList_toList]
    simp

/-- A word whose symbol is not empty and whose power is not zero is that term. -/
theorem ofWord_of_splitWord {w s : String} {p : Int32} (h : splitWord isSymbol w = .ok (s, p))
    (hs : s ≠ "") (hp : p ≠ 0) : Term.ofWord isSymbol w = .ok ⟨s, p⟩ := by
  have hempty : s.isEmpty = false := by simpa [String.isEmpty_iff] using hs
  simp only [Term.ofWord, h, bind, Except.bind, hempty, hp]
  rfl

/-- A symbol followed by the spelling of a power, all word characters, is one word; when
the word splits into the symbol and a non-zero power, the signature is that one term. -/
theorem parse_of_splitWord {w s : String} {ts : List Char} (hw : w.toList = s.toList ++ ts)
    (hne : s ≠ "") (hs : ∀ c ∈ s.toList, isWordChar c = true) (hts : ∀ c ∈ ts, isWordChar c = true)
    {p : Int32} (hp : p ≠ 0) (h : splitWord isSymbol w = .ok (s, p)) :
    parse isSymbol w = .ok [⟨s, p⟩] := by
  have hchars : ∀ c ∈ w.toList, isWordChar c = true := by
    intro c hc
    rw [hw, List.mem_append] at hc
    rcases hc with hc | hc
    · exact hs c hc
    · exact hts c hc
  have hscan : Item.scan w.toList = [.word w] := by
    rw [scan_eq_word (by simp [hw, hne]) hchars, String.ofList_toList]
  rw [parse, hscan]
  simp only [collect, ofWord_of_splitWord isSymbol h hne hp, reduceCtorEq, if_false]
  rfl

end

/-- A symbol with no blank, operator or `^`, written with a non-zero power, reads as that one
term: after `^` always; in superscript when the symbol does not end in a superscript
character; as trailing digits when the symbol ends in no digit, ends in `-` only before a
negative power, and the whole word is not a symbol itself. -/
theorem parse_powers (isSymbol : String → Bool) {s : String} (hne : s ≠ "")
    (hs : ∀ c ∈ s.toList, Registry.isForbidden c = false) {p : Int32} (hp : p ≠ 0) :
    parse isSymbol (s ++ "^" ++ toString p) = .ok [⟨s, p⟩] ∧
    ((∀ c ∈ s.toList.getLast?, isSuperscript c = false) →
      parse isSymbol (s ++ superscript p.toInt) = .ok [⟨s, p⟩]) ∧
    (isSymbol (s ++ toString p) = false → (∀ c ∈ s.toList.getLast?, isDigit c = false) →
      (∀ c ∈ s.toList.getLast?, c = '-' → p < 0) →
      parse isSymbol (s ++ toString p) = .ok [⟨s, p⟩]) := by
  have hsym : ∀ c ∈ s.toList, isWordChar c = true := fun c hc =>
    isWordChar_of_not_isForbidden (hs c hc)
  have hcaret : '^' ∉ s.toList := fun h => by simpa [Registry.isForbidden] using hs '^' h
  have hdecimal : ∀ c ∈ (toString p).toList, isWordChar c = true := fun c hc => by
    rcases mem_toString_int hc with h | rfl
    · exact isWordChar_of_isDigit h
    · decide
  refine ⟨?_, fun hlast => ?_, fun hnot hdigit hminus => ?_⟩
  · have hpower : ∀ c ∈ '^' :: (toString p).toList, isWordChar c = true := by
      intro c hc
      rcases List.mem_cons.1 hc with rfl | hc
      · decide
      · exact hdecimal c hc
    exact parse_of_splitWord isSymbol (by simp) hne hsym hpower hp (splitWord_caret isSymbol hcaret p)
  · exact parse_of_splitWord isSymbol (String.toList_append) hne hsym
      (fun c hc => isWordChar_of_isSuperscript (isSuperscript_of_mem_superscript hc)) hp
      (splitWord_superscript isSymbol hcaret hlast p)
  · exact parse_of_splitWord isSymbol (String.toList_append) hne hsym hdecimal hp
      (splitWord_digits isSymbol hcaret p hnot hdigit hminus)

theorem parse_powers_second :
    ("s" ≠ "" ∧ (∀ c ∈ "s".toList, Registry.isForbidden c = false) ∧ (-2 : Int32) ≠ 0) ∧
    parse (· == "s2") ("s" ++ "^" ++ toString (-2 : Int32)) = .ok [⟨"s", -2⟩] ∧
    ((∀ c ∈ "s".toList.getLast?, isSuperscript c = false) →
      parse (· == "s2") ("s" ++ superscript (-2 : Int32).toInt) = .ok [⟨"s", -2⟩]) ∧
    ((· == "s2") ("s" ++ toString (-2 : Int32)) = false →
      (∀ c ∈ "s".toList.getLast?, isDigit c = false) →
      (∀ c ∈ "s".toList.getLast?, c = '-' → (-2 : Int32) < 0) →
      parse (· == "s2") ("s" ++ toString (-2 : Int32)) = .ok [⟨"s", -2⟩]) :=
  have hs : ∀ c ∈ "s".toList, Registry.isForbidden c = false := by
    simp [Registry.isForbidden, Text.isBlank]
  ⟨⟨by simp, hs, by simp⟩, parse_powers (· == "s2") (by simp) hs (by simp)⟩

end Signature

end Dimensional
