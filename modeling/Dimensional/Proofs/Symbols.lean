import Dimensional.Proofs.Signature
import Dimensional.Proofs.Catalog

/-!
# Registered symbols as signatures

A symbol that an entry may carry holds no blank, no operator and no `^`, so as a signature it is
one word. That word is read with power one exactly when the registry check is reached, that is
when the word does not end in a superscript character: such a run is read first, as a power of
the symbol before it. `resolve_registered` says that every other registered symbol of a valid
registry resolves to its own unit, offset units included; a symbol such as `x²` is read as `x`
squared instead.
-/

namespace Dimensional

namespace Signature

theorem isWordChar_of_not_isForbidden {c : Char} (h : Registry.isForbidden c = false) :
    isWordChar c = true := by
  simp only [Registry.isForbidden, Bool.or_eq_false_iff, decide_eq_false_iff_not] at h
  simp [isWordChar, isOperator, h.1.1.1.1, h.1.1.1.2, h.1.1.2, h.1.2]

/-- A text of word characters only is one word. -/
theorem scan_eq_word {w : List Char} (hne : w ≠ []) (hw : ∀ c ∈ w, isWordChar c = true) :
    Item.scan w = [.word (String.ofList w)] := by
  have h : Splits (w ++ []) [.word (String.ofList w)] := .word hne hw (by simp) .nil
  rw [List.append_nil] at h
  exact scan_of_splits h

/-- A text that does not end in a character of `p` has no trailing run of them. -/
theorem splitTrailing_eq_self {p : Char → Bool} {cs : List Char}
    (h : ∀ c ∈ cs.getLast?, p c = false) : splitTrailing p cs = (cs, []) := by
  have hrun : cs.reverse.takeWhile p = [] := by
    cases hrev : cs.reverse with
    | nil => rfl
    | cons c rest =>
      have hc : p c = false := h c (by rw [← List.head?_reverse, hrev]; rfl)
      rw [List.takeWhile_cons_of_neg (by simp [hc])]
  simp [splitTrailing, hrun]

/-- A registered word with no `^` and no trailing superscript is its own symbol, to the power
one. -/
theorem ofWord_registered {isSymbol : String → Bool} {word : String} (hne : word.toList ≠ [])
    (hcaret : '^' ∉ word.toList) (hlast : ∀ c ∈ word.toList.getLast?, isSuperscript c = false)
    (hsym : isSymbol word = true) : Term.ofWord isSymbol word = .ok ⟨word, 1⟩ := by
  have hsplit : splitWord isSymbol word = .ok (word, 1) := by
    simp [splitWord, hcaret, splitTrailing_eq_self hlast, hsym]
  have hempty : word.isEmpty = false := by
    simpa [String.isEmpty_iff, ← String.toList_eq_nil_iff] using hne
  simp only [Term.ofWord, hsplit, bind, Except.bind, hempty]
  rfl

/-- A signature that is one registered word reads as that word to the power one. -/
theorem parse_registered {isSymbol : String → Bool} {word : String} (hne : word.toList ≠ [])
    (hw : ∀ c ∈ word.toList, isWordChar c = true) (hcaret : '^' ∉ word.toList)
    (hlast : ∀ c ∈ word.toList.getLast?, isSuperscript c = false) (hsym : isSymbol word = true) :
    parse isSymbol word = .ok [⟨word, 1⟩] := by
  have hscan : Item.scan word.toList = [.word word] := by
    rw [scan_eq_word hne hw, String.ofList_toList]
  rw [parse, hscan]
  simp only [collect, ofWord_registered hne hcaret hlast hsym, reduceCtorEq, if_false]
  rfl

end Signature

namespace Registry

open Signature Exponents Double

variable {r : Registry}

/-- A registered unit alone, to the power one, resolves to itself: its exponents are counted
once and its factor, finite and non-zero, is multiplied twice by one. -/
theorem resolves_single {t : Term} {u : UnitDef} (hu : r.find? t.symbol = some u)
    (hpower : t.power = 1) (hfactor : u.factor.FiniteNonzero) : Resolves r [t] u := by
  cases haffine : u.ratio.isAffine
  case true => exact resolves_offset hu haffine hpower hfactor
  case false =>
    have hadded : added r t = u.exponents.vec := by simp [added, hu, hpower, powerVec_one]
    have hoffset : offsetUnit? r [t] = none := by simp [offsetUnit?, hu, haffine]
    have hproduct : factorProduct r 1.0 [t] = u.factor := by
      simp only [factorProduct, termFactor, hu, hpower, List.map_cons, List.map_nil,
        List.foldl_cons, List.foldl_nil]
      rw [show ((1 : Int32).toInt) = 1 from rfl, powi_one, one_mul hfactor.1, one_mul hfactor.1]
    refine ⟨?_, .inr ⟨t, rfl, hpower⟩, ?_, hproduct ▸ hfactor, ?_⟩
    · intro t' ht'
      rw [List.mem_singleton.1 ht']
      simp [contains, hu]
    · intro p hp
      simp only [runningSums_cons, List.zip_cons_cons, List.mem_cons, List.zip_nil_left,
        List.not_mem_nil, or_false] at hp
      subst hp
      rw [hadded, zero_add]
      exact ⟨fits_vec _, fits_vec _⟩
    · rw [hoffset, hproduct]
      -- a scale unit is its exponents with the scale of its factor
      obtain ⟨e, f | ⟨o, f⟩⟩ := u
      · exact ⟨by simp [hadded], rfl⟩
      · cases haffine

/-- A registered symbol of a valid registry, written alone as a signature, resolves to its own
unit, unless it ends in a superscript character. -/
theorem resolve_registered (hr : r.Valid) {s : String} {u : UnitDef} (hu : r.find? s = some u)
    (hlast : ∀ c ∈ s.toList.getLast?, isSuperscript c = false) : r.resolve s = .ok u := by
  have hrules := hr.find? hu
  have hw : ∀ c ∈ s.toList, isWordChar c = true := fun c hc =>
    isWordChar_of_not_isForbidden (hrules.noOperator c hc)
  have hcaret : '^' ∉ s.toList := fun h => by
    simpa [isForbidden] using hrules.noOperator '^' h
  have hsym : r.contains s = true := by simp [contains, hu]
  rw [resolve_eq_bind, parse_registered hrules.nonempty hw hcaret hlast hsym]
  exact (resolveTerms_eq_ok_iff hr).2 (resolves_single hu rfl hrules.factor)

-- the symbol `x²`, once registered, is still read as `x` squared
example : parse ((Call.insert "x²" (.scaled .dimensionless 1.0)).after empty).contains "x²" =
    .ok [⟨"x", 2⟩] := by
  decide +kernel

end Registry

end Dimensional
