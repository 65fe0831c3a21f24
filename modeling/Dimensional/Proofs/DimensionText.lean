import Dimensional.Proofs.Powers

/-!
# The written form of a dimension as a signature

`Exponents.render` writes a dimension as its non-zero factors joined by `·`, each a base symbol
followed by its exponent in superscript unless the exponent is one. Read as a unit signature
against the empty registry with the five base units inserted, each with factor one, the text
resolves to the dimension it was written from (`resolve_render`), so that no two dimensions
are written alike.

The text is read in three steps: it falls into the factors' words with a `·` between each two
(`scan_intercalate`), and `·` multiplies (`collect_intersperse`); each word reads as its symbol
and exponent (`ofWord_factorWord`); and the terms, each adding its exponent on its own base
dimension, sum to the dimension, every partial sum being the dimension with some exponents
cleared (`partialSum_apply`), so none leaves 32 bits.
-/

namespace Dimensional

/-- Each of a list of computations that succeed gives its result, in order. -/
theorem List.mapM_eq_ok {α β ε : Type} {f : α → Except ε β} {g : α → β} {l : List α}
    (h : ∀ a ∈ l, f a = .ok (g a)) : l.mapM f = .ok (l.map g) := by
  induction l with
  | nil => rfl
  | cons a l ih =>
    rw [List.mapM_cons, h a (by simp), ih fun b hb => h b (by simp [hb])]
    rfl

namespace Exponents

/-- The exponent of a base dimension. -/
def get (e : Exponents) : Fin 5 → Int32
  | 0 => e.length
  | 1 => e.mass
  | 2 => e.time
  | 3 => e.temperature
  | 4 => e.angle

/-- The symbol of a base dimension in the written form. -/
def symbolOf : Fin 5 → String
  | 0 => "L"
  | 1 => "M"
  | 2 => "T"
  | 3 => "Θ"
  | 4 => "A"

/-- The exponents of one base dimension. -/
def basis : Fin 5 → Exponents
  | 0 => ⟨1, 0, 0, 0, 0⟩
  | 1 => ⟨0, 1, 0, 0, 0⟩
  | 2 => ⟨0, 0, 1, 0, 0⟩
  | 3 => ⟨0, 0, 0, 1, 0⟩
  | 4 => ⟨0, 0, 0, 0, 1⟩

/-- The base dimensions with a non-zero exponent, in order. -/
def support (e : Exponents) : List (Fin 5) := (List.finRange 5).filter fun k => e.get k != 0

theorem toInt_get (e : Exponents) (k : Fin 5) : (e.get k).toInt = e.vec k := by
  fin_cases k <;> rfl

theorem vec_basis (k : Fin 5) : (basis k).vec = Pi.single k 1 := by
  fin_cases k <;> funext j <;> fin_cases j <;> rfl

theorem mem_support {e : Exponents} {k : Fin 5} : k ∈ e.support ↔ e.vec k ≠ 0 := by
  have h : e.get k = 0 ↔ e.vec k = 0 := by
    rw [← toInt_get, ← Int32.toInt_inj]
    rfl
  simp [support, h]

theorem support_nodup (e : Exponents) : e.support.Nodup :=
  (List.nodup_finRange 5).filter _

theorem support_ne_nil {e : Exponents} (he : e ≠ dimensionless) : e.support ≠ [] := by
  intro h
  apply he
  have hzero : ∀ k, e.get k = 0 := fun k => by
    have := List.filter_eq_nil_iff.1 h k (List.mem_finRange k)
    simpa using this
  obtain ⟨l, m, t, θ, a⟩ := e
  simp only [dimensionless, mk.injEq]
  exact ⟨hzero 0, hzero 1, hzero 2, hzero 3, hzero 4⟩

/-- The word of a base dimension's factor in the written form. -/
def factorWord (e : Exponents) (k : Fin 5) : String := factorText (symbolOf k) (e.get k).toInt

/-- The written form of a dimension other than the dimensionless one: the factors of its
support, joined by `·`. -/
theorem render_eq (e : Exponents) (he : e ≠ dimensionless) :
    e.render = "·".intercalate (e.support.map e.factorWord) := by
  have hzip : symbols.zip e.toList = (List.finRange 5).map fun k => (symbolOf k, e.get k) := rfl
  have hfactors : (symbols.zip e.toList).filter (fun p => p.2 != 0) =
      e.support.map fun k => (symbolOf k, e.get k) := by
    rw [hzip, List.filter_map]
    rfl
  have hne : (e.support.map fun k => (symbolOf k, e.get k)).isEmpty = false := by
    simpa using support_ne_nil he
  simp only [render, hfactors, hne, Bool.false_eq_true, if_false, List.map_map]
  rfl

/-- The terms of the base symbols of `ks`, with the exponents of `e` as powers. -/
def baseTerms (e : Exponents) (ks : List (Fin 5)) : List Signature.Term :=
  ks.map fun k => ⟨symbolOf k, e.get k⟩

theorem symbolOf_ne (k : Fin 5) : symbolOf k ≠ "" := by
  fin_cases k <;> simp [symbolOf]

theorem isWordChar_of_mem_symbolOf {k : Fin 5} {c : Char} (h : c ∈ (symbolOf k).toList) :
    Signature.isWordChar c = true := by
  fin_cases k <;>
    simp_all [symbolOf, Signature.isWordChar, Text.isBlank, Signature.isOperator]

theorem caret_not_mem_symbolOf (k : Fin 5) : '^' ∉ (symbolOf k).toList := by
  fin_cases k <;> simp [symbolOf]

theorem symbolOf_getLast (k : Fin 5) :
    ∀ c ∈ (symbolOf k).toList.getLast?, Signature.isSuperscript c = false := by
  fin_cases k <;> simp [symbolOf, Signature.isSuperscript, Signature.superscriptDigits]

end Exponents

namespace Signature

open Exponents

/-! ## Words joined by `·` -/

/-- Words joined by `·` fall into the words, with the operator between each two. -/
theorem splits_intercalate {ws : List String}
    (hws : ∀ w ∈ ws, w.toList ≠ [] ∧ ∀ c ∈ w.toList, isWordChar c = true) :
    Splits ("·".intercalate ws).toList ((ws.map Item.word).intersperse (.op '·')) := by
  induction ws with
  | nil => exact .nil
  | cons w ws ih =>
    have hw := hws w (by simp)
    have hrest : Splits ("·".intercalate ws).toList ((ws.map Item.word).intersperse (.op '·')) :=
      ih fun v hv => hws v (by simp [hv])
    cases ws with
    | nil =>
      have h := Splits.word hw.1 hw.2 (by simp) Splits.nil
      simpa [String.intercalate_singleton] using h
    | cons v vs =>
      have hop : Splits ('·' :: ("·".intercalate (v :: vs)).toList)
          (.op '·' :: ((v :: vs).map Item.word).intersperse (.op '·')) := .op (by decide) hrest
      have h := Splits.word hw.1 hw.2 (by simp; decide) hop
      simpa [String.intercalate_cons_cons] using h

theorem scan_intercalate {ws : List String}
    (hws : ∀ w ∈ ws, w.toList ≠ [] ∧ ∀ c ∈ w.toList, isWordChar c = true) :
    Item.scan ("·".intercalate ws).toList = (ws.map Item.word).intersperse (.op '·') :=
  scan_of_splits (splits_intercalate hws)

/-- Words with `·` between them read as their terms in order, the first fault from the left
failing the whole: `·` multiplies, whatever came before. -/
theorem collect_intersperse (isSymbol : String → Bool) {w : String} (ws : List String)
    (started : Bool) {pending : Option Char} (hpending : pending ≠ some '/') :
    collect isSymbol started pending (((w :: ws).map Item.word).intersperse (.op '·')) =
      (w :: ws).mapM (Term.ofWord isSymbol) := by
  induction ws generalizing w started pending with
  | nil =>
    rw [List.map_cons, List.map_nil, List.intersperse_singleton, collect_word, List.mapM_cons]
    cases Term.ofWord isSymbol w with
    | error fault => rfl
    | ok t =>
      simp only [if_neg hpending]
      rfl
  | cons v vs ih =>
    have hnext : collect isSymbol true none
        (.op '·' :: ((v :: vs).map Item.word).intersperse (.op '·')) =
        (v :: vs).mapM (Term.ofWord isSymbol) := by
      rw [collect, if_neg (by simp)]
      exact ih true (by simp)
    rw [List.map_cons, List.map_cons, List.intersperse_cons_cons, collect_word, ← List.map_cons,
      hnext]
    conv_rhs => rw [List.mapM_cons]
    cases Term.ofWord isSymbol w with
    | error fault => rfl
    | ok t =>
      simp only [if_neg hpending]
      cases (v :: vs).mapM (Term.ofWord isSymbol) <;> rfl

/-- A base symbol followed by its exponent in the written form reads as that term. -/
theorem ofWord_factorWord {isSymbol : String → Bool} (e : Exponents) {k : Fin 5}
    (hk : k ∈ e.support) (hsym : isSymbol (symbolOf k) = true) :
    Term.ofWord isSymbol (e.factorWord k) = .ok ⟨symbolOf k, e.get k⟩ := by
  have hp : e.get k ≠ 0 := fun h => mem_support.1 hk (by rw [← toInt_get, h]; rfl)
  by_cases hone : (e.get k).toInt = 1
  · have hget : e.get k = 1 := Int32.toInt_inj.1 hone
    have hword : e.factorWord k = symbolOf k := by simp [factorWord, factorText, hone]
    rw [hword, hget]
    exact ofWord_registered (by simpa using symbolOf_ne k) (caret_not_mem_symbolOf k)
      (symbolOf_getLast k) hsym
  · have hword : e.factorWord k = symbolOf k ++ superscript (e.get k).toInt := by
      simp [factorWord, factorText, hone]
    rw [hword]
    exact ofWord_of_splitWord isSymbol
      (splitWord_superscript isSymbol (caret_not_mem_symbolOf k) (symbolOf_getLast k) _)
      (symbolOf_ne k) hp

theorem factorWord_chars (e : Exponents) (k : Fin 5) :
    (e.factorWord k).toList ≠ [] ∧ ∀ c ∈ (e.factorWord k).toList, isWordChar c = true := by
  refine ⟨by simp [factorWord, factorText, symbolOf_ne], fun c hc => ?_⟩
  simp only [factorWord, factorText, String.toList_append, List.mem_append] at hc
  rcases hc with hc | hc
  · exact isWordChar_of_mem_symbolOf hc
  · split at hc
    · simp at hc
    · exact isWordChar_of_isSuperscript (isSuperscript_of_mem_superscript hc)

/-- The written form of a dimension other than the dimensionless one, read where every base
symbol is a symbol, is the terms of its support: each base symbol with its exponent. -/
theorem parse_render {isSymbol : String → Bool} (hsym : ∀ k, isSymbol (symbolOf k) = true)
    {e : Exponents} (he : e ≠ dimensionless) :
    parse isSymbol e.render = .ok (baseTerms e e.support) := by
  obtain ⟨k, ks, hks⟩ := List.exists_cons_of_ne_nil (support_ne_nil he)
  have hwords : ∀ w ∈ e.support.map e.factorWord,
      w.toList ≠ [] ∧ ∀ c ∈ w.toList, isWordChar c = true := by
    simp only [List.mem_map]
    rintro w ⟨j, -, rfl⟩
    exact factorWord_chars e j
  have hterms : (e.support.map e.factorWord).mapM (Term.ofWord isSymbol) =
      .ok (baseTerms e e.support) := by
    rw [List.mapM_map]
    exact List.mapM_eq_ok fun j hj => ofWord_factorWord e hj (hsym j)
  have hcollect : collect isSymbol false none
      (((e.support.map e.factorWord).map Item.word).intersperse (.op '·')) =
      .ok (baseTerms e e.support) := by
    rw [← hterms, hks, List.map_cons]
    exact collect_intersperse isSymbol _ false (by simp)
  have hitems : ((e.support.map e.factorWord).map Item.word).intersperse (.op '·') ≠ [] := by
    rw [hks]
    cases ks <;> simp
  rw [parse, render_eq e he, scan_intercalate hwords]
  split
  · contradiction
  · rw [hcollect]
    rfl

end Signature

namespace Double

theorem powAcc_one (n : Nat) : Scalar.powAcc (1.0 : Double) 1.0 n = 1.0 := by
  have hsq : (1.0 : Double) * 1.0 = 1.0 := one_mul (by decide +kernel)
  induction n using Nat.strong_induction_on with
  | _ n ih =>
    rw [Scalar.powAcc]
    simp only [hsq, ite_self]
    split
    · rfl
    · exact ih _ (by omega)

/-- One to any integer power is one. -/
theorem powi_one_left (n : Int) : Scalar.powi (1.0 : Double) n = 1.0 := by
  have hdiv : (1.0 : Double) / 1.0 = 1.0 := by
    have h : ((1.0 : Double) / 1.0).toBits = (1.0 : Double).toBits := by decide +kernel
    rw [← ofBits_toBits ((1.0 : Double) / 1.0), h, ofBits_toBits]
  rw [Scalar.powi, show (Scalar.one : Double) = 1.0 from rfl, powAcc_one]
  split
  · exact hdiv
  · rfl

theorem foldl_mul_one {xs : List Double} (h : ∀ x ∈ xs, x = 1.0) : xs.foldl (· * ·) 1.0 = 1.0 := by
  induction xs with
  | nil => rfl
  | cons x xs ih =>
    rw [List.foldl_cons, h x (by simp), one_mul (by decide +kernel)]
    exact ih fun y hy => h y (by simp [hy])

end Double

namespace Registry

open Exponents Signature Double

/-- The five base units, each with factor one and exponent one on its own base dimension:
`L` is `[1, 0, 0, 0, 0]`, `M` is `[0, 1, 0, 0, 0]`, `T`, `Θ` and `A` likewise. -/
def baseUnits : List (String × UnitDef) :=
  (List.finRange 5).map fun k => (symbolOf k, .scaled (basis k) 1.0)

/-- The empty registry with the five base units inserted in order. -/
def withBaseUnits : Except RegistryError Registry :=
  (baseUnits.forM fun e => insert e.1 e.2).onCopy empty

/-- Entries that keep the rules, under symbols new to the registry and to each other, are
inserted one after the other, in order. -/
theorem run_forM_insert {r : Registry} {new : List (String × UnitDef)}
    (h : (⟨r.entries ++ new⟩ : Registry).Valid) :
    (new.forM fun e => insert e.1 e.2).run r = .ok () ⟨r.entries ++ new⟩ := by
  induction new generalizing r with
  | nil =>
    simp only [List.append_nil]
    rfl
  | cons e es ih =>
    have hfresh : r.contains e.1 = false := by
      have hnodup := h.distinct
      rw [List.map_append, List.nodup_append] at hnodup
      exact contains_eq_false_iff.2 fun hm => hnodup.2.2 _ hm _ (by simp) rfl
    have hins : (insert e.1 e.2).run r = .ok () ⟨r.entries ++ [e]⟩ :=
      run_insert_eq_ok_iff.2 ⟨h.rules e (by simp), hfresh, rfl⟩
    have hrest := @ih ⟨r.entries ++ [e]⟩ (by simpa using h)
    simp only [List.append_assoc, List.singleton_append] at hrest
    simp only [List.forM_eq_forM, List.forM_cons, EStateM.run_bind, hins]
    exact hrest

theorem valid_baseUnits : (⟨baseUnits⟩ : Registry).Valid := by
  decide +kernel

theorem withBaseUnits_eq : withBaseUnits = .ok ⟨baseUnits⟩ :=
  Update.onCopy_eq_ok.2 ⟨(), @run_forM_insert empty baseUnits valid_baseUnits⟩

theorem find?_symbolOf (k : Fin 5) :
    (⟨baseUnits⟩ : Registry).find? (symbolOf k) = some (.scaled (basis k) 1.0) := by
  fin_cases k <;> rfl

theorem contains_symbolOf (k : Fin 5) : (⟨baseUnits⟩ : Registry).contains (symbolOf k) = true := by
  simp [contains, find?_symbolOf]

/-- The term of a base symbol adds its power on its own base dimension. -/
theorem added_symbolOf (k : Fin 5) (p : Int32) :
    added ⟨baseUnits⟩ ⟨symbolOf k, p⟩ = Pi.single k p.toInt := by
  funext j
  simp [added, find?_symbolOf, UnitDef.scaled, powerVec, vec_basis, Pi.single_apply]

theorem termFactor_symbolOf (k : Fin 5) (p : Int32) :
    termFactor ⟨baseUnits⟩ ⟨symbolOf k, p⟩ = 1.0 := by
  simp [termFactor, find?_symbolOf, UnitDef.scaled, UnitDef.factor, Ratio.factor, powi_one_left]

/-! ## Partial sums -/

/-- The sum of the exponents of `e` on the base dimensions of `ks`, each on its own. -/
def partialSum (e : Exponents) (ks : List (Fin 5)) : Fin 5 → Int :=
  (ks.map fun k => Pi.single k (e.vec k)).sum

/-- Without repeats, a partial sum is `e` on the base dimensions of `ks` and zero elsewhere. -/
theorem partialSum_apply (e : Exponents) {ks : List (Fin 5)} (hks : ks.Nodup) (j : Fin 5) :
    partialSum e ks j = if j ∈ ks then e.vec j else 0 := by
  induction ks with
  | nil => simp [partialSum]
  | cons k ks ih =>
    obtain ⟨hk, hks⟩ := List.nodup_cons.1 hks
    have hrest := ih hks
    simp only [partialSum, List.map_cons, List.sum_cons, Pi.add_apply] at hrest ⊢
    rw [hrest, Pi.single_apply]
    by_cases hj : j = k
    · subst hj
      simp [hk]
    · simp [hj]

theorem fits_partialSum (e : Exponents) {ks : List (Fin 5)} (hks : ks.Nodup) :
    Fits (partialSum e ks) := by
  intro j
  rw [partialSum_apply e hks]
  split
  · exact fits_vec e j
  · decide

theorem sum_added_baseTerms (e : Exponents) (ks : List (Fin 5)) :
    ((baseTerms e ks).map (added ⟨baseUnits⟩)).sum = partialSum e ks := by
  simp only [baseTerms, partialSum, List.map_map]
  congr 1
  exact List.map_congr_left fun k _ => by simp [added_symbolOf, toInt_get]

/-- After the base dimensions of `done`, each term of a base dimension not yet seen keeps every
running sum a partial sum, which fits. -/
theorem fits_runningSums (e : Exponents) (done ks : List (Fin 5)) (hks : (done ++ ks).Nodup) :
    ∀ p ∈ (baseTerms e ks).zip (runningSums ⟨baseUnits⟩ (partialSum e done) (baseTerms e ks)),
      Fits (added ⟨baseUnits⟩ p.1) ∧ Fits (p.2 + added ⟨baseUnits⟩ p.1) := by
  induction ks generalizing done with
  | nil => simp [baseTerms]
  | cons k ks ih =>
    have hstep : partialSum e done + added ⟨baseUnits⟩ ⟨symbolOf k, e.get k⟩ =
        partialSum e (done ++ [k]) := by
      simp [partialSum, added_symbolOf, toInt_get]
    have hnext : (done ++ [k]).Nodup := (List.sublist_append_left _ _).nodup (by simpa using hks)
    intro p hp
    simp only [baseTerms, List.map_cons, runningSums_cons, List.zip_cons_cons,
      List.mem_cons] at hp
    rcases hp with rfl | hp
    · refine ⟨?_, hstep ▸ fits_partialSum e hnext⟩
      have hsingle : added ⟨baseUnits⟩ ⟨symbolOf k, e.get k⟩ = partialSum e [k] := by
        simp [partialSum, added_symbolOf, toInt_get]
      exact hsingle ▸ fits_partialSum e (List.nodup_singleton k)
    · rw [hstep] at hp
      exact ih (done ++ [k]) (by simpa using hks) p hp

/-- Read where the base symbols stand for the base units, the written form of a dimension other
than the dimensionless one resolves to it, with factor one. -/
theorem resolve_render_ok {e : Exponents} (he : e ≠ dimensionless) :
    (⟨baseUnits⟩ : Registry).resolve e.render = .ok (.scaled e 1.0) := by
  have hparse := parse_render (fun k => contains_symbolOf k) he
  have hscale : offsetUnit? ⟨baseUnits⟩ (baseTerms e e.support) = none := by
    refine offsetUnit?_eq_none_iff.2 fun t ht u hu => ?_
    obtain ⟨k, -, rfl⟩ := List.mem_map.1 ht
    rw [find?_symbolOf] at hu
    cases hu
    rfl
  have hproduct : factorProduct ⟨baseUnits⟩ 1.0 (baseTerms e e.support) = 1.0 := by
    refine foldl_mul_one fun x hx => ?_
    obtain ⟨t, ht, rfl⟩ := List.mem_map.1 hx
    obtain ⟨k, -, rfl⟩ := List.mem_map.1 ht
    exact termFactor_symbolOf k _
  -- the whole sum is `e`: its support is every base dimension where `e` is not zero
  have hsum : ((baseTerms e e.support).map (added ⟨baseUnits⟩)).sum = e.vec := by
    funext j
    rw [sum_added_baseTerms, partialSum_apply e (support_nodup e)]
    split
    · rfl
    · rename_i hj
      exact (not_not.1 (mt mem_support.2 hj)).symm
  rw [resolve_eq_bind, hparse]
  refine (resolveTerms_eq_ok_iff valid_baseUnits).2 ⟨?_, .inl hscale, ?_, ?_, ?_⟩
  · intro t ht
    obtain ⟨k, -, rfl⟩ := List.mem_map.1 ht
    exact contains_symbolOf k
  · simpa [partialSum] using fits_runningSums e [] e.support (by simpa using support_nodup e)
  · rw [hproduct]
    exact ⟨by decide +kernel, by decide +kernel⟩
  · rw [hscale, hproduct]
    exact ⟨hsum.symm, rfl⟩

/-- The written form of a dimension, read as a signature where the five base symbols stand for
the base units of factor one, each inserted into the empty registry, resolves to the dimension
with factor one, for every dimension but the dimensionless one (written `1`). So no two
dimensions are written alike. -/
theorem resolve_render :
    withBaseUnits = .ok ⟨baseUnits⟩ ∧
    (∀ e : Exponents, e ≠ dimensionless →
      (⟨baseUnits⟩ : Registry).resolve e.render = .ok (.scaled e 1.0)) ∧
    Function.Injective Exponents.render := by
  have hone : ((⟨baseUnits⟩ : Registry).resolve "1").toBool = false := by decide +kernel
  have hrender : dimensionless.render = "1" := rfl
  -- a dimension written as `1` is the dimensionless one: `1` itself resolves to nothing
  have hdimensionless : ∀ e, e.render = "1" → e = dimensionless := by
    intro e h
    by_contra he
    have hok := resolve_render_ok he
    rw [h] at hok
    rw [hok] at hone
    cases hone
  refine ⟨withBaseUnits_eq, fun e he => resolve_render_ok he, fun e f h => ?_⟩
  by_cases he : e = dimensionless
  · rw [he, hrender] at h
    rw [he, hdimensionless f h.symm]
  · by_cases hf : f = dimensionless
    · rw [hf, hrender] at h
      exact absurd (hdimensionless e h) he
    · have hok := resolve_render_ok he
      rw [h, resolve_render_ok hf] at hok
      cases hok
      rfl

theorem resolve_render_energy :
    withBaseUnits = .ok ⟨baseUnits⟩ ∧ (⟨2, 1, -2, 0, 0⟩ : Exponents) ≠ dimensionless ∧
      (⟨baseUnits⟩ : Registry).resolve (⟨2, 1, -2, 0, 0⟩ : Exponents).render =
        .ok (.scaled ⟨2, 1, -2, 0, 0⟩ 1.0) :=
  have hne : (⟨2, 1, -2, 0, 0⟩ : Exponents) ≠ dimensionless := by decide
  ⟨resolve_render.1, hne, resolve_render.2.1 _ hne⟩

end Registry

end Dimensional
