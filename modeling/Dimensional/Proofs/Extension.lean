import Dimensional.Proofs.Symbols

/-!
# Resolving in a larger registry

A registry `r'` extends `r` when it holds every symbol of `r` with the same unit; every call
that changes a registry, accepted or refused, leaves one that extends it (`extends_after`).

Reading a signature asks the registry one question only: whether a whole word is a symbol, so
that a registered word keeps its trailing digits. Resolving then looks up the symbols of the
terms. `resolve_of_extends` says that a signature that resolves in `r` resolves to the same unit
in every extension that registers none of its words anew, and so quantity text with that
signature reads the same in both.
-/

namespace Dimensional

namespace Signature

/-- The words of a signature, in order. -/
def words (signature : String) : List String :=
  (Item.scan signature.toList).filterMap fun
    | .word w => some w
    | .op _ => none

theorem mem_words {signature w : String} : w ∈ words signature ↔ .word w ∈ Item.scan signature.toList := by
  simp only [words, List.mem_filterMap]
  constructor
  · rintro ⟨it, hit, hw⟩
    cases it with
    | word w' => cases hw; exact hit
    | op c => cases hw
  · intro h
    exact ⟨_, h, rfl⟩

section
variable {f g : String → Bool}

/-- A word is read the same by two symbol tests that agree on the whole word. -/
theorem ofWord_congr {w : String} (h : f w = g w) : Term.ofWord f w = Term.ofWord g w := by
  simp only [Term.ofWord, splitWord, h]

/-- The reading loop consults the symbol test on its words only. -/
theorem collect_congr {items : List Item} (h : ∀ w, .word w ∈ items → f w = g w)
    (started : Bool) (pending : Option Char) :
    collect f started pending items = collect g started pending items := by
  induction items generalizing started pending with
  | nil => rfl
  | cons it rest ih =>
    have hrest : ∀ w, .word w ∈ rest → f w = g w := fun w hw => h w (List.mem_cons_of_mem _ hw)
    cases it with
    | op c => simp only [collect, ih hrest]
    | word w => simp only [collect, ofWord_congr (h w List.mem_cons_self), ih hrest]

theorem parse_congr {signature : String} (h : ∀ w ∈ words signature, f w = g w) :
    parse f signature = parse g signature := by
  unfold parse
  cases hitems : Item.scan signature.toList with
  | nil => rfl
  | cons it rest =>
    have hmem : ∀ w, .word w ∈ it :: rest → f w = g w := fun w hw =>
      h w (mem_words.2 (by rw [hitems]; exact hw))
    dsimp only
    rw [collect_congr hmem]

end

end Signature

namespace Registry

open Signature

/-- `r'` extends `r`: every symbol of `r` is registered in `r'` with the same unit. -/
def Extends (r r' : Registry) : Prop :=
  ∀ s u, r.find? s = some u → r'.find? s = some u

theorem Extends.refl (r : Registry) : Extends r r := fun _ _ h => h

theorem Extends.contains {r r' : Registry} (h : Extends r r') {s : String}
    (hs : r.contains s = true) : r'.contains s = true := by
  obtain ⟨u, hu⟩ := Option.isSome_iff_exists.1 hs
  simp [Registry.contains, h s u hu]

theorem Grows.extends {r r' : Registry} {new : List (String × UnitDef)} (h : Grows r r' new) :
    Extends r r' := fun s u hu => by
  rw [h.find?_of_contains (by simp [contains, hu]), hu]

/-- Every call leaves a registry that extends the one it was made on. -/
theorem extends_after (c : Call) (r : Registry) : Extends r (c.after r) := by
  rcases c.after_cases r with hsame | ⟨n, hrun⟩
  · rw [hsame]
    exact Extends.refl r
  · obtain ⟨new, hgrows, -⟩ := Call.grows_of_run hrun
    exact hgrows.extends

section
variable {r r' : Registry} {signature : String} {single : Bool}

/-- The resolving loop gives the same unit in an extension: it looks up only symbols that it
finds, and finds them there with the same units. -/
theorem combine_of_extends (hext : Extends r r') {ts : List Term} {e : Exponents} {f : Double}
    {c : UnitDef} (h : combine r signature single ts e f = .ok c) :
    combine r' signature single ts e f = .ok c := by
  induction ts generalizing e f with
  | nil => rwa [combine] at h ⊢
  | cons t ts ih =>
    rw [combine] at h ⊢
    cases hu : r.find? t.symbol with
    | none => rw [hu] at h; cases h
    | some u =>
      rw [hu] at h
      rw [hext _ _ hu]
      dsimp only at h ⊢
      cases haffine : u.ratio.isAffine
      · simp only [haffine, Bool.false_eq_true, if_false] at h ⊢
        cases hp : (u.exponents.power? t.power).bind e.product? with
        | none => rw [hp] at h; cases h
        | some e' => rw [hp] at h; exact ih h
      · simp only [haffine, if_true] at h ⊢
        exact h

/-- Quantity text is read the same by two registries that resolve its signature alike. -/
theorem parseQuantity_congr {text : String} {number : Double}
    (hsplit : Magnitude.split text = .ok (number, signature))
    (h : r'.resolve signature = r.resolve signature) (expected : Exponents) :
    r'.parseQuantity expected text = r.parseQuantity expected text := by
  have hrest : r'.resolveRest signature = r.resolveRest signature := by
    simp only [resolveRest, h]
  simp only [parseQuantity, hsplit, bind, Except.bind, hrest]

/-- A signature that resolves in `r` resolves to the same unit in every extension `r'` that
registers none of its words anew, and quantity text whose signature it is reads the same in
both registries, whatever dimension is expected. -/
theorem resolve_of_extends (hext : Extends r r')
    (hwords : ∀ w ∈ words signature, r'.contains w = true → r.contains w = true)
    {c : UnitDef} (h : r.resolve signature = .ok c) :
    r'.resolve signature = .ok c ∧
      ∀ text number, Magnitude.split text = .ok (number, signature) →
        ∀ expected, r'.parseQuantity expected text = r.parseQuantity expected text := by
  -- the two registries agree on every word, so the signature reads as the same terms
  have hparse : parse r'.contains signature = parse r.contains signature := by
    refine parse_congr fun w hw => ?_
    cases hw' : r.contains w
    · cases hw'' : r'.contains w
      · rfl
      · rw [hwords w hw hw''] at hw'
        cases hw'
    · exact hext.contains hw'
  have hresolve : r'.resolve signature = .ok c := by
    unfold resolve at h ⊢
    rw [hparse]
    obtain ⟨ts, hts, hc⟩ := Except.bind_eq_ok_iff.1 h
    rw [hts]
    exact combine_of_extends hext hc
  refine ⟨hresolve, fun text number hsplit expected => ?_⟩
  exact parseQuantity_congr hsplit (hresolve.trans h.symm) expected

end

/-- After `furlong` is defined, `km` still resolves to the built-in kilometre. -/
theorem resolve_km_after_define :
    Extends builtin ((Call.define "furlong" "201.168 m").after builtin) ∧
    (∀ w ∈ words "km",
      ((Call.define "furlong" "201.168 m").after builtin).contains w = true →
        builtin.contains w = true) ∧
    builtin.resolve "km" = .ok Units.kilometer ∧
    (((Call.define "furlong" "201.168 m").after builtin).resolve "km" = .ok Units.kilometer ∧
      ∀ text number, Magnitude.split text = .ok (number, "km") →
        ∀ expected, ((Call.define "furlong" "201.168 m").after builtin).parseQuantity expected text =
          builtin.parseQuantity expected text) := by
  have hext := extends_after (.define "furlong" "201.168 m") builtin
  have hwords : ∀ w ∈ words "km",
      ((Call.define "furlong" "201.168 m").after builtin).contains w = true →
        builtin.contains w = true := by
    intro w hw _
    have hkm : words "km" = ["km"] := by decide +kernel
    rw [hkm, List.mem_singleton] at hw
    subst hw
    rfl
  have hkm : builtin.resolve "km" = .ok Units.kilometer :=
    resolve_registered valid_builtin (by rfl) (by simp [isSuperscript, superscriptDigits])
  exact ⟨hext, hwords, hkm, resolve_of_extends hext hwords hkm⟩

end Registry

end Dimensional
