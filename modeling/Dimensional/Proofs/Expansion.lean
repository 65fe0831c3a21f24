import Mathlib
import Dimensional.Literals.Expand

/-!
# Expanding unit literals

What `expandLiterals` does to a token sequence, said without its recursion. A unit literal is an
integer or float literal whose suffix is neither empty nor one the compiler gives meaning to; it
is at fault when its digits do not read as a double or its value is not finite.

`Rewrites ts ts'` states the shape of a successful expansion: every group keeps its delimiter
and its place, identifiers, punctuation and literals other than unit literals stay as they are,
and each unit literal becomes, in place, the path `::dimsafe::literals::` with its suffix and its
value in parentheses. The main statement, `expandLiterals_eq_iff`, says that expansion succeeds
exactly when no literal, at any depth, is at fault, and then gives the sequence that `Rewrites`
describes; otherwise it fails with the fault of the first such literal, depth first and from the
left.
-/

namespace Dimensional
namespace Literals

open Tokens

/-- The digits and suffix of a unit literal; none for any other literal text. -/
def unitLiteral? (text : String) : Option (String × String) :=
  let ofSuffix (digits suffix : String) : Option (String × String) :=
    if suffix.isEmpty || primitiveSuffixes.contains suffix then none else some (digits, suffix)
  match Numeric.classify text with
  | .integer digits suffix => ofSuffix digits suffix
  | .float digits suffix => ofSuffix digits suffix
  | .other => none

/-- Why a literal cannot be expanded: it is a unit literal whose digits do not read as a double,
or whose value is not finite. -/
def literalFault (text : String) : Option LiteralError :=
  match unitLiteral? text with
  | none => none
  | some (digits, _) =>
    match base10Value? digits with
    | none => some (.unreadable text)
    | some v => if Scalar.isFinite v then none else some (.tooLarge text)

/-- The literal texts of a token sequence, depth first and from the left. -/
def literalTexts : List TokenTree → List String
  | [] => []
  | .group _ inner :: rest => literalTexts inner ++ literalTexts rest
  | .literal text :: rest => text :: literalTexts rest
  | .ident _ :: rest => literalTexts rest
  | .punct _ :: rest => literalTexts rest

/-- The fault of the first literal at fault, depth first and from the left. -/
def firstFault (ts : List TokenTree) : Option LiteralError := (literalTexts ts).findSome? literalFault

/-- `Rewrites ts ts'`: `ts'` is `ts` with every unit literal replaced in place by the call of
its unit on its value, and every other token, groups with their delimiters included, kept. -/
inductive Rewrites : List TokenTree → List TokenTree → Prop
  | nil : Rewrites [] []
  | group {d inner inner' rest rest'} : Rewrites inner inner' → Rewrites rest rest' →
      Rewrites (.group d inner :: rest) (.group d inner' :: rest')
  | ident {name rest rest'} : Rewrites rest rest' → Rewrites (.ident name :: rest) (.ident name :: rest')
  | punct {c rest rest'} : Rewrites rest rest' → Rewrites (.punct c :: rest) (.punct c :: rest')
  | kept {text rest rest'} : unitLiteral? text = none → Rewrites rest rest' →
      Rewrites (.literal text :: rest) (.literal text :: rest')
  | unit {text digits suffix v rest rest'} : unitLiteral? text = some (digits, suffix) →
      base10Value? digits = some v → Scalar.isFinite v = true → Rewrites rest rest' →
      Rewrites (.literal text :: rest)
        ([.punct ':', .punct ':', .ident "dimsafe", .punct ':', .punct ':', .ident "literals",
          .punct ':', .punct ':', .ident suffix, .group .parenthesis [.literal (floatText v)]] ++ rest')

/-! ## One literal -/

theorem expandLiteral_eq (text : String) :
    expandLiteral text =
      match unitLiteral? text with
      | none => .ok [.literal text]
      | some (digits, suffix) =>
        match base10Value? digits with
        | none => .error (.unreadable text)
        | some v => if Scalar.isFinite v then .ok (unitCall suffix v) else .error (.tooLarge text) := by
  unfold expandLiteral unitLiteral?
  -- both read the suffix of the same classification; only the order of the tests differs
  cases Numeric.classify text with
  | integer digits suffix => dsimp only; split <;> rfl
  | float digits suffix => dsimp only; split <;> rfl
  | other => rfl

theorem expandLiteral_of_fault {text : String} {e : LiteralError} (h : literalFault text = some e) :
    expandLiteral text = .error e := by
  rw [expandLiteral_eq]
  unfold literalFault at h
  split at h
  · cases h
  · rename_i digits suffix _
    split at h
    · cases h; rfl
    · rename_i v _
      split at h
      · cases h
      · rename_i hfin
        cases h
        rw [if_neg hfin]

/-- A literal with no fault is kept, or is a unit literal with a finite value. -/
theorem expandLiteral_of_no_fault {text : String} (h : literalFault text = none) :
    (unitLiteral? text = none ∧ expandLiteral text = .ok [.literal text]) ∨
      ∃ digits suffix v, unitLiteral? text = some (digits, suffix) ∧ base10Value? digits = some v ∧
        Scalar.isFinite v = true ∧ expandLiteral text = .ok (unitCall suffix v) := by
  rw [expandLiteral_eq]
  unfold literalFault at h
  split at h
  · rename_i hnone
    exact .inl ⟨hnone, rfl⟩
  · rename_i digits suffix hunit
    split at h
    · cases h
    · rename_i v hv
      split at h
      · rename_i hfin
        exact .inr ⟨digits, suffix, v, hunit, hv, hfin, by simp only [hfin, if_true]⟩
      · cases h

/-! ## Sequences -/

@[simp] theorem firstFault_nil : firstFault [] = none := by
  simp [firstFault, literalTexts]

@[simp] theorem firstFault_group (d : Delimiter) (inner rest : List TokenTree) :
    firstFault (.group d inner :: rest) = (firstFault inner).or (firstFault rest) := by
  simp [firstFault, literalTexts, List.findSome?_append]

@[simp] theorem firstFault_literal (text : String) (rest : List TokenTree) :
    firstFault (.literal text :: rest) = (literalFault text).or (firstFault rest) := by
  simp only [firstFault, literalTexts, List.findSome?_cons]
  cases literalFault text <;> rfl

@[simp] theorem firstFault_ident (name : String) (rest : List TokenTree) :
    firstFault (.ident name :: rest) = firstFault rest := by
  simp [firstFault, literalTexts]

@[simp] theorem firstFault_punct (c : Char) (rest : List TokenTree) :
    firstFault (.punct c :: rest) = firstFault rest := by
  simp [firstFault, literalTexts]

/-- Expansion in the shape that `Rewrites` states gives the rewritten sequence. -/
theorem expandLiterals_of_rewrites {ts ts' : List TokenTree} (h : Rewrites ts ts') :
    expandLiterals ts = .ok ts' := by
  induction h with
  | nil => simp [expandLiterals]
  | group _ _ ihi ihr => simp only [expandLiterals, ihi, ihr]; rfl
  | ident _ ih => simp only [expandLiterals, ih]; rfl
  | punct _ ih => simp only [expandLiterals, ih]; rfl
  | kept hnone _ ih =>
    simp only [expandLiterals, expandLiteral_eq, hnone, ih]
    rfl
  | unit hunit hv hfin _ ih =>
    simp only [expandLiterals, expandLiteral_eq, hunit, hv, hfin, if_true, ih]
    rfl

/-- Expansion fails with the first fault, if a literal is at fault; otherwise it gives a
rewriting of the sequence. By induction along the expansion, groups first. -/
theorem expandLiterals_cases (ts : List TokenTree) :
    match firstFault ts with
    | some e => expandLiterals ts = .error e
    | none => ∃ ts', expandLiterals ts = .ok ts' ∧ Rewrites ts ts' := by
  fun_induction expandLiterals ts with
  | case1 =>
    rw [firstFault_nil]
    exact ⟨[], rfl, .nil⟩
  | case2 d inner rest ihi ihr =>
    rw [firstFault_group]
    cases hi : firstFault inner with
    | some e =>
      rw [hi] at ihi
      simp only [Option.some_or, ihi]
      rfl
    | none =>
      rw [hi] at ihi
      obtain ⟨inner', hinner, hrel⟩ := ihi
      simp only [Option.none_or, hinner]
      cases hr : firstFault rest with
      | some e =>
        rw [hr] at ihr
        simp only [ihr]
        rfl
      | none =>
        rw [hr] at ihr
        obtain ⟨rest', hrest, hrel'⟩ := ihr
        exact ⟨_, by simp only [hrest]; rfl, .group hrel hrel'⟩
  | case3 text rest ih =>
    rw [firstFault_literal]
    cases hf : literalFault text with
    | some e =>
      simp only [Option.some_or, expandLiteral_of_fault hf]
      rfl
    | none =>
      simp only [Option.none_or]
      cases hr : firstFault rest with
      | some e =>
        rw [hr] at ih
        rcases expandLiteral_of_no_fault hf with ⟨-, hlit⟩ | ⟨_, _, _, -, -, -, hlit⟩ <;>
          · simp only [hlit, ih]
            rfl
      | none =>
        rw [hr] at ih
        obtain ⟨rest', hrest, hrel⟩ := ih
        rcases expandLiteral_of_no_fault hf with ⟨hnone, hlit⟩ | ⟨digits, suffix, v, hunit, hv, hfin, hlit⟩
        · exact ⟨_, by simp only [hlit, hrest]; rfl, .kept hnone hrel⟩
        · exact ⟨_, by simp only [hlit, hrest]; rfl, .unit hunit hv hfin hrel⟩
  | case4 t rest hgroup hlit ih =>
    -- an identifier or a punctuation character is kept in front of the rest
    cases t with
    | group d inner => exact absurd rfl (hgroup d inner)
    | literal text => exact absurd rfl (hlit text)
    | ident name =>
      rw [firstFault_ident]
      cases hr : firstFault rest with
      | some e => rw [hr] at ih; simp only [ih]; rfl
      | none =>
        rw [hr] at ih
        obtain ⟨rest', hrest, hrel⟩ := ih
        exact ⟨_, by simp only [hrest]; rfl, .ident hrel⟩
    | punct c =>
      rw [firstFault_punct]
      cases hr : firstFault rest with
      | some e => rw [hr] at ih; simp only [ih]; rfl
      | none =>
        rw [hr] at ih
        obtain ⟨rest', hrest, hrel⟩ := ih
        exact ⟨_, by simp only [hrest]; rfl, .punct hrel⟩

/-- Expanding the unit literals of a token sequence succeeds exactly when no literal, at any
depth, is a unit literal whose value does not read or is not finite, and it then keeps every
group, identifier, punctuation token and other literal in place and replaces each unit literal
by the call of its unit on its value. Otherwise it fails with the fault of the first such
literal, depth first and from the left. -/
theorem expandLiterals_eq_iff (ts : List TokenTree) :
    (∀ ts', expandLiterals ts = .ok ts' ↔
      (∀ text ∈ literalTexts ts, literalFault text = none) ∧ Rewrites ts ts') ∧
    ∀ e, expandLiterals ts = .error e ↔ (literalTexts ts).findSome? literalFault = some e := by
  have hcases := expandLiterals_cases ts
  refine ⟨fun ts' => ⟨fun h => ?_, fun ⟨_, hrel⟩ => expandLiterals_of_rewrites hrel⟩, fun e => ?_⟩
  · -- a result means no fault, and the rewriting that the cases give is that result
    have hnone : firstFault ts = none := by
      cases hf : firstFault ts with
      | none => rfl
      | some e => rw [hf] at hcases; rw [hcases] at h; cases h
    rw [hnone] at hcases
    obtain ⟨ts'', hts'', hrel⟩ := hcases
    rw [hts''] at h
    cases h
    exact ⟨List.findSome?_eq_none_iff.1 hnone, hrel⟩
  · change expandLiterals ts = .error e ↔ firstFault ts = some e
    cases hf : firstFault ts with
    | none =>
      rw [hf] at hcases
      obtain ⟨ts', hts', -⟩ := hcases
      rw [hts']
      exact ⟨nofun, nofun⟩
    | some e' =>
      rw [hf] at hcases
      rw [hcases]
      exact ⟨fun h => by cases h; rfl, fun h => by cases h; rfl⟩

end Literals
end Dimensional
