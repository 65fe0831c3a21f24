import Dimensional.Registry.Basic
import Dimensional.Proofs.Double

/-!
# Registry entries

`EntryRules` states the rules of an entry that `Registry.validate` checks, and
`validate_eq_ok_iff` says that the check accepts exactly the entries that keep them.
`insert_eq_ok_iff` says what an accepted `insert` does: the entry goes after the others, under
a symbol that was not registered. A registry is `Valid` when its symbols are distinct and every
entry keeps the rules; the built-in registry is, and `insert` keeps a registry so.

An entry is the pair of its symbol and its unit, so the symbol an entry is found under is the
symbol it was checked with.
-/

namespace Dimensional

/-- The bind of a computation that can fail gives a result exactly when both steps do. -/
theorem Except.bind_eq_ok_iff {ε α β : Type} {x : Except ε α} {f : α → Except ε β} {b : β} :
    x >>= f = .ok b ↔ ∃ a, x = .ok a ∧ f a = .ok b := by
  cases x with
  | error e => exact ⟨nofun, fun ⟨_, h, _⟩ => nomatch h⟩
  | ok a => exact ⟨fun h => ⟨a, rfl, h⟩, fun ⟨_, h, hf⟩ => by cases h; exact hf⟩

/-- A mapped computation gives a result exactly when the computation does. -/
theorem Except.map_eq_ok_iff {ε α β : Type} {x : Except ε α} {f : α → β} {b : β} :
    x.map f = .ok b ↔ ∃ a, x = .ok a ∧ f a = b := by
  cases x with
  | error e => exact ⟨nofun, fun ⟨_, h, _⟩ => nomatch h⟩
  | ok a => exact ⟨fun h => ⟨a, rfl, Except.ok.inj h⟩, fun ⟨_, h, hf⟩ => by cases h; rw [← hf]; rfl⟩

theorem Except.mapError_eq_ok {ε ε' α : Type} {x : Except ε α} {f : ε → ε'} {a : α} :
    x.mapError f = .ok a ↔ x = .ok a := by
  cases x <;> simp [Except.mapError]

namespace Ratio

/-- The offset of a ratio: zero for a scale. -/
def offset : Ratio → Double
  | .scale _ => 0.0
  | .affine o _ => o

end Ratio

namespace Registry

open Double

/-- The rules of an entry: a symbol that is not empty, does not start like a number and holds no
blank or operator; a finite non-zero factor; a finite offset. -/
structure EntryRules (symbol : String) (u : UnitDef) : Prop where
  nonempty : symbol.toList ≠ []
  start : ∀ c ∈ symbol.toList.head?, (Decimal.isDigit c || c = '+' || c = '-' || c = '.') = false
  noOperator : ∀ c ∈ symbol.toList, isForbidden c = false
  factor : u.factor.FiniteNonzero
  offset : u.ratio.offset.isFinite = true

theorem entryRules_iff {symbol : String} {u : UnitDef} :
    EntryRules symbol u ↔ symbol.toList ≠ [] ∧
      (∀ c ∈ symbol.toList.head?, (Decimal.isDigit c || c = '+' || c = '-' || c = '.') = false) ∧
      (∀ c ∈ symbol.toList, isForbidden c = false) ∧ u.factor.FiniteNonzero ∧
      u.ratio.offset.isFinite = true :=
  ⟨fun ⟨a, b, c, d, e⟩ => ⟨a, b, c, d, e⟩, fun ⟨a, b, c, d, e⟩ => ⟨a, b, c, d, e⟩⟩

-- the checks over the characters go through the list, not through every character there is
instance (symbol : String) (u : UnitDef) : Decidable (EntryRules symbol u) :=
  have := Option.decidableForallMem (p := fun c =>
    (Decimal.isDigit c || c = '+' || c = '-' || c = '.') = false) symbol.toList.head?
  have := List.decidableBAll (fun c => isForbidden c = false) symbol.toList
  decidable_of_iff _ entryRules_iff.symm

/-- The check of an entry accepts exactly the entries that keep the rules. -/
theorem validate_eq_ok_iff {symbol : String} {u : UnitDef} :
    validate symbol u = .ok () ↔ EntryRules symbol u := by
  rw [entryRules_iff]
  unfold validate
  cases symbol.toList with
  | nil => exact ⟨nofun, fun h => absurd rfl h.1⟩
  | cons c rest =>
    simp only [ne_eq, reduceCtorEq, not_false_eq_true, List.head?_cons, Option.mem_def,
      Option.some.injEq, forall_eq', true_and]
    by_cases hstart : (Decimal.isDigit c || c = '+' || c = '-' || c = '.') = true
    · simp only [hstart, if_true, Bool.true_eq_false, false_and, iff_false]
      exact nofun
    · simp only [Bool.not_eq_true] at hstart
      simp only [hstart, Bool.false_eq_true, if_false, true_and]
      by_cases hop : (c :: rest).any isForbidden = true
      · obtain ⟨d, hd, hdf⟩ := List.any_eq_true.1 hop
        simp only [hop, if_true]
        exact ⟨nofun, fun h => absurd (h.1 d hd) (by simp [hdf])⟩
      · have hall : ∀ d ∈ c :: rest, isForbidden d = false := by
          simpa using hop
        simp only [Bool.not_eq_true] at hop
        simp only [hop, Bool.false_eq_true, if_false, FiniteNonzero, eq_true hall, true_and]
        -- the factor and the offset are read off the ratio
        obtain ⟨exps, f | ⟨o, f⟩⟩ := u
        · simp only [UnitDef.factor, Ratio.factor, Ratio.offset, isFinite_zero]
          cases f.isFinite <;> cases f == 0.0 <;> simp
        · simp only [UnitDef.factor, Ratio.factor, Ratio.offset]
          cases f.isFinite <;> cases f == 0.0 <;> cases o.isFinite <;> simp

/-! ## Changes made in place -/

namespace Update

variable {α β : Type}

theorem run_bind_eq_ok {x : Update α} {f : α → Update β} {r r'' : Registry} {b : β} :
    (x >>= f).run r = .ok b r'' ↔ ∃ a r', x.run r = .ok a r' ∧ (f a).run r' = .ok b r'' := by
  rw [EStateM.run_bind]
  cases x.run r with
  | ok a r' =>
    constructor
    · intro h
      exact ⟨a, r', rfl, h⟩
    · rintro ⟨_, _, h, hf⟩
      cases h
      exact hf
  | error e r' =>
    constructor
    · intro h
      cases h
    · rintro ⟨_, _, h, -⟩
      cases h

@[simp] theorem run_ofExcept_ok (a : α) (r : Registry) :
    (ofExcept (.ok a) : Update α).run r = .ok a r := rfl

@[simp] theorem run_ofExcept_error (e : RegistryError) (r : Registry) :
    (ofExcept (.error e) : Update α).run r = .error e r := rfl

@[simp] theorem run_get_bind (f : Registry → Update α) (r : Registry) :
    (get >>= f).run r = (f r).run r := rfl

/-- Reading a checked value gives a result exactly when the value is there and the rest, on the
same registry, gives it. -/
theorem run_ofExcept_bind_eq_ok {x : Except RegistryError α} {f : α → Update β} {r r' : Registry}
    {b : β} : (ofExcept x >>= f).run r = .ok b r' ↔ ∃ a, x = .ok a ∧ (f a).run r = .ok b r' := by
  cases x with
  | error e =>
    constructor
    · intro h
      cases h
    · rintro ⟨_, h, -⟩
      cases h
  | ok a =>
    constructor
    · intro h
      exact ⟨a, rfl, h⟩
    · rintro ⟨_, h, hf⟩
      cases h
      exact hf

theorem run_bind_pure_eq_ok {x : Update α} {g : α → β} {r r' : Registry} {b : β} :
    (x >>= fun a => pure (g a)).run r = .ok b r' ↔ ∃ a, x.run r = .ok a r' ∧ g a = b := by
  rw [run_bind_eq_ok]
  constructor
  · rintro ⟨a, r₁, hx, hpure⟩
    cases hpure
    exact ⟨a, hx, rfl⟩
  · rintro ⟨a, hx, rfl⟩
    exact ⟨a, r', hx, rfl⟩

theorem after_eq_of_ok {x : Update α} {r r' : Registry} {a : α} (h : x.run r = .ok a r') :
    x.after r = r' := by
  unfold after
  rw [h]

theorem after_eq_of_error {x : Update α} {r r' : Registry} {e : RegistryError}
    (h : x.run r = .error e r') : x.after r = r' := by
  unfold after
  rw [h]

/-- A change made on a copy gives the copy exactly when the change is accepted. -/
theorem onCopy_eq_ok {x : Update α} {r r' : Registry} :
    x.onCopy r = .ok r' ↔ ∃ a, x.run r = .ok a r' := by
  unfold onCopy
  cases x.run r with
  | ok a r₁ => simp
  | error e r₁ => simp

/-- A change is atomic when a refusal leaves the registry as it was. -/
def Atomic (x : Update α) : Prop := ∀ r e r', x.run r = .error e r' → r' = r

/-- A change that only reads the registry: whatever it answers, the registry is as it was. -/
structure ReadOnly (x : Update α) : Prop where
  atomic : x.Atomic
  keeps : ∀ r a r', x.run r = .ok a r' → r' = r

theorem readOnly_ofExcept (x : Except RegistryError α) : (ofExcept x : Update α).ReadOnly := by
  constructor
  · intro r e r' h
    cases x with
    | error e' => cases h; rfl
    | ok a => cases h
  · intro r a r' h
    cases x with
    | error e => cases h
    | ok a' => cases h; rfl

theorem readOnly_get : (get : Update Registry).ReadOnly := by
  constructor
  · intro r e r' h
    cases h
  · intro r a r' h
    cases h
    rfl

theorem readOnly_throw (e : RegistryError) : (throw e : Update α).ReadOnly := by
  constructor
  · intro r e' r' h
    cases h
    rfl
  · intro r a r' h
    cases h

theorem atomic_set (r' : Registry) : (set r' : Update PUnit).Atomic := by
  intro r e r'' h
  cases h

/-- Reading and then making an atomic change is atomic: a refusal comes either before the
registry is touched or from the change itself. -/
theorem ReadOnly.bind {x : Update α} {f : α → Update β} (hx : x.ReadOnly)
    (hf : ∀ a, (f a).Atomic) : (x >>= f).Atomic := by
  intro r e r'' h
  rw [EStateM.run_bind] at h
  cases hrun : x.run r with
  | ok a r' =>
    rw [hrun] at h
    obtain rfl := hx.keeps r a r' hrun
    exact hf a r' e r'' h
  | error e' r' =>
    rw [hrun] at h
    cases h
    exact hx.atomic r _ _ hrun

/-- An atomic change followed by an answer that cannot be refused is atomic. -/
theorem Atomic.bind_pure {x : Update α} (hx : x.Atomic) (g : α → β) :
    (x >>= fun a => pure (g a)).Atomic := by
  intro r e r'' h
  rw [EStateM.run_bind] at h
  cases hrun : x.run r with
  | ok a r' => rw [hrun] at h; cases h
  | error e' r' => rw [hrun] at h; cases h; exact hx r _ _ hrun

theorem Atomic.ite {c : Prop} [Decidable c] {x y : Update α} (hx : x.Atomic) (hy : y.Atomic) :
    (if c then x else y).Atomic := by
  split
  · exact hx
  · exact hy

end Update

/-- An insertion checks the entry and the symbol before it adds anything, so it is atomic. -/
theorem atomic_insert (symbol : String) (u : UnitDef) : (insert symbol u).Atomic := by
  unfold insert
  refine (Update.readOnly_ofExcept _).bind fun _ => Update.readOnly_get.bind fun r => ?_
  exact Update.Atomic.ite (Update.readOnly_throw _).atomic (Update.atomic_set _)

/-- An accepted insertion adds the entry after the others, under a symbol that was not
registered, and only an entry that keeps the rules is accepted. -/
theorem run_insert_eq_ok_iff {r r' : Registry} {symbol : String} {u : UnitDef} :
    (insert symbol u).run r = .ok () r' ↔
      EntryRules symbol u ∧ r.contains symbol = false ∧ r' = ⟨r.entries ++ [(symbol, u)]⟩ := by
  rw [← validate_eq_ok_iff]
  cases hv : validate symbol u with
  | error e =>
    have hrun : (insert symbol u).run r = .error e r := by
      simp only [insert, EStateM.run_bind, hv, Update.run_ofExcept_error]
    simp [hrun]
  | ok _ =>
    cases hc : r.contains symbol with
    | true =>
      have hrun : (insert symbol u).run r = .error (.duplicateSymbol symbol) r := by
        simp only [insert, EStateM.run_bind, hv, hc, Update.run_ofExcept_ok, EStateM.run_get,
          if_true]
        rfl
      simp [hrun]
    | false =>
      have hrun : (insert symbol u).run r = .ok () ⟨r.entries ++ [(symbol, u)]⟩ := by
        simp only [insert, EStateM.run_bind, hv, hc, Update.run_ofExcept_ok, EStateM.run_get,
          Bool.false_eq_true, if_false, EStateM.run_set]
      rw [hrun]
      simp only [EStateM.Result.ok.injEq, true_and]
      exact eq_comm

/-- A symbol is registered exactly when an entry carries it. -/
theorem contains_eq_false_iff {r : Registry} {symbol : String} :
    r.contains symbol = false ↔ symbol ∉ r.entries.map (·.1) := by
  simp only [contains, find?, Option.isSome_eq_false_iff, Option.isNone_iff_eq_none,
    List.lookup_eq_none_iff, bne_iff_ne, ne_eq, List.mem_map, not_exists, not_and]
  exact ⟨fun h p hp heq => h p hp heq.symm, fun h p hp heq => h p hp heq.symm⟩

/-- A valid registry: its symbols are distinct and every entry keeps the rules. -/
structure Valid (r : Registry) : Prop where
  distinct : (r.entries.map (·.1)).Nodup
  rules : ∀ e ∈ r.entries, EntryRules e.1 e.2

theorem valid_iff {r : Registry} :
    r.Valid ↔ (r.entries.map (·.1)).Nodup ∧ ∀ e ∈ r.entries, EntryRules e.1 e.2 :=
  ⟨fun ⟨a, b⟩ => ⟨a, b⟩, fun ⟨a, b⟩ => ⟨a, b⟩⟩

instance (r : Registry) : Decidable r.Valid := decidable_of_iff _ valid_iff.symm

theorem valid_empty : empty.Valid := ⟨List.nodup_nil, nofun⟩

/-- The built-in units and their aliases keep the rules, though no check is made of them. -/
theorem valid_builtin : builtin.Valid := by
  decide +kernel

/-- The unit registered under a symbol of a valid registry keeps the rules. -/
theorem Valid.find? {r : Registry} (hr : r.Valid) {symbol : String} {u : UnitDef}
    (h : r.find? symbol = some u) : EntryRules symbol u := by
  obtain ⟨l₁, l₂, hl, -⟩ := List.lookup_eq_some_iff.1 h
  exact hr.rules (symbol, u) (by simp [hl])

/-- An accepted insertion keeps a registry valid. -/
theorem Valid.insert {r r' : Registry} (hr : r.Valid) {symbol : String} {u : UnitDef}
    (h : (Registry.insert symbol u).run r = .ok () r') : r'.Valid := by
  obtain ⟨hrules, hfresh, rfl⟩ := run_insert_eq_ok_iff.1 h
  refine ⟨?_, ?_⟩
  · rw [List.map_append, List.nodup_append]
    refine ⟨hr.distinct, by simp, ?_⟩
    rintro a ha b hb rfl
    obtain rfl : a = symbol := by simpa using hb
    exact contains_eq_false_iff.1 hfresh ha
  · intro e he
    rcases List.mem_append.1 he with he | he
    · exact hr.rules e he
    · obtain rfl := List.mem_singleton.1 he
      exact hrules

end Registry

end Dimensional
