import Dimensional.Registry.Catalog
import Dimensional.Proofs.Resolve

/-!
# Changing a registry

The calls that change a registry in place, as steps of a state machine. Every call is atomic
(`call_atomic`): a refused one leaves the registry as it was, an accepted one only adds new
entries, in order; so every registry that calls reach is `Valid` (`reachable_valid`).
-/

namespace Dimensional
namespace Registry

/-! ## Registries that grow -/

/-- `r'` is `r` with the entries `new` after its own, under symbols that are distinct and not
registered in `r`. -/
structure Grows (r r' : Registry) (new : List (String × UnitDef)) : Prop where
  entries : r'.entries = r.entries ++ new
  distinct : (new.map (·.1)).Nodup
  fresh : ∀ s ∈ new.map (·.1), r.contains s = false

theorem Grows.refl (r : Registry) : Grows r r [] :=
  ⟨(List.append_nil _).symm, List.nodup_nil, nofun⟩

theorem contains_append_iff {l new : List (String × UnitDef)} {s : String} :
    (⟨l ++ new⟩ : Registry).contains s = true ↔
      (⟨l⟩ : Registry).contains s = true ∨ s ∈ new.map (·.1) := by
  rw [← Bool.not_eq_false, contains_eq_false_iff, ← Bool.not_eq_false, contains_eq_false_iff]
  simp only [List.map_append, List.mem_append, not_not]

theorem Grows.contains_iff {r r' : Registry} {new : List (String × UnitDef)} (h : Grows r r' new)
    {s : String} : r'.contains s = true ↔ r.contains s = true ∨ s ∈ new.map (·.1) := by
  obtain ⟨entries⟩ := r'
  obtain ⟨old⟩ := r
  obtain rfl : entries = old ++ new := h.entries
  exact contains_append_iff

/-- Growth neither removes nor re-binds a symbol. -/
theorem Grows.find?_of_contains {r r' : Registry} {new : List (String × UnitDef)}
    (h : Grows r r' new) {s : String} (hs : r.contains s = true) : r'.find? s = r.find? s := by
  obtain ⟨u, hu⟩ := Option.isSome_iff_exists.1 hs
  simp only [find?, h.entries, List.lookup_append]
  simp only [find?] at hu
  rw [hu, Option.some_or]

theorem Grows.trans {r r₁ r₂ : Registry} {a b : List (String × UnitDef)} (h₁ : Grows r r₁ a)
    (h₂ : Grows r₁ r₂ b) : Grows r r₂ (a ++ b) := by
  -- a symbol of `a` is registered in `r₁`, a symbol of `b` is not
  have hdisjoint : ∀ s ∈ a.map (·.1), ∀ s' ∈ b.map (·.1), s ≠ s' := by
    rintro s hs s' hs' rfl
    have := h₂.fresh s hs'
    rw [← Bool.not_eq_true, h₁.contains_iff] at this
    exact this (.inr hs)
  refine ⟨by rw [h₂.entries, h₁.entries, List.append_assoc], ?_, ?_⟩
  · rw [List.map_append, List.nodup_append]
    exact ⟨h₁.distinct, h₂.distinct, hdisjoint⟩
  · intro s hs
    rw [List.map_append, List.mem_append] at hs
    rcases hs with hs | hs
    · exact h₁.fresh s hs
    · have := h₂.fresh s hs
      rw [← Bool.not_eq_true, h₁.contains_iff] at this
      exact Bool.not_eq_true _ ▸ fun h => this (.inl h)

theorem grows_of_insert {r r' : Registry} {symbol : String} {u : UnitDef}
    (h : (insert symbol u).run r = .ok () r') : Grows r r' [(symbol, u)] := by
  obtain ⟨-, hfresh, rfl⟩ := run_insert_eq_ok_iff.1 h
  exact ⟨rfl, by simp, by simpa using hfresh⟩

/-! ## Each change is a sequence of insertions -/

open Update

theorem run_define_eq_ok {r r' : Registry} {symbol definition : String}
    (h : (define symbol definition).run r = .ok () r') : ∃ u, (insert symbol u).run r = .ok () r' := by
  unfold define at h
  obtain ⟨split, -, h⟩ := run_ofExcept_bind_eq_ok.1 h
  rw [run_get_bind] at h
  obtain ⟨u, -, h⟩ := run_ofExcept_bind_eq_ok.1 h
  split at h
  · cases h
  · exact ⟨_, h⟩

theorem atomic_define (symbol definition : String) : (define symbol definition).Atomic := by
  unfold define
  refine (readOnly_ofExcept _).bind fun split => readOnly_get.bind fun r => ?_
  refine (readOnly_ofExcept _).bind fun u => ?_
  exact Atomic.ite (readOnly_throw _).atomic (atomic_insert _ _)

theorem run_apply_eq_ok {r r' : Registry} {e : CatalogEntry} (h : e.apply.run r = .ok () r') :
    ∃ u, (insert e.symbol u).run r = .ok () r' := by
  unfold CatalogEntry.apply at h
  split at h
  · split at h
    · cases h
    · exact run_define_eq_ok h
  · split at h <;> exact ⟨_, h⟩
  · cases h
  · cases h

/-- What the entries of a catalog add to `r`, in order: one entry each, under the entry's
symbol, and each entry applied to `r` with the entries added before it gives `r` with its own
added too. -/
def AddsInOrder (r : Registry) (entries : List CatalogEntry) (new : List (String × UnitDef)) :
    Prop :=
  new.map (·.1) = entries.map (·.symbol) ∧
    ∀ i (h : i < entries.length),
      entries[i].apply.run ⟨r.entries ++ new.take i⟩ = .ok () ⟨r.entries ++ new.take (i + 1)⟩

theorem run_forM_apply_eq_ok {entries : List CatalogEntry} :
    ∀ {r r' : Registry}, (entries.forM CatalogEntry.apply).run r = .ok () r' →
      ∃ new, Grows r r' new ∧ AddsInOrder r entries new := by
  induction entries with
  | nil =>
    intro r r' h
    cases h
    exact ⟨[], Grows.refl r, rfl, fun i hi => absurd hi (Nat.not_lt_zero i)⟩
  | cons e es ih =>
    intro r r' h
    simp only [List.forM_eq_forM, List.forM_cons, run_bind_eq_ok] at h
    obtain ⟨_, r₁, happly, hrest⟩ := h
    obtain ⟨u, hinsert⟩ := run_apply_eq_ok happly
    have hgrow := grows_of_insert hinsert
    obtain ⟨rest, hgrows, hmap, hsteps⟩ := ih hrest
    refine ⟨(e.symbol, u) :: rest, hgrow.trans hgrows, by simp [hmap], ?_⟩
    intro i hi
    cases i with
    | zero =>
      show e.apply.run ⟨r.entries ++ []⟩ = .ok () ⟨r.entries ++ [(e.symbol, u)]⟩
      rw [List.append_nil, ← hgrow.entries]
      exact happly
    | succ i =>
      have := hsteps i (by simpa using hi)
      rw [hgrow.entries, List.append_assoc, List.append_assoc] at this
      exact this

theorem run_loadCatalog_eq_ok {r r' : Registry} {text : String} {n : Nat}
    (h : (loadCatalog text).run r = .ok n r') :
    ∃ entries, catalogEntries text = .ok entries ∧ n = entries.length ∧
      (entries.forM CatalogEntry.apply).run r = .ok () r' := by
  unfold loadCatalog at h
  obtain ⟨entries, hread, h⟩ := run_ofExcept_bind_eq_ok.1 h
  rw [run_get_bind] at h
  obtain ⟨staged, hstaged, h⟩ := run_ofExcept_bind_eq_ok.1 h
  cases h
  obtain ⟨_, hrun⟩ := onCopy_eq_ok.1 hstaged
  exact ⟨entries, Except.mapError_eq_ok.1 hread, rfl, hrun⟩

/-- A catalog is read, and its entries applied to a copy, before the registry is replaced. -/
theorem atomic_loadCatalog (text : String) : (loadCatalog text).Atomic := by
  unfold loadCatalog
  refine (readOnly_ofExcept _).bind fun entries => readOnly_get.bind fun r => ?_
  refine (readOnly_ofExcept _).bind fun staged => ?_
  exact (atomic_set staged).bind_pure fun _ => entries.length

theorem run_loadFile_eq_ok {files : Files} {r r' : Registry} {path : String} {n : Nat}
    (h : (loadFile files path).run r = .ok n r') :
    ∃ text, files path = .ok text ∧ (loadCatalog text).run r = .ok n r' := by
  unfold loadFile at h
  obtain ⟨text, hread, h⟩ := run_ofExcept_bind_eq_ok.1 h
  exact ⟨text, Except.mapError_eq_ok.1 hread, h⟩

theorem atomic_loadFile (files : Files) (path : String) : (loadFile files path).Atomic := by
  unfold loadFile
  exact (readOnly_ofExcept _).bind fun text => atomic_loadCatalog text

/-! ## Calls -/

/-- A call that may change a registry. -/
inductive Call where
  | insert (symbol : String) (u : UnitDef)
  | define (symbol definition : String)
  | loadCatalog (text : String)
  | loadFile (files : Files) (path : String)

/-- The change a call makes, answering the number of symbols it adds: one for an insertion or a
definition, which answer nothing, and the count of a catalog. -/
def Call.update : Call → Update Nat
  | .insert symbol u => do Registry.insert symbol u; pure 1
  | .define symbol definition => do Registry.define symbol definition; pure 1
  | .loadCatalog text => Registry.loadCatalog text
  | .loadFile files path => Registry.loadFile files path

/-- The registry after a call, whether it is accepted or refused. -/
def Call.after (c : Call) (r : Registry) : Registry := c.update.after r

/-- The entries an accepted call adds: the inserted one; one under the defined symbol; for a
catalog, one for each of its tables, in order. -/
def Call.Adds : Call → Registry → List (String × UnitDef) → Prop
  | .insert symbol u, _, new => new = [(symbol, u)]
  | .define symbol _, _, new => ∃ u, new = [(symbol, u)]
  | .loadCatalog text, r, new =>
    ∃ entries, catalogEntries text = .ok entries ∧ AddsInOrder r entries new
  | .loadFile files path, r, new =>
    ∃ text entries, files path = .ok text ∧ catalogEntries text = .ok entries ∧
      AddsInOrder r entries new

theorem Call.update_atomic (c : Call) : c.update.Atomic := by
  cases c with
  | insert symbol u => exact (atomic_insert symbol u).bind_pure fun _ => 1
  | define symbol definition => exact (atomic_define symbol definition).bind_pure fun _ => 1
  | loadCatalog text => exact atomic_loadCatalog text
  | loadFile files path => exact atomic_loadFile files path

/-- After a call the registry is the one it was made on, or the one the accepted call made. -/
theorem Call.after_cases (c : Call) (r : Registry) :
    c.after r = r ∨ ∃ n, c.update.run r = .ok n (c.after r) := by
  cases hrun : c.update.run r with
  | error e r' =>
    left
    rw [Call.after, after_eq_of_error hrun]
    exact c.update_atomic r e r' hrun
  | ok n r' =>
    right
    rw [Call.after, after_eq_of_ok hrun]
    exact ⟨n, rfl⟩

theorem Call.grows_of_run {c : Call} {r r' : Registry} {n : Nat} (h : c.update.run r = .ok n r') :
    ∃ new, Grows r r' new ∧ new.length = n ∧ c.Adds r new := by
  -- a catalog read from text or from a path is applied entry by entry
  have hcatalog : ∀ {text}, (Registry.loadCatalog text).run r = .ok n r' →
      ∃ new, Grows r r' new ∧ new.length = n ∧
        ∃ entries, catalogEntries text = .ok entries ∧ AddsInOrder r entries new := by
    intro text hload
    obtain ⟨entries, hread, rfl, hforM⟩ := run_loadCatalog_eq_ok hload
    obtain ⟨new, hgrows, hadds⟩ := run_forM_apply_eq_ok hforM
    have hlength : new.length = entries.length := by
      simpa using congrArg List.length hadds.1
    exact ⟨new, hgrows, hlength, entries, hread, hadds⟩
  cases c with
  | insert symbol u =>
    obtain ⟨_, hinsert, rfl⟩ := run_bind_pure_eq_ok.1 h
    exact ⟨_, grows_of_insert hinsert, rfl, rfl⟩
  | define symbol definition =>
    obtain ⟨_, hdefine, rfl⟩ := run_bind_pure_eq_ok.1 h
    obtain ⟨u, hinsert⟩ := run_define_eq_ok hdefine
    exact ⟨_, grows_of_insert hinsert, rfl, u, rfl⟩
  | loadCatalog text => exact hcatalog h
  | loadFile files path =>
    obtain ⟨text, hfile, hload⟩ := run_loadFile_eq_ok h
    obtain ⟨new, hgrows, hlength, entries, hread, hadds⟩ := hcatalog hload
    exact ⟨new, hgrows, hlength, text, entries, hfile, hread, hadds⟩

/-- A call is atomic. When it is refused the registry is as it was. When it is accepted the
registry gains the entries the call adds, as many as it counts, under symbols that are
distinct and were not registered; every symbol registered before keeps its unit, and no other
symbol is registered after. -/
theorem call_atomic (c : Call) (r : Registry) :
    (∀ err r', c.update.run r = .error err r' → r' = r) ∧
    ∀ n r', c.update.run r = .ok n r' →
      ∃ new, Grows r r' new ∧ new.length = n ∧ c.Adds r new ∧
        (∀ s, r.contains s = true → r'.find? s = r.find? s) ∧
        ∀ s, r'.contains s = true ↔ r.contains s = true ∨ s ∈ new.map (·.1) := by
  refine ⟨fun err r' h => c.update_atomic r err r' h, fun n r' h => ?_⟩
  obtain ⟨new, hgrows, hlength, hadds⟩ := Call.grows_of_run h
  exact ⟨new, hgrows, hlength, hadds, fun s hs => hgrows.find?_of_contains hs,
    fun s => hgrows.contains_iff⟩

-- a catalog whose second table takes a registered symbol adds nothing, not even its first
example :
    ((Call.loadCatalog "[[unit]]\nsymbol = \"zz\"\nfactor = 2.0\n[[unit]]\nsymbol = \"m\"\nfactor = 1.0\n").after
      builtin).contains "zz" = false := by
  decide +kernel

/-! ## Validity of reachable registries -/

theorem Valid.define {r r' : Registry} (hr : r.Valid) {symbol definition : String}
    (h : (Registry.define symbol definition).run r = .ok () r') : r'.Valid := by
  obtain ⟨u, hinsert⟩ := run_define_eq_ok h
  exact hr.insert hinsert

theorem Valid.forM_apply {entries : List CatalogEntry} {r r' : Registry} (hr : r.Valid)
    (h : (entries.forM CatalogEntry.apply).run r = .ok () r') : r'.Valid := by
  induction entries generalizing r with
  | nil =>
    cases h
    exact hr
  | cons e es ih =>
    simp only [List.forM_eq_forM, List.forM_cons, run_bind_eq_ok] at h
    obtain ⟨_, r₁, happly, hrest⟩ := h
    obtain ⟨u, hinsert⟩ := run_apply_eq_ok happly
    exact ih (hr.insert hinsert) hrest

theorem Valid.loadCatalog {r r' : Registry} (hr : r.Valid) {text : String} {n : Nat}
    (h : (Registry.loadCatalog text).run r = .ok n r') : r'.Valid := by
  obtain ⟨entries, -, -, hforM⟩ := run_loadCatalog_eq_ok h
  exact hr.forM_apply hforM

theorem Valid.loadFile {r r' : Registry} (hr : r.Valid) {files : Files} {path : String} {n : Nat}
    (h : (Registry.loadFile files path).run r = .ok n r') : r'.Valid := by
  obtain ⟨text, -, hload⟩ := run_loadFile_eq_ok h
  exact hr.loadCatalog hload

theorem Valid.after {r : Registry} (hr : r.Valid) (c : Call) : (c.after r).Valid := by
  rcases c.after_cases r with hsame | ⟨n, hrun⟩
  · rw [hsame]
    exact hr
  · cases c with
    | insert symbol u =>
      obtain ⟨_, hinsert, -⟩ := run_bind_pure_eq_ok.1 hrun
      exact hr.insert hinsert
    | define symbol definition =>
      obtain ⟨_, hdefine, -⟩ := run_bind_pure_eq_ok.1 hrun
      exact hr.define hdefine
    | loadCatalog text => exact hr.loadCatalog hrun
    | loadFile files path => exact hr.loadFile hrun

/-- The registries that calls reach, refused calls included, from the empty and the built-in
registry and from those read whole from a catalog text or path. -/
inductive Reachable : Registry → Prop
  | empty : Reachable empty
  | builtin : Reachable builtin
  | ofCatalog {text : String} {r : Registry} : ofCatalog text = .ok r → Reachable r
  | ofFile {files : Files} {path : String} {r : Registry} : ofFile files path = .ok r → Reachable r
  | call {r : Registry} (c : Call) : Reachable r → Reachable (c.after r)

theorem Reachable.valid {r : Registry} (h : Reachable r) : r.Valid := by
  induction h with
  | empty => exact valid_empty
  | builtin => exact valid_builtin
  | ofCatalog h =>
    obtain ⟨n, hload⟩ := onCopy_eq_ok.1 h
    exact valid_builtin.loadCatalog hload
  | ofFile h =>
    obtain ⟨n, hload⟩ := onCopy_eq_ok.1 h
    exact valid_builtin.loadFile hload
  | call c _ ih => exact ih.after c

/-- Every registry that calls reach is valid: each entry passes the check of `validate`, so its
symbol keeps the rules of symbols and its factor and offset are finite, the factor non-zero.
Hence every unit it resolves has a finite non-zero factor and a finite offset. -/
theorem reachable_valid {r : Registry} (h : Reachable r) :
    r.Valid ∧ (∀ e ∈ r.entries, validate e.1 e.2 = .ok ()) ∧
      ∀ signature c, r.resolve signature = .ok c →
        c.factor.FiniteNonzero ∧ c.ratio.offset.isFinite = true := by
  have hr := h.valid
  exact ⟨hr, fun e he => validate_eq_ok_iff.2 (hr.rules e he),
    fun _ _ hc => hr.resolve_rules hc⟩

theorem reachable_valid_furlong :
    Reachable ((Call.define "furlong" "201.168 m").after builtin) ∧
      (((Call.define "furlong" "201.168 m").after builtin).Valid ∧
        (∀ e ∈ ((Call.define "furlong" "201.168 m").after builtin).entries,
          validate e.1 e.2 = .ok ()) ∧
        ∀ signature c, ((Call.define "furlong" "201.168 m").after builtin).resolve signature = .ok c →
          c.factor.FiniteNonzero ∧ c.ratio.offset.isFinite = true) :=
  ⟨.call _ .builtin, reachable_valid (.call _ .builtin)⟩

end Registry
end Dimensional
