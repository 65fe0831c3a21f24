import Dimensional.Proofs.Json.Values

/-!
# Records of payloads

The readers of elements, dimensions and vectors read every valid document whole
(`Decoder.ReadsWhole`): on its text followed by anything that may follow a value they answer as
on the document alone. A sequence is read item by item and a map member by member, each item or
member from its own part of the text, so this follows from the same fact of the reader of items
and, for members of other names, of the checker that skips them.
-/

namespace Dimensional
namespace Json

/-- The text of a sequence after its opening bracket. -/
def arrayBody : List Json → List Char
  | [] => [']']
  | j :: js => (render j).toList ++ itemsTail js

/-- The text of a map after its opening brace. -/
def mapBody : List (String × Json) → List Char
  | [] => ['\x7d']
  | m :: ms => memberText m ++ membersTail ms

theorem render_arr (js : List Json) : (render (.arr js)).toList = '[' :: arrayBody js := by
  cases js with
  | nil => exact render_arr_nil
  | cons j js => exact render_arr_cons j js

theorem render_obj (ms : List (String × Json)) :
    (render (.obj ms)).toList = '\x7b' :: mapBody ms := by
  cases ms with
  | nil => exact render_obj_nil
  | cons m ms => exact render_obj_cons m ms

/-- Only a sequence starts with a bracket. -/
theorem Valid.eq_arr {j : Json} (hj : Valid j) {cs : List Char}
    (h : (render j).toList = '[' :: cs) : ∃ js, j = .arr js ∧ cs = arrayBody js := by
  obtain ⟨c, cs', hcs, -, hnum⟩ := hj.opens
  cases hj with
  | @arr js _ =>
    rw [render_arr] at h
    exact ⟨js, rfl, (List.cons_eq_cons.1 h).2.symm⟩
  | @num text _ =>
    rw [hcs] at h
    obtain ⟨rfl, -⟩ := List.cons_eq_cons.1 h
    exact absurd (hnum.2 ⟨text, rfl⟩) (by decide)
  | bool b => cases b <;> simp [render] at h
  | _ => simp [render, quote_toList] at h

/-- Only a map starts with a brace. -/
theorem Valid.eq_obj {j : Json} (hj : Valid j) {cs : List Char}
    (h : (render j).toList = '\x7b' :: cs) : ∃ ms, j = .obj ms ∧ cs = mapBody ms := by
  obtain ⟨c, cs', hcs, -, hnum⟩ := hj.opens
  cases hj with
  | @obj ms _ =>
    rw [render_obj] at h
    exact ⟨ms, rfl, (List.cons_eq_cons.1 h).2.symm⟩
  | @num text _ =>
    rw [hcs] at h
    obtain ⟨rfl, -⟩ := List.cons_eq_cons.1 h
    exact absurd (hnum.2 ⟨text, rfl⟩) (by decide)
  | bool b => cases b <;> simp [render] at h
  | _ => simp [render, quote_toList] at h

namespace Decoder

variable {β γ : Type}

/-- `d` reads every valid document whole. -/
def ReadsWhole (d : Decoder β) : Prop := ∀ j, Valid j → ∃ r, Reads d (render j).toList [] r

theorem ReadsWhole.map {d : Decoder β} (h : ReadsWhole d) (f : β → γ) : ReadsWhole (f <$> d) :=
  fun j hj => (h j hj).elim fun _ hr => ⟨_, hr.map⟩

/-- A whole reading followed by a step that reads nothing more. -/
theorem ReadsWhole.bind {d : Decoder β} {k : β → Decoder γ} (h : ReadsWhole d)
    (hk : ∀ x, ∃ r, Reads (k x) [] [] r) : ReadsWhole (d >>= k) :=
  fun j hj => (h j hj).elim fun _ hr => Reads.bind_exists hr fun x _ => hk x

theorem Reads.bind_pure {d : Decoder β} {t t' : List Char} {r : Except DecodeError β}
    (h : Reads d t t' r) (f : β → γ) : Reads (d >>= fun x => Pure.pure (f x)) t t' (f <$> r) := by
  cases r with
  | ok x => exact Reads.bind_ok h (Reads.pure _ _)
  | error e => exact Reads.bind_error h

/-! ## Elements -/

theorem readsWhole_scalar (α : Type) [Scalar α] : ReadsWhole (scalar α) :=
  fun _ hj => (Reads.expectNumber _ hj).elim fun _ hr => ⟨_, hr.map⟩

theorem readsWhole_int32 : ReadsWhole int32 := by
  refine fun _ hj => (Reads.expectNumber "i32" hj).elim fun _ hr => Reads.bind_exists hr fun n _ => ?_
  cases n with
  | unsigned n =>
    by_cases h : n < 2 ^ (31 : Nat)
    · exact ⟨_, by simp only [h, if_true]; exact Reads.pure _ _⟩
    · exact ⟨_, by simp only [h, if_false]; exact Reads.throw _ _ _⟩
  | negative i =>
    by_cases h : -2 ^ (31 : Nat) ≤ i
    · exact ⟨_, by simp only [h, if_true]; exact Reads.pure _ _⟩
    · exact ⟨_, by simp only [h, if_false]; exact Reads.throw _ _ _⟩
  | double bits => exact ⟨_, Reads.throw _ _ _⟩

/-- A 32-bit integer reads back from its decimal text. -/
theorem Reads.int32_toString (x : Int32) : Reads int32 (toString x.toInt).toList [] (.ok x) := by
  have hlo := x.le_toInt
  have hhi := x.toInt_lt
  have hnum := Reads.expectNumber_of_scans "i32" (numberText_toString x.toInt)
    (scans_toString (i := x.toInt) (by omega) (by omega))
  refine Reads.bind_ok hnum ?_
  by_cases h0 : 0 ≤ x.toInt
  · -- a non-negative integer is read unsigned
    rw [if_pos h0]
    dsimp only
    rw [if_pos (by omega)]
    have hx : x.toInt.toNat.toInt32 = x :=
      Int32.ofNat_toNatClampNeg x (Int32.le_iff_toInt_le.2 (by simpa using h0))
    rw [hx]
    exact Reads.pure _ _
  · rw [if_neg h0]
    dsimp only
    rw [if_pos hlo, Int.toInt32, Int32.ofInt_toInt]
    exact Reads.pure _ _

/-! ## Sequences -/

theorem Reads.seqElement_end {item : Decoder β} (first : Bool) (cs : List Char) :
    Reads (seqElement? first item) (']' :: cs) (']' :: cs) (.ok none) :=
  Reads.bind_ok (Reads.peek (by decide)) (Reads.pure _ _)

section
variable {item : Decoder β}

/-- The first item of a sequence is read from its own text. -/
theorem Reads.seqElement_first {j : Json} (hj : Valid j) {r : Except DecodeError β}
    (hr : Reads item (render j).toList [] r) (js : List Json) :
    Reads (seqElement? (0 == 0) item) (arrayBody (j :: js)) (itemsTail js) (some <$> r) := by
  obtain ⟨c, cs, hcs, hc, -⟩ := hj.opens
  have hread := hr.append (itemsTail_delimited js)
  rw [hcs] at hread
  rw [arrayBody, hcs]
  refine Reads.bind_ok (Reads.peek hc.1) ?_
  -- an item opens with none of the characters that end a sequence or separate its items
  split <;> rename_i heq <;> cases heq
  · exact absurd rfl hc.2.2.1
  · exact absurd rfl hc.2.1
  · exact hread.map

/-- An item after a comma is read from its own text. -/
theorem Reads.seqElement_next {j : Json} (hj : Valid j) {r : Except DecodeError β}
    (hr : Reads item (render j).toList [] r) (js : List Json) :
    Reads (seqElement? false item) (itemsTail (j :: js)) (itemsTail js) (some <$> r) := by
  obtain ⟨c, cs, hcs, hc, -⟩ := hj.opens
  have hread := hr.append (itemsTail_delimited js)
  rw [hcs] at hread
  rw [itemsTail_cons, hcs]
  refine Reads.bind_ok (Reads.peek (by decide)) (Reads.bind_ok (Reads.eat ',' _) ?_)
  refine Reads.bind_ok (Reads.peek hc.1) ?_
  split <;> rename_i heq <;> cases heq
  · exact absurd rfl hc.2.2.1
  · exact hread.map

end

section
variable {item : Decoder β} (hitem : ReadsWhole item) (expected : String)
include hitem

/-- After the first item, reading `count` more leaves the items after them. -/
theorem Reads.items_tail (count index : Nat) (js : List Json) (hjs : ∀ j ∈ js, Valid j) :
    ∃ r js', (∀ j ∈ js', Valid j) ∧
      Reads (items expected item (index + 1) count) (itemsTail js) (itemsTail js') r := by
  induction count generalizing index js with
  | zero => exact ⟨_, js, hjs, Reads.pure [] _⟩
  | succ count ih =>
    cases js with
    | nil =>
      -- the sequence ends before the count: refused with its length
      exact ⟨_, [], hjs, Reads.bind_ok (Reads.seqElement_end false []) (Reads.throw _ _ _)⟩
    | cons j js =>
      have hj := hjs j List.mem_cons_self
      obtain ⟨r, hr⟩ := hitem j hj
      have hr := Reads.seqElement_next hj hr js
      cases r with
      | error e => exact ⟨_, js, fun k hk => hjs k (List.mem_cons_of_mem j hk), Reads.bind_error hr⟩
      | ok x =>
        obtain ⟨r', js', hjs', h'⟩ := ih (index + 1) js fun k hk => hjs k (List.mem_cons_of_mem j hk)
        exact ⟨_, js', hjs', Reads.bind_ok hr (Reads.bind_pure h' _)⟩

/-- The first `count` items, from the start of a sequence: the reading stops at the start or
after an item. -/
theorem Reads.items_first (count : Nat) (js : List Json) (hjs : ∀ j ∈ js, Valid j) :
    ∃ r t', (t' = arrayBody js ∨ ∃ js', (∀ j ∈ js', Valid j) ∧ t' = itemsTail js') ∧
      Reads (items expected item 0 count) (arrayBody js) t' r := by
  cases count with
  | zero => exact ⟨_, _, .inl rfl, Reads.pure [] _⟩
  | succ count =>
    cases js with
    | nil => exact ⟨_, _, .inl rfl, Reads.bind_ok (Reads.seqElement_end _ []) (Reads.throw _ _ _)⟩
    | cons j js =>
      have hjs' : ∀ k ∈ js, Valid k := fun k hk => hjs k (List.mem_cons_of_mem j hk)
      have hj := hjs j List.mem_cons_self
      obtain ⟨r, hr⟩ := hitem j hj
      have hr := Reads.seqElement_first hj hr js
      cases r with
      | error e => exact ⟨_, _, .inl rfl, Reads.bind_error hr⟩
      | ok x =>
        obtain ⟨r', js', hjs'', h'⟩ := Reads.items_tail hitem expected count 0 js hjs'
        exact ⟨_, _, .inr ⟨js', hjs'', rfl⟩, Reads.bind_ok hr (Reads.bind_pure h' _)⟩

end

theorem Reads.endSeq_tail (js : List Json) (hjs : ∀ j ∈ js, Valid j) :
    ∃ r, Reads endSeq (itemsTail js) [] r := by
  cases js with
  | nil => exact ⟨_, Reads.bind_ok (Reads.peek (by decide)) (Reads.eat ']' [])⟩
  | cons j js =>
    -- a further item: the sequence is longer than its reader asked for
    obtain ⟨c, cs, hcs, hc, -⟩ := (hjs j List.mem_cons_self).opens
    rw [itemsTail_cons, hcs]
    refine Reads.bind_exists (Reads.peek (by decide)) fun _ h => ?_
    cases h
    refine Reads.bind_exists (Reads.eat ',' _) fun _ _ => ?_
    refine Reads.bind_exists (Reads.peek hc.1) fun _ h => ?_
    cases h
    split
    · exact ⟨_, Reads.fail _ _ _⟩
    · exact ⟨_, Reads.fail _ _ _⟩

theorem Reads.endSeq_body (js : List Json) (hjs : ∀ j ∈ js, Valid j) :
    ∃ r, Reads endSeq (arrayBody js) [] r := by
  cases js with
  | nil => exact Reads.endSeq_tail [] hjs
  | cons j js =>
    obtain ⟨c, cs, hcs, hc, -⟩ := (hjs j List.mem_cons_self).opens
    rw [arrayBody, hcs]
    refine Reads.bind_exists (Reads.peek hc.1) fun _ h => ?_
    cases h
    split <;> rename_i heq <;> cases heq
    · exact absurd rfl hc.2.2.1
    · exact absurd rfl hc.2.1
    · exact ⟨_, Reads.fail _ _ _⟩

section
variable {item : Decoder β} (hitem : ReadsWhole item) (expected : String)
include hitem

/-- The items of a sequence and its end. -/
theorem Reads.itemsThenEnd (count : Nat) (js : List Json) (hjs : ∀ j ∈ js, Valid j) :
    ∃ r, Reads (do
      let xs ← items expected item 0 count
      endSeq
      Pure.pure xs) (arrayBody js) [] r := by
  obtain ⟨r, t', ht', h⟩ := Reads.items_first hitem expected count js hjs
  refine Reads.bind_exists h fun xs _ => ?_
  obtain ⟨r', h'⟩ : ∃ r', Reads endSeq t' [] r' := by
    rcases ht' with rfl | ⟨js', hjs', rfl⟩
    · exact Reads.endSeq_body js hjs
    · exact Reads.endSeq_tail js' hjs'
  exact Reads.bind_exists h' fun _ _ => ⟨_, Reads.pure _ _⟩

theorem readsWhole_sequence (count : Nat) : ReadsWhole (sequence expected count item) := by
  intro j hj
  obtain ⟨c, cs, hcs, hc, -⟩ := hj.opens
  obtain ⟨e, hthrow⟩ := Reads.throwInvalidType (β := List β) expected hj
  rw [hcs] at hthrow
  rw [sequence, hcs]
  refine Reads.bind_exists (Reads.peek hc.1) fun _ h => ?_
  cases h
  split <;> rename_i heq <;> cases heq
  · -- a sequence: its items and its end
    obtain ⟨js, rfl, rfl⟩ := hj.eq_arr hcs
    have hjs : ∀ k ∈ js, Valid k := by cases hj; assumption
    exact Reads.bind_exists (Reads.eat '[' _) fun _ _ => Reads.itemsThenEnd hitem expected count js hjs
  · exact ⟨_, hthrow⟩

end

section
variable {item : Decoder β} (expected : String)

/-- Items that each read as given are read in order, up to the closing bracket. -/
theorem Reads.items_tail_ok {js : List Json} {xs : List β}
    (h : List.Forall₂ (fun j x => Valid j ∧ Reads item (render j).toList [] (.ok x)) js xs)
    (index : Nat) :
    Reads (items expected item (index + 1) js.length) (itemsTail js) (itemsTail []) (.ok xs) := by
  induction h generalizing index with
  | nil => exact Reads.pure [] _
  | @cons j x js xs hjx _ ih =>
    exact Reads.bind_ok (Reads.seqElement_next hjx.1 hjx.2 js) (Reads.bind_pure (ih (index + 1)) _)

/-- A sequence whose items each read as given reads as the list of their answers. -/
theorem Reads.sequence_ok {js : List Json} {xs : List β}
    (h : List.Forall₂ (fun j x => Valid j ∧ Reads item (render j).toList [] (.ok x)) js xs) :
    Reads (sequence expected js.length item) (render (.arr js)).toList [] (.ok xs) := by
  have hitems : Reads (items expected item 0 js.length) (arrayBody js) (itemsTail []) (.ok xs) := by
    cases h with
    | nil => exact Reads.pure [] _
    | @cons j x js xs hjx hrest =>
      exact Reads.bind_ok (Reads.seqElement_first hjx.1 hjx.2 js)
        (Reads.bind_pure (Reads.items_tail_ok expected hrest 0) _)
  have hend : Reads endSeq (itemsTail []) [] (.ok ()) :=
    Reads.bind_ok (Reads.peek (by decide)) (Reads.eat ']' [])
  rw [sequence, render_arr]
  exact Reads.bind_ok (Reads.peek (by decide)) (Reads.bind_ok (Reads.eat '[' _)
    (Reads.bind_ok hitems (Reads.bind_ok hend (Reads.pure _ _))))

end

/-- The document of a dimension: its five exponents as integers. -/
def exponentsJson (e : Exponents) : Json := .arr (e.toList.map fun n => .num (toString n.toInt))

theorem valid_exponentsJson (e : Exponents) : Valid (exponentsJson e) :=
  .arr (List.forall_mem_map.2 fun n _ => .num (numberText_toString n.toInt))

theorem renderItems_num (l : List String) : renderItems (l.map Json.num) = ",".intercalate l := by
  induction l with
  | nil => rfl
  | cons a l ih =>
    cases l with
    | nil => simp [renderItems, render, String.intercalate_singleton]
    | cons b l =>
      rw [List.map_cons, renderItems.eq_3 _ _ (by simp), ih, String.intercalate_cons_cons]
      rfl

theorem exponentsText_eq (e : Exponents) : exponentsText e = render (exponentsJson e) := by
  simp only [exponentsText, exponentsJson, render, ← renderItems_num, List.map_map]
  rfl

/-- The record of a dimension reads back as the dimension. -/
theorem Reads.exponents_text (e : Exponents) : Reads exponents (exponentsText e).toList [] (.ok e) := by
  have hitems : List.Forall₂ (fun j x => Valid j ∧ Reads int32 (render j).toList [] (.ok x))
      (e.toList.map fun n => .num (toString n.toInt)) e.toList := by
    rw [List.forall₂_map_left_iff]
    refine List.forall₂_same.2 fun n _ => ⟨.num (numberText_toString n.toInt), ?_⟩
    simpa [render] using Reads.int32_toString n
  have hseq := Reads.sequence_ok "an array of length 5" hitems
  rw [List.length_map, show e.toList.length = 5 from rfl] at hseq
  rw [exponentsText_eq]
  refine Reads.bind_ok hseq ?_
  cases e
  exact Reads.pure _ _

/-! ## Maps -/

theorem Reads.lift (e : Except DecodeError β) (t : List Char) : Reads (liftM e : Decoder β) t t e := by
  intro rest _
  cases e <;> rfl

/-- A step that reads how much text is left, for its fuel: what is left is at least the text
being read. -/
theorem Reads.get_bind {k : List Char → Decoder β} {t t' : List Char} {r : Except DecodeError β}
    (h : ∀ s : List Char, t.length ≤ s.length → Reads (k s) t t' r) : Reads (get >>= k) t t' r := by
  intro rest hrest
  exact h (t ++ rest) (by simp) rest hrest

/-- A reading with fuel whose answer is the same for all fuel past a bound, then a step. -/
theorem Reads.bind_uniform {d : Nat → Decoder β} {k : β → Decoder γ} {t t' t'' : List Char}
    {n : Nat} (h : ∃ r, ∀ fuel, n ≤ fuel → Reads (d fuel) t t' r)
    (hk : ∀ x, ∃ r, Reads (k x) t' t'' r) : ∃ r, ∀ fuel, n ≤ fuel → Reads (d fuel >>= k) t t'' r := by
  obtain ⟨r, hr⟩ := h
  cases r with
  | error e => exact ⟨.error e, fun fuel hfuel => Reads.bind_error (hr fuel hfuel)⟩
  | ok x =>
    obtain ⟨r', hr'⟩ := hk x
    exact ⟨r', fun fuel hfuel => Reads.bind_ok (hr fuel hfuel) hr'⟩

theorem membersTail_cons_eq (k : String) (v : Json) (ms : List (String × Json)) :
    membersTail ((k, v) :: ms) = ',' :: '"' :: escaped k ++ '"' :: ':' :: ((render v).toList ++ membersTail ms) := by
  simp [membersTail_cons, memberText_eq]

theorem mapBody_cons_eq (k : String) (v : Json) (ms : List (String × Json)) :
    mapBody ((k, v) :: ms) = '"' :: escaped k ++ '"' :: ':' :: ((render v).toList ++ membersTail ms) := by
  simp [mapBody, memberText_eq]

section
variable {item : Decoder β} (names : List String) {first : Bool} {t T tv : List Char} {k : String}
  {fuel : Nat} {slots : List (Option β)}

/-- A member whose key names field `i`: refused when the slot is filled, else its value is read
into the slot. -/
theorem Reads.fields_field {i : Nat} {r : Except DecodeError β}
    {next : β → Except DecodeError (List (Option β))}
    (hkey : Reads (mapKey? first) t (':' :: (tv ++ T)) (.ok (some k)))
    (hidx : names.idxOf? k = some i) (hv : Reads item tv [] r) (hT : ∀ rest, Delimited (T ++ rest))
    (hnext : ∀ x, Reads (fields names item fuel false (slots.set i (some x))) T ['\x7d'] (next x)) :
    Reads (fields names item (fuel + 1) first slots) t ['\x7d']
      (if (slots.getD i none).isSome then .error (.duplicateField k) else r.bind next) := by
  rw [fields]
  refine Reads.bind_ok hkey ?_
  dsimp only
  rw [hidx]
  dsimp only
  split
  · exact Reads.bind_error (Reads.throw _ _ [])
  · exact Reads.bind_ok (Reads.colon _) (Reads.bind (hv.append hT) hnext)

/-- A member whose key names no field: its value is checked and skipped. -/
theorem Reads.fields_unnamed {r : Except DecodeError (List (Option β))}
    (hkey : Reads (mapKey? first) t (':' :: (tv ++ T)) (.ok (some k)))
    (hidx : names.idxOf? k = none) (hv : Reads Decoder.skip tv [] (.ok ()))
    (hT : ∀ rest, Delimited (T ++ rest))
    (hnext : Reads (fields names item fuel false slots) T ['\x7d'] r) :
    Reads (fields names item (fuel + 1) first slots) t ['\x7d'] r := by
  rw [fields]
  refine Reads.bind_ok hkey ?_
  dsimp only
  rw [hidx]
  exact Reads.bind_ok (Reads.colon _) (Reads.bind_ok (hv.append hT) hnext)

theorem Reads.fields_end (fuel : Nat) (first : Bool) (slots : List (Option β)) :
    Reads (fields names item (fuel + 1) first slots) ['\x7d'] ['\x7d'] (.ok slots) := by
  rw [fields]
  exact Reads.bind_ok (Reads.mapKey_end first []) (Reads.pure _ _)

end

section
variable {item : Decoder β} (hitem : ReadsWhole item) (names : List String)
include hitem

/-- One member: its key, then its value read into its slot, or skipped when no field has its
name, then the members after it. -/
theorem Reads.fields_step {first : Bool} {t T : List Char} {k : String} {v : Json} {n : Nat}
    (hkey : Reads (mapKey? first) t (':' :: ((render v).toList ++ T)) (.ok (some k)))
    (hv : Valid v) (hT : ∀ rest, Delimited (T ++ rest))
    (hnext : ∀ slots, ∃ r, ∀ fuel, n ≤ fuel → Reads (fields names item fuel false slots) T ['\x7d'] r)
    (slots : List (Option β)) :
    ∃ r, ∀ fuel, n ≤ fuel → Reads (fields names item (fuel + 1) first slots) t ['\x7d'] r := by
  obtain ⟨r, hr⟩ := hitem v hv
  cases hidx : names.idxOf? k with
  | some i =>
    -- the answer of the members after it, for each value the slot may take
    choose next hnext using fun x => hnext (slots.set i (some x))
    exact ⟨_, fun fuel hfuel =>
      Reads.fields_field names hkey hidx hr hT fun x => hnext x fuel hfuel⟩
  | none =>
    obtain ⟨r', hr'⟩ := hnext slots
    exact ⟨r', fun fuel hfuel =>
      Reads.fields_unnamed names hkey hidx (Reads.skip hv) hT (hr' fuel hfuel)⟩

/-- The members after the first, up to the closing brace, each read into its slot or skipped;
the answer is the same for all fuel past the length of the text. -/
theorem Reads.fields_tail (ms : List (String × Json)) (hms : ∀ m ∈ ms, Valid m.2)
    (slots : List (Option β)) : ∃ r, ∀ fuel, (membersTail ms).length ≤ fuel →
      Reads (fields names item fuel false slots) (membersTail ms) ['\x7d'] r := by
  induction ms generalizing slots with
  | nil =>
    refine ⟨.ok slots, fun fuel hfuel => ?_⟩
    obtain ⟨fuel, rfl⟩ : ∃ f, fuel = f + 1 := ⟨fuel - 1, by simp [membersTail_nil] at hfuel; omega⟩
    rw [membersTail_nil]
    exact Reads.fields_end names fuel false slots
  | cons m ms ih =>
    obtain ⟨k, v⟩ := m
    have hms' : ∀ m ∈ ms, Valid m.2 := fun m hm => hms m (List.mem_cons_of_mem _ hm)
    obtain ⟨r, hr⟩ := Reads.fields_step hitem names (Reads.mapKey_next k _)
      (hms (k, v) List.mem_cons_self) (membersTail_delimited ms) (fun slots => ih hms' slots) slots
    refine ⟨r, fun fuel hfuel => ?_⟩
    have hlen : (membersTail ms).length < fuel := by
      rw [membersTail_cons] at hfuel
      simp at hfuel
      omega
    obtain ⟨fuel, rfl⟩ : ∃ f, fuel = f + 1 := ⟨fuel - 1, by omega⟩
    rw [membersTail_cons_eq]
    exact hr fuel (by omega)

/-- The members of a map from the first, up to the closing brace. -/
theorem Reads.fields_first (ms : List (String × Json)) (hms : ∀ m ∈ ms, Valid m.2)
    (slots : List (Option β)) : ∃ r, ∀ fuel, (mapBody ms).length ≤ fuel →
      Reads (fields names item fuel true slots) (mapBody ms) ['\x7d'] r := by
  cases ms with
  | nil =>
    refine ⟨.ok slots, fun fuel hfuel => ?_⟩
    obtain ⟨fuel, rfl⟩ : ∃ f, fuel = f + 1 := ⟨fuel - 1, by simp [mapBody] at hfuel; omega⟩
    exact Reads.fields_end names fuel true slots
  | cons m ms =>
    obtain ⟨k, v⟩ := m
    have hms' : ∀ m ∈ ms, Valid m.2 := fun m hm => hms m (List.mem_cons_of_mem _ hm)
    obtain ⟨r, hr⟩ := Reads.fields_step hitem names (Reads.mapKey_first k _)
      (hms (k, v) List.mem_cons_self) (membersTail_delimited ms)
      (fun slots => Reads.fields_tail hitem names ms hms' slots) slots
    refine ⟨r, fun fuel hfuel => ?_⟩
    have hlen : (membersTail ms).length < fuel := by
      simp [mapBody, memberText_eq] at hfuel
      omega
    obtain ⟨fuel, rfl⟩ : ∃ f, fuel = f + 1 := ⟨fuel - 1, by omega⟩
    rw [mapBody_cons_eq]
    exact hr fuel (by omega)

/-- A structure is read from a sequence of its fields or from a map with its field names. -/
theorem readsWhole_record (name : String) : ReadsWhole (record name names item) := by
  intro j hj
  obtain ⟨c, cs, hcs, hc, -⟩ := hj.opens
  obtain ⟨e, hthrow⟩ := Reads.throwInvalidType (β := List β) name hj
  rw [hcs] at hthrow
  rw [record, hcs]
  refine Reads.bind_exists (Reads.peek hc.1) fun _ h => ?_
  cases h
  split <;> rename_i heq <;> cases heq
  · obtain ⟨js, rfl, rfl⟩ := hj.eq_arr hcs
    have hjs : ∀ k ∈ js, Valid k := by cases hj; assumption
    exact Reads.bind_exists (Reads.eat '[' _) fun _ _ =>
      Reads.itemsThenEnd hitem _ names.length js hjs
  · -- a map: its members up to the closing brace, then the fields in their order
    obtain ⟨ms, rfl, rfl⟩ := hj.eq_obj hcs
    have hms : ∀ m ∈ ms, Valid m.2 := by cases hj; assumption
    obtain ⟨r, hr⟩ := Reads.bind_uniform (k := fun slots => do
        let xs ← liftM (present names slots)
        endMap
        Pure.pure xs)
      (Reads.fields_first hitem names ms hms (names.map fun _ => none))
      fun slots => Reads.bind_exists (Reads.lift _ _) fun _ _ =>
        ⟨_, Reads.bind_ok (Reads.endMap []) (Reads.pure _ _)⟩
    exact ⟨r, Reads.bind_ok (Reads.eat '\x7b' _) (Reads.get_bind fun s hs => hr _ (by omega))⟩
  · exact ⟨_, hthrow⟩

end

/-! ## Records that read back -/

/-- A member of a map written with the text of its value. -/
def rawMember (m : String × String) : List Char := '"' :: escaped m.1 ++ '"' :: ':' :: m.2.toList

theorem intercalate_members (m : String × String) (ms : List (String × String)) :
    (",".intercalate ((m :: ms).map fun (k, v) => quote k ++ ":" ++ v)).toList =
      rawMember m ++ ms.flatMap (fun m => ',' :: rawMember m) := by
  induction ms generalizing m with
  | nil => simp [String.intercalate_singleton, rawMember, quote_toList]
  | cons m' ms ih =>
    have h := ih m'
    simp only [List.map_cons] at h
    rw [List.map_cons, List.map_cons, String.intercalate_cons_cons, String.toList_append,
      String.toList_append, h]
    simp [rawMember, quote_toList]

theorem mapText_toList (m : String × String) (ms : List (String × String)) :
    (mapText (m :: ms)).toList =
      '\x7b' :: (rawMember m ++ ms.flatMap (fun m => ',' :: rawMember m) ++ ['\x7d']) := by
  simp only [mapText, String.toList_append, intercalate_members]
  rfl

section
variable {item : Decoder β} (names : List String)

/-- A map whose members fill the slots of the fields reads as the fields, in their order. -/
theorem Reads.record_map_ok (name : String) {body : List Char} {slots : List (Option β)}
    {xs : List β} {n : Nat} (hn : n ≤ body.length + 1)
    (hbody : ∀ fuel, n ≤ fuel →
      Reads (fields names item fuel true (names.map fun _ => none)) body ['\x7d'] (.ok slots))
    (hpresent : present names slots = .ok xs) :
    Reads (record name names item) ('\x7b' :: body) [] (.ok xs) := by
  rw [record]
  refine Reads.bind_ok (Reads.peek (by decide)) (Reads.bind_ok (Reads.eat '\x7b' _) ?_)
  refine Reads.get_bind fun s hs => Reads.bind_ok (hbody _ (by omega)) ?_
  exact Reads.bind_ok (hpresent ▸ Reads.lift (present names slots) ['\x7d'])
    (Reads.bind_ok (Reads.endMap []) (Reads.pure _ _))

end

section
variable {α : Type} [Scalar α]

/-- The record of a vector of two components reads back when its components do. -/
theorem Reads.vector2_write {v : Vector2 α}
    (hx : Reads (scalar α) (scalarText v.x).toList [] (.ok v.x))
    (hy : Reads (scalar α) (scalarText v.y).toList [] (.ok v.y)) :
    Reads (Record.read : Decoder (Vector2 α)) (Record.write v).toList [] (.ok v) := by
  have htext : (Record.write v).toList = '\x7b' :: ('"' :: escaped "x" ++ '"' :: ':' ::
      ((scalarText v.x).toList ++ ((',' :: '"' :: escaped "y") ++ '"' :: ':' ::
        ((scalarText v.y).toList ++ ['\x7d'])))) := by
    simp [Record.write, mapText_toList, rawMember]
  rw [htext]
  refine Reads.bind_ok (Reads.record_map_ok ["x", "y"] "struct Vector2" (n := 3) (by simp; omega)
    (fun fuel hfuel => ?_) (show present _ [some v.x, some v.y] = .ok [v.x, v.y] from rfl))
    (Reads.pure _ _)
  obtain ⟨fuel, rfl⟩ : ∃ f, fuel = f + 1 + 1 + 1 := ⟨fuel - 3, by omega⟩
  -- each member fills its slot, then the map ends
  exact Reads.fields_field ["x", "y"] (Reads.mapKey_first "x" _) rfl hx
    (fun _ => delimited_cons (.inl rfl)) fun _ =>
    Reads.fields_field ["x", "y"] (Reads.mapKey_next "y" _) rfl hy
      (fun _ => delimited_cons (.inr (.inr rfl))) fun _ => Reads.fields_end _ fuel false _

/-- The record of a vector of three components reads back when its components do. -/
theorem Reads.vector3_write {v : Vector3 α}
    (hx : Reads (scalar α) (scalarText v.x).toList [] (.ok v.x))
    (hy : Reads (scalar α) (scalarText v.y).toList [] (.ok v.y))
    (hz : Reads (scalar α) (scalarText v.z).toList [] (.ok v.z)) :
    Reads (Record.read : Decoder (Vector3 α)) (Record.write v).toList [] (.ok v) := by
  have htext : (Record.write v).toList = '\x7b' :: ('"' :: escaped "x" ++ '"' :: ':' ::
      ((scalarText v.x).toList ++ ((',' :: '"' :: escaped "y") ++ '"' :: ':' ::
        ((scalarText v.y).toList ++ ((',' :: '"' :: escaped "z") ++ '"' :: ':' ::
          ((scalarText v.z).toList ++ ['\x7d'])))))) := by
    simp [Record.write, mapText_toList, rawMember]
  rw [htext]
  refine Reads.bind_ok (Reads.record_map_ok ["x", "y", "z"] "struct Vector3" (n := 4)
    (by simp; omega) (fun fuel hfuel => ?_)
    (show present _ [some v.x, some v.y, some v.z] = .ok [v.x, v.y, v.z] from rfl))
    (Reads.pure _ _)
  obtain ⟨fuel, rfl⟩ : ∃ f, fuel = f + 1 + 1 + 1 + 1 := ⟨fuel - 4, by omega⟩
  exact Reads.fields_field ["x", "y", "z"] (Reads.mapKey_first "x" _) rfl hx
    (fun _ => delimited_cons (.inl rfl)) fun _ =>
    Reads.fields_field ["x", "y", "z"] (Reads.mapKey_next "y" _) rfl hy
      (fun _ => delimited_cons (.inl rfl)) fun _ =>
      Reads.fields_field ["x", "y", "z"] (Reads.mapKey_next "z" _) rfl hz
        (fun _ => delimited_cons (.inr (.inr rfl))) fun _ => Reads.fields_end _ fuel false _

end

/-! ## Payloads and dimensions -/

theorem readsWhole_exponents : ReadsWhole exponents :=
  (readsWhole_sequence readsWhole_int32 _ 5).bind fun _ => ⟨_, Reads.pure _ _⟩

theorem readsWhole_vector2 (α : Type) [Scalar α] : ReadsWhole (Record.read : Decoder (Vector2 α)) :=
  (readsWhole_record (readsWhole_scalar α) ["x", "y"] "struct Vector2").bind fun xs => by
    split
    · exact ⟨_, Reads.pure _ _⟩
    · exact ⟨_, Reads.fail _ _ _⟩

theorem readsWhole_vector3 (α : Type) [Scalar α] : ReadsWhole (Record.read : Decoder (Vector3 α)) :=
  (readsWhole_record (readsWhole_scalar α) ["x", "y", "z"] "struct Vector3").bind fun xs => by
    split
    · exact ⟨_, Reads.pure _ _⟩
    · exact ⟨_, Reads.fail _ _ _⟩

end Decoder

/-- Payloads whose record reader reads every valid document whole. -/
class WholeRecord (P : Type) [Record P] : Prop where
  readsWhole : Decoder.ReadsWhole (Record.read : Decoder P)

instance {α : Type} [Scalar α] : WholeRecord α := ⟨Decoder.readsWhole_scalar α⟩

instance {α : Type} [Scalar α] : WholeRecord (Vector2 α) := ⟨Decoder.readsWhole_vector2 α⟩

instance {α : Type} [Scalar α] : WholeRecord (Vector3 α) := ⟨Decoder.readsWhole_vector3 α⟩

/-- The exact round trip of numbers: the record text of every finite element reads back as it. -/
def NumbersReadBack (α : Type) [Scalar α] : Prop :=
  ∀ x : α, Scalar.isFinite x = true → Decoder.Reads (Decoder.scalar α) (scalarText x).toList [] (.ok x)

/-- Payloads whose record reads back when the record text of each component does. -/
class ComponentRecords (P : Type) (α : outParam Type) [Scalar α] [Payload P α] [Record P] :
    Prop where
  reads_write : ∀ v : P,
    (∀ x ∈ Payload.toList v, Decoder.Reads (Decoder.scalar α) (scalarText x).toList [] (.ok x)) →
      Decoder.Reads Record.read (Record.write v).toList [] (.ok v)

instance {α : Type} [Scalar α] : ComponentRecords α α :=
  ⟨fun x hx => hx x (List.mem_singleton_self x)⟩

instance {α : Type} [Scalar α] : ComponentRecords (Vector2 α) α :=
  ⟨fun v hv => Decoder.Reads.vector2_write (hv v.x (by simp [Payload.toList, Vector2.toList]))
    (hv v.y (by simp [Payload.toList, Vector2.toList]))⟩

instance {α : Type} [Scalar α] : ComponentRecords (Vector3 α) α :=
  ⟨fun v hv => Decoder.Reads.vector3_write (hv v.x (by simp [Payload.toList, Vector3.toList]))
    (hv v.y (by simp [Payload.toList, Vector3.toList]))
    (hv v.z (by simp [Payload.toList, Vector3.toList]))⟩

/-- Under the exact round trip of numbers, the record of every payload whose components are
finite reads back as that payload. -/
theorem Decoder.Reads.write_of_finite {P α : Type} [Scalar α] [Payload P α] [Record P]
    [ComponentRecords P α] (hnumbers : NumbersReadBack α) {v : P}
    (hv : ∀ x ∈ Payload.toList v, Scalar.isFinite x = true) :
    Decoder.Reads Record.read (Record.write v).toList [] (.ok v) :=
  ComponentRecords.reads_write v fun x hx => hnumbers x (hv x hx)

end Json
end Dimensional
