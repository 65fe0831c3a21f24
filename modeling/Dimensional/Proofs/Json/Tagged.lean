import Dimensional.Proofs.Double
import Dimensional.Proofs.Json.Records

/-!
# Tagged records

The tagged record of a quantity is a map with the member `"value"`, its payload, and the member
`"dimension"`, its dimension. The reader walks the members in the order of the text and keeps
the two in slots: a second member of one key is refused, and so is any other key. After the map
it asks for the value and compares the dimension, when one came, with its own.

`taggedSlots` is that walk over the members of a parsed document, each value read alone, and
`TaggedMembers` says without the walk which members it accepts. Main statement
(`Quantity.ofTaggedText_spec`): a document reads as a tagged record of dimension `d` exactly when
it is a map of one value, at most one dimension equal to `d`, and nothing else; a written record
whose payload reads back reads back at its own dimension and is refused, with the mismatch
message, at any other.
-/

namespace Dimensional
namespace Json

variable {β P : Type}

/-- What the members with the key `key` read as, each alone, in the order of the map. -/
def readingsOf (key : String) (d : Decoder β) (ms : List (String × Json)) :
    List (Except DecodeError β) :=
  (ms.filter (·.1 == key)).map fun m => Decoder.run d (render m.2)

/-- The slots of a tagged record after its members, each member's value read alone. -/
def taggedSlots [Record P] : List (String × Json) → Option P → Option Exponents →
    Except DecodeError (Option P × Option Exponents)
  | [], v, e => .ok (v, e)
  | (k, j) :: ms, v, e =>
    if k = "value" then
      if v.isSome then .error (.duplicateField "value")
      else (Decoder.run Record.read (render j)).bind fun x => taggedSlots ms (some x) e
    else if k = "dimension" then
      if e.isSome then .error (.duplicateField "dimension")
      else (Decoder.run Decoder.exponents (render j)).bind fun x => taggedSlots ms v (some x)
    else .error (.unknownField k ["value", "dimension"])

/-- The quantity made of the slots: the value is required, and a dimension other than `d` is
refused. -/
def taggedResult (d : Exponents) : Option P × Option Exponents → Except DecodeError (Quantity d P)
  | (none, _) => .error (.missingField "value")
  | (some x, some found) =>
    if found != d then
      .error (.custom ("dimension mismatch: expected " ++ d.render ++ ", found " ++ found.render))
    else .ok ⟨x⟩
  | (some x, none) => .ok ⟨x⟩

/-- The members of a tagged record of dimension `d` whose payload is `x`. -/
structure TaggedMembers [Record P] (d : Exponents) (ms : List (String × Json)) (x : P) : Prop where
  /-- No key but the two. -/
  keys : ∀ m ∈ ms, m.1 = "value" ∨ m.1 = "dimension"
  /-- One value, which reads as `x`. -/
  value : readingsOf "value" (Record.read : Decoder P) ms = [.ok x]
  /-- At most one dimension, which reads as `d`. -/
  dimension : readingsOf "dimension" Decoder.exponents ms ∈ [[], [.ok d]]

namespace Decoder

/-! ## The walk over the members -/

section
variable {value : Decoder P} {first : Bool} {t T tv : List Char} {fuel : Nat}
  {v : Option P} {e : Option Exponents}

/-- A member `"value"`: refused when a value came before, else read into its slot. -/
theorem Reads.taggedFields_value {r : Except DecodeError P}
    {k : P → Except DecodeError (Option P × Option Exponents)}
    (hkey : Reads (mapKey? first) t (':' :: (tv ++ T)) (.ok (some "value")))
    (hv : Reads value tv [] r) (hT : ∀ rest, Delimited (T ++ rest))
    (hnext : ∀ x, Reads (taggedFields value fuel false (some x) e) T ['\x7d'] (k x)) :
    Reads (taggedFields value (fuel + 1) first v e) t ['\x7d']
      (if v.isSome then .error (.duplicateField "value") else r.bind k) := by
  rw [taggedFields]
  refine Reads.bind_ok hkey ?_
  simp only
  split
  · exact Reads.bind_error (Reads.throw _ _ [])
  · exact Reads.bind_ok (Reads.colon _) (Reads.bind (hv.append hT) hnext)

/-- A member `"dimension"`: refused when a dimension came before, else read into its slot. -/
theorem Reads.taggedFields_dimension {r : Except DecodeError Exponents}
    {k : Exponents → Except DecodeError (Option P × Option Exponents)}
    (hkey : Reads (mapKey? first) t (':' :: (tv ++ T)) (.ok (some "dimension")))
    (hv : Reads exponents tv [] r) (hT : ∀ rest, Delimited (T ++ rest))
    (hnext : ∀ x, Reads (taggedFields value fuel false v (some x)) T ['\x7d'] (k x)) :
    Reads (taggedFields value (fuel + 1) first v e) t ['\x7d']
      (if e.isSome then .error (.duplicateField "dimension") else r.bind k) := by
  rw [taggedFields]
  refine Reads.bind_ok hkey ?_
  simp only
  split
  · exact Reads.bind_error (Reads.throw _ _ [])
  · exact Reads.bind_ok (Reads.colon _) (Reads.bind (hv.append hT) hnext)

/-- A member of any other key is refused. -/
theorem Reads.taggedFields_other {t' : List Char} {key : String} (hvalue : key ≠ "value")
    (hdimension : key ≠ "dimension") (hkey : Reads (mapKey? first) t t' (.ok (some key))) :
    Reads (taggedFields value (fuel + 1) first v e) t ['\x7d']
      (.error (.unknownField key ["value", "dimension"])) := by
  rw [taggedFields]
  refine Reads.bind_ok hkey ?_
  split
  · rename_i heq; cases heq
  · rename_i heq; cases heq; exact absurd rfl hvalue
  · rename_i heq; cases heq; exact absurd rfl hdimension
  · rename_i heq; cases heq; exact Reads.throw _ _ _

theorem Reads.taggedFields_end (fuel : Nat) (first : Bool) (v : Option P) (e : Option Exponents) :
    Reads (taggedFields value (fuel + 1) first v e) ['\x7d'] ['\x7d'] (.ok (v, e)) := by
  rw [taggedFields]
  exact Reads.bind_ok (Reads.mapKey_end first []) (Reads.pure _ _)

end

/-! ## Whole texts -/

/-- A reader that reads a text to its end, whatever may follow it, reads it as a whole text. -/
theorem Reads.run_eq {d : Decoder β} {s : String} {r : Except DecodeError β}
    (h : Reads d s.toList [] r) : run d s = r := by
  have hs : StateT.run d s.toList = r.map (·, []) := by simpa using h [] delimited_nil
  -- the whole text is read, and nothing is left for the end check
  show Prod.fst <$> StateT.run (d >>= fun x => finish >>= fun _ => Pure.pure x) s.toList = r
  rw [StateT.run_bind, hs]
  cases r <;> rfl

theorem ReadsWhole.reads_run {d : Decoder β} (h : ReadsWhole d) {j : Json} (hj : Valid j) :
    Reads d (render j).toList [] (run d (render j)) := by
  obtain ⟨r, hr⟩ := h j hj
  rw [hr.run_eq]
  exact hr

/-! ## Reading a tagged record -/

section
variable [Record P]

/-- A map whose members fill the slots as `r` says, for all fuel past a bound, reads as the
quantity made of them. -/
theorem Reads.readTagged_map (d : Exponents) {body : List Char}
    {r : Except DecodeError (Option P × Option Exponents)} {n : Nat} (hn : n ≤ body.length + 1)
    (hbody : ∀ fuel, n ≤ fuel →
      Reads (taggedFields Record.read fuel true none none) body ['\x7d'] r) :
    Reads (Quantity.readTagged : Decoder (Quantity d P)) ('\x7b' :: body) []
      (r.bind (taggedResult d)) := by
  rw [Quantity.readTagged]
  refine Reads.bind_ok (Reads.peek (by decide)) ?_
  simp only
  refine Reads.bind_ok (Reads.eat '\x7b' _) ?_
  refine Reads.get_bind fun s hs => Reads.bind (hbody _ (by omega)) ?_
  -- after the members: the value is required, a dimension is compared, then the map ends
  rintro ⟨_ | x, _ | found⟩
  · exact Reads.throw _ _ _
  · exact Reads.throw _ _ _
  · exact Reads.bind_ok (Reads.endMap []) (Reads.pure _ _)
  · dsimp only [taggedResult]
    by_cases hne : (found != d) = true
    · rw [if_pos hne, if_pos hne]
      exact Reads.bind_error (Reads.throw _ _ [])
    · rw [if_neg hne, if_neg hne]
      exact Reads.bind_ok (Reads.endMap []) (Reads.pure _ _)

/-- The tagged record of a payload that reads back reads as its value and its dimension. -/
theorem Reads.readTagged_taggedText {v : P}
    (hv : Reads Record.read (Record.write v).toList [] (.ok v)) (d d' : Exponents) :
    Reads (Quantity.readTagged : Decoder (Quantity d' P))
      (Quantity.taggedText (⟨v⟩ : Quantity d P)).toList [] (taggedResult d' (some v, some d)) := by
  have htext : (Quantity.taggedText (⟨v⟩ : Quantity d P)).toList =
      '\x7b' :: ('"' :: escaped "value" ++ '"' :: ':' :: ((Record.write v).toList ++
        ((',' :: '"' :: escaped "dimension") ++ '"' :: ':' :: ((exponentsText d).toList ++
          ['\x7d'])))) := by
    simp [Quantity.taggedText, mapText_toList, rawMember]
  rw [htext]
  refine Reads.readTagged_map d' (r := .ok (some v, some d)) (n := 3) (by simp; omega)
    fun fuel hfuel => ?_
  obtain ⟨fuel, rfl⟩ : ∃ f, fuel = f + 1 + 1 + 1 := ⟨fuel - 3, by omega⟩
  -- the value fills its slot, then the dimension, then the map ends
  exact Reads.taggedFields_value (Reads.mapKey_first "value" _) hv
    (fun _ => delimited_cons (.inl rfl))
    fun x => Reads.taggedFields_dimension (Reads.mapKey_next "dimension" _)
      (Reads.exponents_text d) (fun _ => delimited_cons (.inr (.inr rfl)))
      fun y => Reads.taggedFields_end _ false _ _

/-- Any other document is refused. -/
theorem Reads.readTagged_other (d : Exponents) {j : Json} (hj : Valid j)
    (hobj : ∀ ms, j ≠ .obj ms) :
    ∃ err, Reads (Quantity.readTagged : Decoder (Quantity d P)) (render j).toList [] (.error err) := by
  obtain ⟨c, cs, hcs, hc, -⟩ := hj.opens
  obtain ⟨err, hthrow⟩ := Reads.throwInvalidType (β := Quantity d P) Quantity.taggedName hj
  rw [hcs] at hthrow
  refine ⟨err, ?_⟩
  rw [Quantity.readTagged, hcs]
  refine Reads.bind_ok (Reads.peek hc.1) ?_
  split <;> rename_i heq <;> cases heq
  · -- only a map opens with a brace
    obtain ⟨ms, rfl, -⟩ := hj.eq_obj hcs
    exact absurd rfl (hobj ms)
  · exact hthrow

end

/-! ## The members of a document -/

section
variable [Record P] [WholeRecord P]

/-- One member of a document, its value read as it is read alone, then the members after it. -/
theorem Reads.taggedFields_member {first : Bool} {t T : List Char} {k : String} {j : Json}
    {ms : List (String × Json)} {n : Nat} (hj : Valid j)
    (hkey : Reads (mapKey? first) t (':' :: ((render j).toList ++ T)) (.ok (some k)))
    (hT : ∀ rest, Delimited (T ++ rest))
    (hnext : ∀ (v : Option P) e fuel, n ≤ fuel →
      Reads (taggedFields Record.read fuel false v e) T ['\x7d'] (taggedSlots ms v e))
    (v : Option P) (e : Option Exponents) {fuel : Nat} (hfuel : n ≤ fuel) :
    Reads (taggedFields Record.read (fuel + 1) first v e) t ['\x7d']
      (taggedSlots ((k, j) :: ms) v e) := by
  rw [taggedSlots]
  by_cases hvalue : k = "value"
  · subst hvalue
    rw [if_pos rfl]
    exact Reads.taggedFields_value hkey ((WholeRecord.readsWhole).reads_run hj) hT
      fun x => hnext _ _ fuel hfuel
  · by_cases hdimension : k = "dimension"
    · subst hdimension
      rw [if_neg hvalue, if_pos rfl]
      exact Reads.taggedFields_dimension hkey (readsWhole_exponents.reads_run hj) hT
        fun x => hnext _ _ fuel hfuel
    · rw [if_neg hvalue, if_neg hdimension]
      exact Reads.taggedFields_other hvalue hdimension hkey

/-- The members after the first, up to the closing brace. -/
theorem Reads.taggedFields_tail (ms : List (String × Json)) (hms : ∀ m ∈ ms, Valid m.2)
    (v : Option P) (e : Option Exponents) {fuel : Nat} (hfuel : (membersTail ms).length ≤ fuel) :
    Reads (taggedFields Record.read fuel false v e) (membersTail ms) ['\x7d']
      (taggedSlots ms v e) := by
  induction ms generalizing v e fuel with
  | nil =>
    obtain ⟨fuel, rfl⟩ : ∃ f, fuel = f + 1 := ⟨fuel - 1, by simp [membersTail_nil] at hfuel; omega⟩
    rw [membersTail_nil]
    exact Reads.taggedFields_end fuel false v e
  | cons m ms ih =>
    obtain ⟨k, j⟩ := m
    have hms' : ∀ m ∈ ms, Valid m.2 := fun m hm => hms m (List.mem_cons_of_mem _ hm)
    have hlen : (membersTail ms).length < fuel := by
      rw [membersTail_cons] at hfuel
      simp at hfuel
      omega
    obtain ⟨fuel, rfl⟩ : ∃ f, fuel = f + 1 := ⟨fuel - 1, by omega⟩
    rw [membersTail_cons_eq]
    exact Reads.taggedFields_member (hms (k, j) List.mem_cons_self) (Reads.mapKey_next k _)
      (membersTail_delimited ms) (fun v e _ hfuel => ih hms' v e hfuel) v e (by omega)

/-- The members of a map from the first, up to the closing brace. -/
theorem Reads.taggedFields_first (ms : List (String × Json)) (hms : ∀ m ∈ ms, Valid m.2)
    {fuel : Nat} (hfuel : (mapBody ms).length ≤ fuel) :
    Reads (taggedFields Record.read fuel true none none) (mapBody ms) ['\x7d']
      (taggedSlots ms (none : Option P) none) := by
  cases ms with
  | nil =>
    obtain ⟨fuel, rfl⟩ : ∃ f, fuel = f + 1 := ⟨fuel - 1, by simp [mapBody] at hfuel; omega⟩
    exact Reads.taggedFields_end fuel true none none
  | cons m ms =>
    obtain ⟨k, j⟩ := m
    have hms' : ∀ m ∈ ms, Valid m.2 := fun m hm => hms m (List.mem_cons_of_mem _ hm)
    have hlen : (membersTail ms).length < fuel := by
      simp [mapBody, memberText_eq] at hfuel
      omega
    obtain ⟨fuel, rfl⟩ : ∃ f, fuel = f + 1 := ⟨fuel - 1, by omega⟩
    rw [mapBody_cons_eq]
    exact Reads.taggedFields_member (hms (k, j) List.mem_cons_self) (Reads.mapKey_first k _)
      (membersTail_delimited ms) (fun v e _ hfuel => Reads.taggedFields_tail ms hms' v e hfuel)
      none none (by omega)

/-- A map of a document reads as the quantity made of the slots its members fill. -/
theorem Reads.readTagged_obj (d : Exponents) (ms : List (String × Json))
    (hms : ∀ m ∈ ms, Valid m.2) :
    Reads (Quantity.readTagged : Decoder (Quantity d P)) (render (.obj ms)).toList []
      ((taggedSlots ms none none).bind (taggedResult d)) := by
  rw [render_obj]
  exact Reads.readTagged_map d (Nat.le_succ _) fun _ hfuel => Reads.taggedFields_first ms hms hfuel

end

end Decoder

/-! ## Which members are accepted -/

/-- A slot that holds `first` holds `last` after the readings `rs` of its key: it is filled at
most once, and only by a reading that succeeds. -/
def Fills (first : Option β) (rs : List (Except DecodeError β)) (last : Option β) : Prop :=
  (first.map .ok).toList ++ rs = (last.map .ok).toList

theorem fills_nil {first last : Option β} : Fills first [] last ↔ first = last := by
  cases first <;> cases last <;> simp [Fills]

theorem fills_cons {first last : Option β} {r : Except DecodeError β}
    {rs : List (Except DecodeError β)} :
    Fills first (r :: rs) last ↔ first = none ∧ ∃ x, r = .ok x ∧ Fills (some x) rs last := by
  cases first <;> cases last <;> cases rs <;> simp [Fills]

theorem readingsOf_cons (key k : String) (d : Decoder β) (j : Json) (ms : List (String × Json)) :
    readingsOf key d ((k, j) :: ms) =
      if k = key then Decoder.run d (render j) :: readingsOf key d ms else readingsOf key d ms := by
  by_cases h : k = key <;> simp [readingsOf, h]

section
variable [Record P]

/-- The walk over the members succeeds exactly when every key is one of the two and each slot
is filled by the readings of its key as `Fills` says. -/
theorem taggedSlots_eq_ok_iff (ms : List (String × Json)) (v v' : Option P)
    (e e' : Option Exponents) :
    taggedSlots ms v e = .ok (v', e') ↔ (∀ m ∈ ms, m.1 = "value" ∨ m.1 = "dimension") ∧
      Fills v (readingsOf "value" Record.read ms) v' ∧
      Fills e (readingsOf "dimension" Decoder.exponents ms) e' := by
  induction ms generalizing v e with
  | nil => simp [taggedSlots, readingsOf, fills_nil]
  | cons m ms ih =>
    obtain ⟨k, j⟩ := m
    by_cases hvalue : k = "value"
    · -- a value: refused after another, else its reading fills the value slot
      subst hvalue
      cases v with
      | some y => simp [taggedSlots, readingsOf_cons, fills_cons]
      | none =>
        cases hr : Decoder.run (Record.read : Decoder P) (render j) with
        | error err => simp [taggedSlots, readingsOf_cons, fills_cons, hr, Except.bind]
        | ok x => simp [taggedSlots, readingsOf_cons, fills_cons, hr, Except.bind, ih]
    · by_cases hdimension : k = "dimension"
      · -- a dimension: refused after another, else its reading fills the dimension slot
        subst hdimension
        cases e with
        | some y => simp [taggedSlots, readingsOf_cons, fills_cons]
        | none =>
          cases hr : Decoder.run Decoder.exponents (render j) with
          | error err => simp [taggedSlots, readingsOf_cons, fills_cons, hr, Except.bind]
          | ok x => simp [taggedSlots, readingsOf_cons, fills_cons, hr, Except.bind, ih]
      · -- any other key is refused
        simp [taggedSlots, hvalue, hdimension]

end

theorem taggedResult_eq_ok_iff (d : Exponents) (v : Option P) (e : Option Exponents)
    (q : Quantity d P) :
    taggedResult d (v, e) = .ok q ↔ v = some q.value ∧ (e = none ∨ e = some d) := by
  obtain ⟨x⟩ := q
  cases v with
  | none => simp [taggedResult]
  | some y =>
    cases e with
    | none => simp [taggedResult]
    | some found => by_cases h : found = d <;> simp [taggedResult, h]

/-- The members of a map make a quantity exactly when they are the members of a tagged record. -/
theorem taggedSlots_bind_eq_ok_iff [Record P] (d : Exponents) (ms : List (String × Json))
    (q : Quantity d P) :
    (taggedSlots ms none none).bind (taggedResult d) = .ok q ↔ TaggedMembers d ms q.value := by
  constructor
  · intro h
    cases hs : taggedSlots ms (none : Option P) none with
    | error err => simp [hs, Except.bind] at h
    | ok s =>
      obtain ⟨v, e⟩ := s
      rw [hs] at h
      obtain ⟨hkeys, hvalue, hdimension⟩ := (taggedSlots_eq_ok_iff ms none v none e).1 hs
      obtain ⟨rfl, he⟩ := (taggedResult_eq_ok_iff d v e q).1 h
      refine ⟨hkeys, by simpa [Fills] using hvalue, ?_⟩
      rcases he with rfl | rfl <;> simp_all [Fills]
  · rintro ⟨hkeys, hvalue, hdimension⟩
    -- the dimension slot ends empty or holding `d`
    obtain ⟨e, hfills, he⟩ : ∃ e, Fills none (readingsOf "dimension" Decoder.exponents ms) e ∧
        (e = none ∨ e = some d) := by
      simp only [List.mem_cons, List.not_mem_nil, or_false] at hdimension
      rcases hdimension with h | h
      · exact ⟨none, by simp [Fills, h], .inl rfl⟩
      · exact ⟨some d, by simp [Fills, h], .inr rfl⟩
    have hs := (taggedSlots_eq_ok_iff ms none (some q.value) none e).2
      ⟨hkeys, by simp [Fills, hvalue], hfills⟩
    rw [hs]
    exact (taggedResult_eq_ok_iff d _ e q).2 ⟨rfl, he⟩

end Json

namespace Quantity

open Json

variable {P : Type} [Record P]

/-- A document reads as a tagged record of dimension `d` exactly when it is a map whose members
are those of a tagged record of `d`; the quantity then holds the value read. -/
theorem ofTaggedText_eq_ok_iff [WholeRecord P] {d : Exponents} {j : Json} (hj : Valid j)
    (q : Quantity d P) :
    ofTaggedText (render j) = .ok q ↔ ∃ ms, j = .obj ms ∧ TaggedMembers d ms q.value := by
  by_cases hobj : ∃ ms, j = .obj ms
  · obtain ⟨ms, rfl⟩ := hobj
    have hms : ∀ m ∈ ms, Valid m.2 := by cases hj; assumption
    rw [ofTaggedText, (Decoder.Reads.readTagged_obj d ms hms).run_eq, taggedSlots_bind_eq_ok_iff]
    simp
  · simp only [not_exists] at hobj
    obtain ⟨err, h⟩ := Decoder.Reads.readTagged_other (P := P) d hj hobj
    rw [ofTaggedText, h.run_eq]
    simp [hobj]

/-- Reading tagged records. A document reads as a tagged record of dimension `d` exactly when it
is a map whose keys, in any order, are one `"value"` that reads as a payload and at most one
`"dimension"` that reads as `d`, and nothing else; the quantity holds that payload. The tagged
record of a payload whose record reads back reads back at its own dimension, and at any other
dimension is refused with the mismatch message. -/
theorem ofTaggedText_spec [WholeRecord P] (d : Exponents) :
    (∀ j, Valid j → ∀ q : Quantity d P,
      ofTaggedText (render j) = .ok q ↔ ∃ ms, j = .obj ms ∧ TaggedMembers d ms q.value) ∧
    ∀ v : P, Decoder.Reads Record.read (Record.write v).toList [] (.ok v) →
      (ofTaggedText (taggedText (⟨v⟩ : Quantity d P)) : Except DecodeError (Quantity d P)) =
        .ok ⟨v⟩ ∧
      ∀ d' : Exponents, d' ≠ d →
        (ofTaggedText (taggedText (⟨v⟩ : Quantity d P)) : Except DecodeError (Quantity d' P)) =
          .error (.custom
            ("dimension mismatch: expected " ++ d'.render ++ ", found " ++ d.render)) := by
  refine ⟨fun j hj q => ofTaggedText_eq_ok_iff hj q, fun v hv => ⟨?_, fun d' hne => ?_⟩⟩
  · rw [ofTaggedText, (Decoder.Reads.readTagged_taggedText hv d d).run_eq]
    simp [taggedResult]
  · rw [ofTaggedText, (Decoder.Reads.readTagged_taggedText hv d d').run_eq]
    simp [taggedResult, Ne.symm hne]

/-- A tagged double `2`: read from a map with its dimension first, and read back from its
written record, `{"value":2.0,"dimension":[0,0,0,0,0]}`. -/
theorem ofTaggedText_two :
    (ofTaggedText (render (.obj [("dimension", Decoder.exponentsJson .dimensionless),
        ("value", .num "2")])) : Except DecodeError (Quantity .dimensionless Double)) =
      .ok ⟨Double.ofNat 2⟩ ∧
    (ofTaggedText (taggedText (⟨Double.ofNat 2⟩ : Quantity .dimensionless Double)) :
      Except DecodeError (Quantity .dimensionless Double)) = .ok ⟨Double.ofNat 2⟩ := by
  obtain ⟨hdocument, hround⟩ := ofTaggedText_spec (P := Double) Exponents.dimensionless
  have hvalid : Valid (.obj [("dimension", Decoder.exponentsJson .dimensionless),
      ("value", .num "2")]) := by
    refine .obj fun m hm => ?_
    simp only [List.mem_cons, List.not_mem_nil, or_false] at hm
    rcases hm with rfl | rfl
    · exact Decoder.valid_exponentsJson _
    · exact .num (numberText_toString 2)
  have hdimension : Decoder.run Decoder.exponents (render (Decoder.exponentsJson .dimensionless)) =
      .ok .dimensionless := by
    rw [← Decoder.exponentsText_eq]
    exact (Decoder.Reads.exponents_text _).run_eq
  have hmembers : TaggedMembers .dimensionless [("dimension", Decoder.exponentsJson .dimensionless),
      ("value", .num "2")] (Double.ofNat 2) := by
    refine ⟨by simp, rfl, ?_⟩
    simp [readingsOf, hdimension]
  -- the written number `2.0` reads back as the double `2`
  have hreads : Decoder.Reads (Record.read : Decoder Double)
      (Record.write (Double.ofNat 2)).toList [] (.ok (Double.ofNat 2)) := by
    have hnumber : Valid (.num "2.0") :=
      .num (show NumberText ([] ++ ['2'] ++ ['.', '0'] ++ []) from
        .mk (.inl rfl) (.digits (by decide) (by decide) fun _ h => by cases h)
          (.digits ⟨List.cons_ne_nil _ _, by simp [isDigitChar]⟩) .none)
    have hbits : (Decoder.run (Decoder.scalar Double) "2.0").map Double.toBits =
        .ok (Double.ofNat 2).toBits := by
      decide +kernel
    have hrun : Decoder.run (Decoder.scalar Double) "2.0" = .ok (Double.ofNat 2) := by
      cases h : Decoder.run (Decoder.scalar Double) "2.0" with
      | error err => simp [h, Except.map] at hbits
      | ok y =>
        simp only [h, Except.map, Except.ok.injEq] at hbits
        rw [← Double.ofBits_toBits y, hbits, Double.ofBits_toBits]
    have htext : Record.write (Double.ofNat 2) = render (.num "2.0") := by
      decide +kernel
    have h := (Decoder.readsWhole_scalar Double).reads_run hnumber
    rw [show render (.num "2.0") = "2.0" from rfl, hrun] at h
    rw [htext]
    exact h
  exact ⟨(hdocument _ hvalid _).2 ⟨_, rfl, hmembers⟩, (hround _ hreads).1⟩

end Quantity

end Dimensional
