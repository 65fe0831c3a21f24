import Dimensional.Proofs.Json.Numbers

/-!
# Whole values

A document is `Valid` when each of its numbers is written as RFC 8259 has it. The readers of
typed values read such a document from its text without looking past its end, so a member of a
sequence or a map is read as it is read alone. This module gives that for the steps that read
words and numbers, for the checker that skips a value (`Reads.ignoreValue`, given fuel for the
length of the text, and so `Reads.skip`), and for the description of a value of another kind
(`Reads.invalidType`), from which the reader of a number follows (`Reads.expectNumber`).
-/

namespace Dimensional
namespace Json

/-- A document whose numbers are all written as RFC 8259 has them. -/
inductive Valid : Json → Prop
  | null : Valid .null
  | bool (b : Bool) : Valid (.bool b)
  | num {text : String} : NumberText text.toList → Valid (.num text)
  | str (s : String) : Valid (.str s)
  | arr {items : List Json} : (∀ j ∈ items, Valid j) → Valid (.arr items)
  | obj {fields : List (String × Json)} : (∀ m ∈ fields, Valid m.2) → Valid (.obj fields)

/-! ## The text of a document -/

/-- The text of a member of a map: its key, a colon and its value. -/
def memberText (m : String × Json) : List Char := (quote m.1).toList ++ ':' :: (render m.2).toList

/-- What follows the first item of a sequence: each further item after a comma, then the
closing bracket. -/
def itemsTail (js : List Json) : List Char :=
  js.flatMap (fun j => ',' :: (render j).toList) ++ [']']

/-- What follows the first member of a map: each further member after a comma, then the
closing brace. -/
def membersTail (ms : List (String × Json)) : List Char :=
  ms.flatMap (fun m => ',' :: memberText m) ++ ['}']

theorem renderItems_append (j : Json) (js : List Json) :
    (renderItems (j :: js)).toList ++ [']'] = (render j).toList ++ itemsTail js := by
  induction js generalizing j with
  | nil => simp [renderItems, itemsTail]
  | cons k ks ih =>
    rw [renderItems.eq_3 _ _ (by simp)]
    simp [ih, itemsTail]

theorem renderFields_append (m : String × Json) (ms : List (String × Json)) :
    (renderFields (m :: ms)).toList ++ ['}'] = memberText m ++ membersTail ms := by
  induction ms generalizing m with
  | nil => simp [renderFields, membersTail, memberText]
  | cons k ks ih =>
    rw [renderFields.eq_3 _ _ _ (by simp)]
    simp [ih, membersTail, memberText]

theorem render_arr_nil : (render (.arr [])).toList = ['[', ']'] := by
  simp [render, renderItems]

theorem render_arr_cons (j : Json) (js : List Json) :
    (render (.arr (j :: js))).toList = '[' :: ((render j).toList ++ itemsTail js) := by
  rw [← renderItems_append]
  simp [render]

theorem render_obj_nil : (render (.obj [])).toList = ['\x7b', '\x7d'] := by
  simp [render, renderFields]

theorem render_obj_cons (m : String × Json) (ms : List (String × Json)) :
    (render (.obj (m :: ms))).toList = '\x7b' :: (memberText m ++ membersTail ms) := by
  rw [← renderFields_append]
  simp [render]

theorem memberText_eq (k : String) (v : Json) :
    memberText (k, v) = '"' :: (escaped k ++ '"' :: ':' :: (render v).toList) := by
  simp [memberText, quote_toList]

/-- What a value starts with: no blank, and none of the characters that end a value. -/
def Opens (c : Char) : Prop := isSpace c = false ∧ c ≠ ',' ∧ c ≠ ']' ∧ c ≠ '\x7d'

instance (c : Char) : Decidable (Opens c) := inferInstanceAs (Decidable (_ ∧ _))

theorem opens_of_isDigitChar {c : Char} (h : isDigitChar c = true) : Opens c := by
  have hne : ∀ d : Char, isDigitChar d = false → c ≠ d := by
    rintro d hd rfl
    rw [h] at hd
    cases hd
  refine ⟨?_, hne ',' rfl, hne ']' rfl, hne '\x7d' rfl⟩
  simp only [isSpace, Bool.or_eq_false_iff, decide_eq_false_iff_not]
  exact ⟨⟨⟨hne ' ' rfl, hne '\t' rfl⟩, hne '\n' rfl⟩, hne '\r' rfl⟩

theorem NumberText.opens {t : List Char} (ht : NumberText t) :
    ∃ c cs, t = c :: cs ∧ Opens c ∧ (c = '-' ∨ isDigitChar c = true) := by
  cases ht with
  | @mk sign i f x hsign hi hf hx =>
    rcases hsign with rfl | rfl
    · cases hi with
      | zero => exact ⟨'0', _, rfl, opens_of_isDigitChar rfl, .inr rfl⟩
      | @digits d ds hd _ _ => exact ⟨d, _, rfl, opens_of_isDigitChar hd, .inr hd⟩
    · exact ⟨'-', _, rfl, by decide, .inl rfl⟩

theorem NumberText.parts {t : List Char} (ht : NumberText t) :
    ∃ sign i f x, t = sign ++ i ++ f ++ x ∧ (sign = [] ∨ sign = ['-']) ∧ IntegerPart i ∧
      FractionPart f ∧ ExponentPart x := by
  cases ht with
  | mk hsign hi hf hx => exact ⟨_, _, _, _, rfl, hsign, hi, hf, hx⟩

/-- A valid document starts with a character that opens a value, and with a sign or a digit
exactly when it is a number. -/
theorem Valid.opens {j : Json} (hj : Valid j) : ∃ c cs, (render j).toList = c :: cs ∧ Opens c ∧
    ((c = '-' || isDigitChar c) = true ↔ ∃ text, j = .num text) := by
  have hnot : ∀ {c : Char} {j : Json}, (c = '-' || isDigitChar c) = false → (∀ text, j ≠ .num text) →
      ((c = '-' || isDigitChar c) = true ↔ ∃ text, j = .num text) := by
    intro c j hc hj
    simp only [hc, Bool.false_eq_true, false_iff, not_exists]
    exact hj
  cases hj with
  | null => exact ⟨'n', ['u', 'l', 'l'], by simp [render], by decide, hnot (by decide) nofun⟩
  | bool b =>
    cases b
    · exact ⟨'f', ['a', 'l', 's', 'e'], by simp [render], by decide, hnot (by decide) nofun⟩
    · exact ⟨'t', ['r', 'u', 'e'], by simp [render], by decide, hnot (by decide) nofun⟩
  | @num text ht =>
    obtain ⟨c, cs, hcs, hc, hsign⟩ := ht.opens
    refine ⟨c, cs, by simpa [render] using hcs, hc, fun _ => ⟨text, rfl⟩, fun _ => ?_⟩
    rcases hsign with rfl | hd
    · rfl
    · simp [hd]
  | str s =>
    exact ⟨'"', escaped s ++ ['"'], by simp [render, quote_toList], by decide, hnot (by decide) nofun⟩
  | @arr items _ =>
    cases items with
    | nil => exact ⟨'[', _, render_arr_nil, by decide, hnot (by decide) nofun⟩
    | cons j js => exact ⟨'[', _, render_arr_cons j js, by decide, hnot (by decide) nofun⟩
  | @obj fields _ =>
    cases fields with
    | nil => exact ⟨'\x7b', _, render_obj_nil, by decide, hnot (by decide) nofun⟩
    | cons m ms => exact ⟨'\x7b', _, render_obj_cons m ms, by decide, hnot (by decide) nofun⟩

namespace Decoder

variable {β γ : Type}

/-! ## What follows a value -/

/-- A reader that stops at the end of a value stops there whatever follows it. -/
theorem Reads.append {d : Decoder β} {t t' : List Char} {r : Except DecodeError β}
    (h : Reads d t t' r) {T : List Char} (hT : ∀ rest, Delimited (T ++ rest)) :
    Reads d (t ++ T) (t' ++ T) r := by
  intro rest _
  rw [List.append_assoc, List.append_assoc]
  exact h (T ++ rest) (hT rest)

/-- A step whose answer is known reads on; one that may fail reads with some answer. -/
theorem Reads.bind_exists {d : Decoder β} {f : β → Decoder γ} {t t' t'' : List Char}
    {r : Except DecodeError β} (h : Reads d t t' r)
    (hf : ∀ x, r = .ok x → ∃ r', Reads (f x) t' t'' r') : ∃ r', Reads (d >>= f) t t'' r' := by
  cases r with
  | error e => exact ⟨.error e, Reads.bind_error h⟩
  | ok x =>
    obtain ⟨r', h'⟩ := hf x rfl
    exact ⟨r', Reads.bind_ok h h'⟩

/-! ## Words and numbers -/

theorem Reads.next (c : Char) (cs : List Char) : Reads next? (c :: cs) cs (.ok (some c)) :=
  fun _ _ => rfl

theorem Reads.nextOrNul (c : Char) (cs : List Char) :
    Reads Decoder.nextOrNul (c :: cs) cs (.ok c) :=
  fun _ _ => rfl

theorem Reads.peekOrNul (c : Char) (cs : List Char) :
    Reads Decoder.peekOrNul (c :: cs) (c :: cs) (.ok c) :=
  fun _ _ => rfl

/-- At the end of a value the next character is a delimiter, or NUL at the end of the text. -/
theorem Reads.peekOrNul_end {k : Char → Decoder β} {r : Except DecodeError β}
    (hk : ∀ c, (c = '\x00' ∨ c = ',' ∨ c = ']' ∨ c = '\x7d') → Reads (k c) [] [] r) :
    Reads (Decoder.peekOrNul >>= k) [] [] r := by
  intro rest hrest
  rcases hrest.cases with rfl | ⟨c, cs, rfl, hc⟩
  · exact hk '\x00' (.inl rfl) [] delimited_nil
  · exact hk c (.inr hc) (c :: cs) hrest

theorem Reads.ident (l : List Char) : Reads (Decoder.ident l) l [] (.ok ()) := by
  induction l with
  | nil => exact Reads.pure () []
  | cons e l ih =>
    refine Reads.bind_ok (Reads.next e l) ?_
    show Reads (if e = e then Decoder.ident l else Decoder.fail .expectedSomeIdent) l [] _
    rw [if_pos rfl]
    exact ih

theorem Reads.digits {ds t : List Char} (hds : ∀ d ∈ ds, isDigitChar d = true)
    (ht : ∀ rest, Delimited rest → ∀ c ∈ (t ++ rest).head?, isDigitChar c = false) :
    Reads Decoder.digits (ds ++ t) t (.ok ()) := by
  intro rest hrest
  show Except.ok ((), (ds ++ t ++ rest).dropWhile isDigitChar) = _
  rw [List.append_assoc, dropWhile_digits hds (ht rest hrest)]
  rfl

theorem Reads.digits_end {ds : List Char} (hds : ∀ d ∈ ds, isDigitChar d = true) :
    Reads Decoder.digits ds [] (.ok ()) := by
  simpa using Reads.digits (t := []) hds fun rest hrest c hc => (hrest.head c (by simpa using hc)).1

theorem Reads.ignoreExponent {e : Char} {sign ds : List Char}
    (hsign : sign = [] ∨ sign = ['+'] ∨ sign = ['-']) (hds : Digits ds) :
    Reads Decoder.ignoreExponent (e :: sign ++ ds) [] (.ok ()) := by
  obtain ⟨d, ds, rfl⟩ := List.exists_cons_of_ne_nil hds.1
  have hd : isDigitChar d = true := hds.2 d (by simp)
  have hrest : Reads Decoder.digits ds [] (.ok ()) :=
    Reads.digits_end fun c hc => hds.2 c (by simp [hc])
  -- the digits after the sign, if any
  have hdigits : Reads (do
      if isDigitChar (← Decoder.nextOrNul) then Decoder.digits
      else Decoder.fail .invalidNumber) (d :: ds) [] (.ok ()) := by
    refine Reads.bind_ok (Reads.nextOrNul d ds) ?_
    simp only [hd, if_true]
    exact hrest
  unfold Decoder.ignoreExponent
  refine Reads.bind_ok (Reads.eat e _) ?_
  rcases hsign with rfl | rfl | rfl
  · have hnot : (d = '+' || d = '-') = false := by
      simp only [Bool.or_eq_false_iff, decide_eq_false_iff_not]
      exact ⟨fun h => absurd (h ▸ hd) (by decide), fun h => absurd (h ▸ hd) (by decide)⟩
    refine Reads.bind_ok (Reads.peekOrNul d ds) ?_
    simp only [hnot, Bool.false_eq_true, if_false]
    exact hdigits
  · refine Reads.bind_ok (Reads.peekOrNul '+' _) ?_
    exact Reads.bind_ok (Reads.eat '+' _) hdigits
  · refine Reads.bind_ok (Reads.peekOrNul '-' _) ?_
    exact Reads.bind_ok (Reads.eat '-' _) hdigits

/-- The checker of a skipped number reads the whole number text after its sign. -/
theorem Reads.ignoreNumber {i f x : List Char} (hi : IntegerPart i) (hf : FractionPart f)
    (hx : ExponentPart x) : Reads Decoder.ignoreNumber (i ++ f ++ x) [] (.ok ()) := by
  obtain ⟨c, ds, rfl, hint⟩ : ∃ c ds, i = c :: ds ∧ (c = '0' ∧ ds = [] ∨
      isDigitChar c = true ∧ c ≠ '0' ∧ ∀ d ∈ ds, isDigitChar d = true) := by
    cases hi with
    | zero => exact ⟨'0', [], rfl, .inl ⟨rfl, rfl⟩⟩
    | digits hd hz hds => exact ⟨_, _, rfl, .inr ⟨hd, hz, hds⟩⟩
  have hstop := fun rest (hrest : Delimited rest) => hf.head hx hrest
  -- the end of the number: an exponent or nothing
  have hend : Reads (do
      let e ← Decoder.peekOrNul
      if e = 'e' || e = 'E' then Decoder.ignoreExponent) x [] (.ok ()) := by
    cases hx with
    | none =>
      exact Reads.peekOrNul_end fun c hc => by
        rcases hc with rfl | rfl | rfl | rfl <;> exact Reads.pure () []
    | @digits e sign eds he hsign heds =>
      refine Reads.bind_ok (Reads.peekOrNul e _) ?_
      rw [if_pos (by rcases he with rfl | rfl <;> rfl)]
      exact Reads.ignoreExponent hsign heds
  unfold Decoder.ignoreNumber
  rw [List.cons_append, List.cons_append]
  refine Reads.bind_ok (Reads.nextOrNul c _) ?_
  extract_lets fractionDigits afterInteger
  -- after the integer part: a fraction, an exponent or the end of the number
  have hafter : Reads (afterInteger ()) (f ++ x) [] (.ok ()) := by
    dsimp only [afterInteger]
    cases hf with
    | @digits fds hfds =>
      obtain ⟨d, fds, rfl⟩ := List.exists_cons_of_ne_nil hfds.1
      have hd : isDigitChar d = true := hfds.2 d (by simp)
      refine Reads.bind_ok (Reads.peekOrNul '.' _) ?_
      rw [if_pos rfl]
      refine Reads.bind_ok (Reads.eat '.' _) ?_
      refine Reads.bind_ok (Reads.peekOrNul d _) ?_
      rw [if_neg (by simp [hd])]
      dsimp only [fractionDigits]
      exact Reads.bind_ok (Reads.digits hfds.2 fun rest hrest c hc => (hx.head hrest c hc).1) hend
    | none =>
      cases hx with
      | none =>
        exact Reads.peekOrNul_end fun c hc => by
          rcases hc with rfl | rfl | rfl | rfl <;> exact Reads.pure () []
      | @digits e sign eds he hsign heds =>
        refine Reads.bind_ok (Reads.peekOrNul e _) ?_
        have hpoint : e ≠ '.' := by rcases he with rfl | rfl <;> decide
        rw [if_neg hpoint, if_pos (by rcases he with rfl | rfl <;> rfl)]
        exact Reads.ignoreExponent hsign heds
  rcases hint with ⟨rfl, rfl⟩ | ⟨hd, hz, hds⟩
  · -- a leading zero: no digit may follow it
    rw [if_pos rfl, List.nil_append]
    cases hfx : f ++ x with
    | nil =>
      rw [hfx] at hafter
      exact Reads.peekOrNul_end fun c hc => by
        have hnd : isDigitChar c = false := by rcases hc with rfl | rfl | rfl | rfl <;> rfl
        rw [if_neg (by simp [hnd])]
        exact hafter
    | cons c cs =>
      rw [hfx] at hafter hstop
      have hnd : isDigitChar c = false := hstop [] delimited_nil c (by simp)
      refine Reads.bind_ok (Reads.peekOrNul c cs) ?_
      rw [if_neg (by simp [hnd])]
      exact hafter
  · rw [if_neg hz, if_pos hd, List.append_assoc]
    exact Reads.bind_ok (Reads.digits hds fun rest hrest c hc => hstop rest hrest c
      (by simpa [List.append_assoc] using hc)) hafter

/-! ## Skipping -/

theorem itemsTail_nil : itemsTail [] = [']'] := rfl

theorem itemsTail_cons (j : Json) (js : List Json) :
    itemsTail (j :: js) = ',' :: ((render j).toList ++ itemsTail js) := by
  simp [itemsTail]

theorem membersTail_nil : membersTail [] = ['\x7d'] := rfl

theorem membersTail_cons (m : String × Json) (ms : List (String × Json)) :
    membersTail (m :: ms) = ',' :: (memberText m ++ membersTail ms) := by
  simp [membersTail]

theorem itemsTail_delimited (js : List Json) (rest : List Char) : Delimited (itemsTail js ++ rest) := by
  cases js with
  | nil => exact delimited_cons (.inr (.inl rfl))
  | cons j js => rw [itemsTail_cons]; exact delimited_cons (.inl rfl)

theorem membersTail_delimited (ms : List (String × Json)) (rest : List Char) :
    Delimited (membersTail ms ++ rest) := by
  cases ms with
  | nil => exact delimited_cons (.inr (.inr rfl))
  | cons m ms => rw [membersTail_cons]; exact delimited_cons (.inl rfl)

/-- Skipping `j` reads its whole text, given fuel for its length. -/
def SkipsWith (j : Json) : Prop :=
  ∀ fuel, (render j).toList.length < fuel →
    Reads (Decoder.ignoreValue fuel) (render j).toList [] (.ok ())

theorem Reads.ignoreItems {js : List Json} (h : ∀ j ∈ js, SkipsWith j) :
    ∀ fuel, (itemsTail js).length ≤ fuel →
      Reads (Decoder.ignoreItems fuel) (itemsTail js) [] (.ok ()) := by
  induction js with
  | nil =>
    rintro (_ | fuel) hfuel
    · simp [itemsTail_nil] at hfuel
    · rw [Decoder.ignoreItems, itemsTail_nil]
      exact Reads.bind_ok (Reads.peek (by decide)) (Reads.eat ']' [])
  | cons j js ih =>
    rintro (_ | fuel) hfuel
    · simp [itemsTail_cons] at hfuel
    · -- the item takes its own length of the fuel, and the closing bracket is left
      have hlen : (render j).toList.length + (itemsTail js).length ≤ fuel := by
        simpa [itemsTail_cons] using hfuel
      have htail : 0 < (itemsTail js).length := by simp [itemsTail]
      have hj := (h j List.mem_cons_self fuel (by omega)).append (itemsTail_delimited js)
      have hjs := ih (fun k hk => h k (List.mem_cons_of_mem j hk)) fuel (by omega)
      rw [Decoder.ignoreItems, itemsTail_cons]
      exact Reads.bind_ok (Reads.peek (by decide))
        (Reads.bind_ok (Reads.eat ',' _) (Reads.bind_ok hj hjs))

theorem Reads.ignoreMember {k : String} {v : Json} (hv : SkipsWith v) :
    ∀ fuel, (memberText (k, v)).length ≤ fuel →
      Reads (Decoder.ignoreMember fuel) (memberText (k, v)) [] (.ok ()) := by
  rintro (_ | fuel) hfuel
  · simp [memberText_eq] at hfuel
  · have hlen : (render v).toList.length < fuel := by
      simp [memberText_eq] at hfuel
      omega
    rw [Decoder.ignoreMember, memberText_eq]
    refine Reads.bind_ok (Reads.peek (by decide)) ?_
    extract_lets afterKey
    refine Reads.bind_ok (Reads.eat '"' _) (Reads.bind_ok (Reads.ignoreString k _) ?_)
    refine Reads.bind_ok (Reads.peek (by decide)) ?_
    exact Reads.bind_ok (Reads.eat ':' _) (hv fuel hlen)

theorem Reads.ignoreMembers {ms : List (String × Json)} (h : ∀ m ∈ ms, SkipsWith m.2) :
    ∀ fuel, (membersTail ms).length ≤ fuel →
      Reads (Decoder.ignoreMembers fuel) (membersTail ms) [] (.ok ()) := by
  induction ms with
  | nil =>
    rintro (_ | fuel) hfuel
    · simp [membersTail_nil] at hfuel
    · rw [Decoder.ignoreMembers, membersTail_nil]
      exact Reads.bind_ok (Reads.peek (by decide)) (Reads.eat '\x7d' [])
  | cons m ms ih =>
    obtain ⟨k, v⟩ := m
    rintro (_ | fuel) hfuel
    · simp [membersTail_cons] at hfuel
    · have hlen : (memberText (k, v)).length + (membersTail ms).length ≤ fuel := by
        simpa [membersTail_cons] using hfuel
      have htail : 0 < (membersTail ms).length := by simp [membersTail]
      have hv : SkipsWith v := h (k, v) List.mem_cons_self
      have hm := (Reads.ignoreMember (k := k) hv fuel (by omega)).append
        (membersTail_delimited ms)
      have hms := ih (fun m' hm' => h m' (List.mem_cons_of_mem _ hm')) fuel (by omega)
      rw [Decoder.ignoreMembers, membersTail_cons]
      exact Reads.bind_ok (Reads.peek (by decide))
        (Reads.bind_ok (Reads.eat ',' _) (Reads.bind_ok hm hms))

/-- Skipping a valid document reads its whole text, given fuel for its length: by induction on
the document, the items and members of a sequence or map each taking their share of the fuel. -/
theorem Reads.ignoreValue {j : Json} (hj : Valid j) : SkipsWith j := by
  induction hj with
  | null =>
    rintro (_ | fuel) hfuel
    · omega
    rw [Decoder.ignoreValue, show (render .null).toList = ['n', 'u', 'l', 'l'] by simp [render]]
    exact Reads.bind_ok (Reads.peek (by decide)) (Reads.bind_ok (Reads.eat 'n' _) (Reads.ident _))
  | bool b =>
    rintro (_ | fuel) hfuel
    · omega
    rw [Decoder.ignoreValue]
    cases b
    · rw [show (render (.bool false)).toList = ['f', 'a', 'l', 's', 'e'] by simp [render]]
      exact Reads.bind_ok (Reads.peek (by decide)) (Reads.bind_ok (Reads.eat 'f' _) (Reads.ident _))
    · rw [show (render (.bool true)).toList = ['t', 'r', 'u', 'e'] by simp [render]]
      exact Reads.bind_ok (Reads.peek (by decide)) (Reads.bind_ok (Reads.eat 't' _) (Reads.ident _))
  | @num text ht =>
    rintro (_ | fuel) hfuel
    · omega
    rw [Decoder.ignoreValue, show (render (.num text)).toList = text.toList by simp [render]]
    obtain ⟨sign, i, f, x, htext, hsign, hi, hf, hx⟩ := ht.parts
    rw [htext]
    rcases hsign with rfl | rfl
    · -- a number without sign starts with a digit, which no other kind of value starts with
      obtain ⟨c, cs, hcs, hc⟩ : ∃ c cs, i = c :: cs ∧ isDigitChar c = true := by
        cases hi with
        | zero => exact ⟨'0', [], rfl, rfl⟩
        | digits hd _ _ => exact ⟨_, _, rfl, hd⟩
      have hnum := Reads.ignoreNumber hi hf hx
      rw [hcs] at hnum ⊢
      rw [List.nil_append, List.cons_append, List.cons_append]
      rw [List.cons_append, List.cons_append] at hnum
      refine Reads.bind_ok (Reads.peek (opens_of_isDigitChar hc).1) ?_
      split <;> rename_i heq <;> cases heq
      case h_9 =>
        rw [if_pos hc]
        exact hnum
      -- a letter, a sign, a quote or a bracket is no digit
      all_goals exact absurd hc (by decide)
    · rw [List.singleton_append, List.cons_append, List.cons_append]
      exact Reads.bind_ok (Reads.peek (by decide))
        (Reads.bind_ok (Reads.eat '-' _) (Reads.ignoreNumber hi hf hx))
  | str s =>
    rintro (_ | fuel) hfuel
    · omega
    rw [Decoder.ignoreValue, show (render (.str s)).toList = '"' :: (escaped s ++ ['"']) by
      simp [render, quote_toList]]
    exact Reads.bind_ok (Reads.peek (by decide))
      (Reads.bind_ok (Reads.eat '"' _) (Reads.ignoreString s []))
  | @arr items hitems ih =>
    rintro (_ | fuel) hfuel
    · omega
    rw [Decoder.ignoreValue]
    cases items with
    | nil =>
      rw [render_arr_nil]
      exact Reads.bind_ok (Reads.peek (by decide)) (Reads.bind_ok (Reads.eat '[' _)
        (Reads.bind_ok (Reads.peek (by decide)) (Reads.eat ']' [])))
    | cons j js =>
      rw [render_arr_cons] at hfuel ⊢
      have hlen : (render j).toList.length + (itemsTail js).length < fuel := by
        simpa using hfuel
      have htail : 0 < (itemsTail js).length := by simp [itemsTail]
      have hj := (ih j List.mem_cons_self fuel (by omega)).append (itemsTail_delimited js)
      have hjs := Reads.ignoreItems (fun k hk => ih k (List.mem_cons_of_mem j hk)) fuel (by omega)
      obtain ⟨c, cs, hcs, hc, -⟩ := (hitems j List.mem_cons_self).opens
      rw [hcs] at hj
      refine Reads.bind_ok (Reads.peek (by decide)) (Reads.bind_ok (Reads.eat '[' _) ?_)
      rw [hcs]
      refine Reads.bind_ok (Reads.peek hc.1) ?_
      split <;> rename_i heq <;> cases heq
      · exact absurd rfl hc.2.2.1
      · exact Reads.bind_ok hj hjs
  | @obj fields _ ih =>
    rintro (_ | fuel) hfuel
    · omega
    rw [Decoder.ignoreValue]
    cases fields with
    | nil =>
      rw [render_obj_nil]
      exact Reads.bind_ok (Reads.peek (by decide)) (Reads.bind_ok (Reads.eat '\x7b' _)
        (Reads.bind_ok (Reads.peek (by decide)) (Reads.eat '\x7d' [])))
    | cons m ms =>
      obtain ⟨k, v⟩ := m
      rw [render_obj_cons] at hfuel ⊢
      have hlen : (memberText (k, v)).length + (membersTail ms).length < fuel := by
        simpa using hfuel
      have htail : 0 < (membersTail ms).length := by simp [membersTail]
      have hv : SkipsWith v := ih (k, v) List.mem_cons_self
      have hm := (Reads.ignoreMember (k := k) hv fuel (by omega)).append (membersTail_delimited ms)
      have hms := Reads.ignoreMembers (fun m hm => ih m (List.mem_cons_of_mem _ hm)) fuel (by omega)
      refine Reads.bind_ok (Reads.peek (by decide)) (Reads.bind_ok (Reads.eat '\x7b' _) ?_)
      rw [memberText_eq] at hm ⊢
      refine Reads.bind_ok (Reads.peek (by decide)) ?_
      exact Reads.bind_ok hm hms

/-- Skipping a value reads exactly its text. -/
theorem Reads.skip {j : Json} (hj : Valid j) : Reads Decoder.skip (render j).toList [] (.ok ()) := by
  intro rest hrest
  exact Reads.ignoreValue hj ((render j).toList ++ rest).length.succ (by simp) rest hrest

/-! ## A value of another kind -/

/-- Describing a value of another kind reads it, up to its end when it is a word, a string or
a number, and fails only as the reading of a number fails. -/
theorem Reads.invalidType (expected : String) {j : Json} (hj : Valid j) :
    ∃ r t', Reads (Decoder.invalidType expected) (render j).toList t' r := by
  rw [Decoder.invalidType]
  cases hj with
  | null =>
    rw [show (render .null).toList = ['n', 'u', 'l', 'l'] by simp [render]]
    exact ⟨_, _, Reads.bind_ok (Reads.peek (by decide)) (Reads.bind_ok (Reads.eat 'n' _)
      (Reads.bind_ok (Reads.ident _) (Reads.pure _ _)))⟩
  | bool b =>
    cases b
    · rw [show (render (.bool false)).toList = ['f', 'a', 'l', 's', 'e'] by simp [render]]
      exact ⟨_, _, Reads.bind_ok (Reads.peek (by decide)) (Reads.bind_ok (Reads.eat 'f' _)
        (Reads.bind_ok (Reads.ident _) (Reads.pure _ _)))⟩
    · rw [show (render (.bool true)).toList = ['t', 'r', 'u', 'e'] by simp [render]]
      exact ⟨_, _, Reads.bind_ok (Reads.peek (by decide)) (Reads.bind_ok (Reads.eat 't' _)
        (Reads.bind_ok (Reads.ident _) (Reads.pure _ _)))⟩
  | @num text ht =>
    obtain ⟨c, cs, hcs, hc, hsign⟩ := ht.opens
    obtain ⟨r, hr⟩ := Reads.number ht
    rw [show (render (.num text)).toList = text.toList by simp [render]]
    rw [hcs] at hr ⊢
    obtain ⟨r', hr'⟩ := Reads.bind_exists (f := fun n => (Pure.pure
      (DecodeError.invalidType n.unexpected expected) : Decoder DecodeError)) hr
      fun n _ => ⟨_, Reads.pure _ []⟩
    refine ⟨r', [], Reads.bind_ok (Reads.peek hc.1) ?_⟩
    -- a sign or a digit: none of the characters that open another kind of value
    split <;> rename_i heq <;> cases heq
    case h_8 =>
      rw [if_pos (by rcases hsign with rfl | hd <;> simp [*])]
      exact hr'
    all_goals exact absurd hsign (by decide)
  | str s =>
    rw [show (render (.str s)).toList = '"' :: (escaped s ++ ['"']) by simp [render, quote_toList]]
    exact ⟨_, _, Reads.bind_ok (Reads.peek (by decide)) (Reads.bind_ok (Reads.eat '"' _)
      (Reads.bind_ok (Reads.string s []) (Reads.pure _ _)))⟩
  | @arr items _ =>
    obtain ⟨cs, hcs⟩ : ∃ cs, (render (.arr items)).toList = '[' :: cs := by
      cases items with
      | nil => exact ⟨_, render_arr_nil⟩
      | cons j js => exact ⟨_, render_arr_cons j js⟩
    rw [hcs]
    exact ⟨_, _, Reads.bind_ok (Reads.peek (by decide)) (Reads.pure _ _)⟩
  | @obj fields _ =>
    obtain ⟨cs, hcs⟩ : ∃ cs, (render (.obj fields)).toList = '\x7b' :: cs := by
      cases fields with
      | nil => exact ⟨_, render_obj_nil⟩
      | cons m ms => exact ⟨_, render_obj_cons m ms⟩
    rw [hcs]
    exact ⟨_, _, Reads.bind_ok (Reads.peek (by decide)) (Reads.pure _ _)⟩

/-- The error for a value of another kind is given whatever follows the value. -/
theorem Reads.throwInvalidType (expected : String) {j : Json} (hj : Valid j) :
    ∃ e, Reads (do MonadExcept.throw (← Decoder.invalidType expected) : Decoder β)
      (render j).toList [] (.error e) := by
  obtain ⟨r, t', h⟩ := Reads.invalidType expected hj
  cases r with
  | ok e => exact ⟨e, Reads.bind_ok h (Reads.throw e _ _)⟩
  | error e => exact ⟨e, Reads.bind_error h⟩

/-- The reader of a number reads every valid document whole: a number, or any other value
refused with its kind. -/
theorem Reads.expectNumber (expected : String) {j : Json} (hj : Valid j) :
    ∃ r, Reads (Decoder.expectNumber expected) (render j).toList [] r := by
  obtain ⟨c, cs, hcs, hc, hnum⟩ := hj.opens
  obtain ⟨e, hthrow⟩ := Reads.throwInvalidType (β := Number) expected hj
  rw [Decoder.expectNumber]
  rw [hcs] at hthrow ⊢
  by_cases hsign : (c = '-' || isDigitChar c) = true
  · obtain ⟨text, rfl⟩ := hnum.1 hsign
    have ht : NumberText text.toList := by cases hj; assumption
    obtain ⟨r, hr⟩ := Reads.number ht
    have htext : text.toList = c :: cs := by simpa [render] using hcs
    rw [htext] at hr
    exact ⟨r, Reads.bind_ok (Reads.peek hc.1) (by dsimp only; rw [if_pos hsign]; exact hr)⟩
  · exact ⟨_, Reads.bind_ok (Reads.peek hc.1) (by dsimp only; rw [if_neg hsign]; exact hthrow)⟩

/-- A number whose text scans as `r` is read by the reader of numbers with that answer. -/
theorem Reads.expectNumber_of_scans (expected : String) {t : List Char} (ht : NumberText t)
    {r : Except NumberError Number} (hr : Scans readNumber t r) :
    Reads (Decoder.expectNumber expected) t [] (r.mapError fun e => .malformed e.toFault) := by
  obtain ⟨c, cs, rfl, hc, hsign⟩ := ht.opens
  rw [Decoder.expectNumber]
  refine Reads.bind_ok (Reads.peek hc.1) ?_
  dsimp only
  rw [if_pos (by rcases hsign with rfl | hd <;> simp [*])]
  intro rest hrest
  show (readNumber (c :: cs ++ rest)).mapError _ = _
  rw [hr rest hrest]
  cases r <;> rfl

end Decoder

end Json
end Dimensional
