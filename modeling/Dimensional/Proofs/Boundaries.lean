import Dimensional.Proofs.Utf8

/-!
# Slicing quantity text on character boundaries

The readers of quantity text at the level of UTF-8 bytes: offsets counted in bytes, slices by
`Utf8.cut?` (none off a character boundary), checked byte arithmetic and table lookups. Each
gives `some` of what the reader of characters gives, on every input (`slices_on_char_boundaries`).
-/

namespace Dimensional

open String (utf8Len)

namespace Magnitude

/-! ## The number, scanned byte by byte -/

/-- Each byte read as the character with the same code. The scan of the number only tests for
ASCII characters, so run over these characters it makes the tests it makes on the bytes. -/
def latin1 (bs : List UInt8) : List Char := bs.map fun b => Char.ofNat b.toNat

/-- Length in bytes of the number at the head of a text: the number's scan over the text's
bytes. -/
def prefixBytes (text : String) : Nat := prefixLength (latin1 (Utf8.bytes text))

theorem latin1_encode_ascii {c : Char} (hc : c.toNat < 128) (rest : List UInt8) :
    latin1 (String.utf8EncodeChar c ++ rest) = c :: latin1 rest := by
  have hbyte : c.toUInt8.toNat = c.toNat := by
    rw [← Char.toUInt8_val, UInt32.toNat_toUInt8]
    exact Nat.mod_eq_of_lt (by change c.toNat < 2 ^ 8; omega)
  rw [String.utf8EncodeChar_eq_singleton (utf8Size_of_ascii hc), Char.toUInt8_val,
    List.singleton_append, latin1, List.map_cons, hbyte, Char.ofNat_toNat]
  rfl

theorem latin1_encode_head {c : Char} (hc : 128 ≤ c.toNat) (rest : List UInt8) :
    ∃ d r, latin1 (String.utf8EncodeChar c ++ rest) = d :: r ∧ 128 ≤ d.toNat := by
  have hlead : ∃ b bs, String.utf8EncodeChar c = b :: bs ∧ 128 ≤ b.toNat ∧ b.toNat < 256 := by
    have hv : c.val.toNat = c.toNat := rfl
    dsimp only [String.utf8EncodeChar]
    split_ifs
    · omega
    -- the lead byte of two, three and four bytes is `110…`, `1110…` and `11110…`
    all_goals refine ⟨_, _, rfl, ?_⟩
    all_goals simp only [UInt8.toNat_ofNat']
    all_goals omega
  obtain ⟨b, bs, hb, hlo, hhi⟩ := hlead
  refine ⟨Char.ofNat b.toNat, latin1 (bs ++ rest), by rw [hb]; rfl, ?_⟩
  rw [Char.toNat_ofNat, if_pos (Or.inl (by omega))]
  exact hlo

theorem prefix_latin1_iff {q : List Char} (hq : ∀ c ∈ q, c.toNat < 128) (cs : List Char) :
    q <+: latin1 (cs.flatMap String.utf8EncodeChar) ↔ q <+: cs := by
  induction q generalizing cs with
  | nil => simp
  | cons a q ih =>
    have ha : a.toNat < 128 := hq a (List.mem_cons_self ..)
    have hq' : ∀ c ∈ q, c.toNat < 128 := fun c hc => hq c (List.mem_cons_of_mem a hc)
    cases cs with
    | nil => simp [latin1]
    | cons c cs =>
      rw [List.flatMap_cons]
      by_cases hc : c.toNat < 128
      · rw [latin1_encode_ascii hc, List.cons_prefix_cons, List.cons_prefix_cons, ih hq']
      · obtain ⟨d, r, hdr, hd⟩ := latin1_encode_head (Nat.le_of_not_lt hc)
          (cs.flatMap String.utf8EncodeChar)
        have had : a ≠ d := fun h => by rw [h] at ha; omega
        have hac : a ≠ c := fun h => by rw [h] at ha; omega
        rw [hdr, List.cons_prefix_cons, List.cons_prefix_cons]
        simp [had, hac]

theorem prefixLength_le_of_prefixes {xs ys : List Char}
    (h : ∀ q, (∀ c ∈ q, c.toNat < 128) → q <+: xs → q <+: ys) (hx : prefixLength xs ≠ 0) :
    prefixLength xs ≤ prefixLength ys := by
  obtain ⟨hle, hnum⟩ := numberShape_take_prefixLength hx
  obtain ⟨r, hr⟩ := h _ (hnum.ascii fun _ => ascii_of_isDigitOrUnderscore) (List.take_prefix _ _)
  have := length_le_prefixLength hnum r
  rwa [hr, List.length_take_of_le hle] at this

/-- The scan of bytes finds the number the scan of characters finds. -/
theorem prefixBytes_eq (text : String) : prefixBytes text = prefixLength text.toList := by
  have hiff := fun (q : List Char) (hq : ∀ c ∈ q, c.toNat < 128) => prefix_latin1_iff hq text.toList
  rw [prefixBytes, Utf8.bytes_eq]
  have h₁ := fun hx => prefixLength_le_of_prefixes (fun q hq => (hiff q hq).mp) hx
  have h₂ := fun hy => prefixLength_le_of_prefixes (fun q hq => (hiff q hq).mpr) hy
  omega

theorem cut?_prefixLength (cs : List Char) :
    Utf8.cut? cs (prefixLength cs) = some (cs.take (prefixLength cs), cs.drop (prefixLength cs)) := by
  have h := Utf8.cut?_append (cs.take (prefixLength cs)) (cs.drop (prefixLength cs))
  rwa [List.take_append_drop, ← String.utf8ByteSize_ofList, utf8ByteSize_take_prefixLength] at h

theorem isValid_prefixBytes (text : String) : String.Pos.Raw.IsValid text ⟨prefixBytes text⟩ := by
  rw [← Utf8.cut?_isSome_iff, prefixBytes_eq, cut?_prefixLength]
  rfl

/-! ## Splitting off the number -/

/-- Quantity text split into its number and its signature, slicing the trimmed text at the end
of the number, or at its first blank when no number heads it; `none` where that slice would split
a character. -/
def splitBytes (text : String) : Option (Except ParseError (Double × String)) :=
  let cs := Text.trimBlanks text.toList
  if cs.isEmpty then some (.error .empty)
  else
    let n := prefixBytes (String.ofList cs)
    let stop := if n = 0 then (Utf8.find? Text.isBlank cs).getD (utf8Len cs) else n
    (Utf8.cut? cs stop).map fun p =>
      (Decimal.readFloat? .double (String.ofList (p.1.filter (· ≠ '_')))).elim
        (.error (.invalidNumber (String.ofList p.1)))
        fun bits => .ok (Double.ofBits bits, Text.trim (String.ofList p.2))

theorem cut?_splitText (cs : List Char) :
    Utf8.cut? cs (if prefixBytes (String.ofList cs) = 0 then
        (Utf8.find? Text.isBlank cs).getD (utf8Len cs) else prefixBytes (String.ofList cs)) =
      some (splitText cs) := by
  rw [prefixBytes_eq, String.toList_ofList]
  by_cases h : prefixLength cs = 0
  · rw [if_pos h, Utf8.find?_getD, splitText_of_eq_zero h]
    have hcut := Utf8.cut?_append (cs.takeWhile fun c => !Text.isBlank c)
      (cs.dropWhile fun c => !Text.isBlank c)
    rwa [List.takeWhile_append_dropWhile] at hcut
  · rw [if_neg h, splitText_of_ne_zero h, cut?_prefixLength]

/-- Splitting quantity text slices it only on character boundaries. -/
theorem splitBytes_eq (text : String) : splitBytes text = some (split text) := by
  unfold splitBytes split
  by_cases hempty : (Text.trimBlanks text.toList).isEmpty
  · rw [if_pos hempty, if_pos hempty]
  · rw [if_neg hempty, if_neg hempty]
    dsimp only
    rw [cut?_splitText, Option.map_some]
    obtain ⟨number, rest⟩ := splitText (Text.trimBlanks text.toList)
    simp only [Text.trim, String.toList_ofList]
    cases Decimal.readFloat? .double (String.ofList (number.filter (· ≠ '_'))) <;> rfl

end Magnitude

namespace Signature

/-! ## Reading a term -/

/-- The ASCII form of a superscript character: for a superscript digit, the byte of `0` plus the
digit's place in the table; `-` for any other character. `none` where that sum leaves the byte. -/
def asciiOfSuperscript (c : Char) : Option Char :=
  (superscriptDigits.idxOf? c).elim (some '-') fun d =>
    (Utf8.addByte? '0'.toUInt8 d.toUInt8).map fun b => Char.ofNat b.toNat

def superscriptPowerBytes (text : String) : Option (Except Fault Int32) :=
  (text.toList.mapM asciiOfSuperscript).map fun ascii =>
    (Decimal.readInt32? (String.ofList ascii)).elim (.error (.badSuperscript text)) .ok

/-- A word split before its trailing ASCII digits, one byte further back when a `-` stands right
before them, the digits read as the power; the whole word to the power one when it does not end
in a digit. `none` where a slice would split a character or the step back would pass the start of
the word. -/
def trailingPowerBytes (word : String) : Option (Except Fault (String × Int32)) :=
  (Utf8.runStart? Decimal.isDigit word.toList).elim (some (.ok (word, 1))) fun start =>
    (Utf8.cut? word.toList start).bind fun p =>
      (if p.1.getLast? = some '-' then Utf8.pred? start else some start).bind fun start =>
        (Utf8.cut? word.toList start).map fun q =>
          (Decimal.readInt32? (String.ofList q.2)).elim (.error (.badExponentIn word))
            fun n => .ok (String.ofList q.1, n)

/-- The symbol and power a word states, slicing the word at byte offsets: around its first `^`;
else before its trailing run of superscript characters; else nowhere when it is a registered
symbol; else as `trailingPowerBytes` does. -/
def splitWordBytes (isSymbol : String → Bool) (word : String) :
    Option (Except Fault (String × Int32)) :=
  (Utf8.find? (· == '^') word.toList).elim
    ((Utf8.runStart? isSuperscript word.toList).elim
      (if isSymbol word then some (.ok (word, 1)) else trailingPowerBytes word)
      fun start => (Utf8.cut? word.toList start).bind fun p =>
        (superscriptPowerBytes (String.ofList p.2)).map fun r => r.map fun n => (String.ofList p.1, n))
    fun i => (Utf8.cut? word.toList i).bind fun p =>
      (Utf8.cut? word.toList (i + '^'.utf8Size)).map fun q =>
        (Decimal.readInt32? (String.ofList q.2)).elim (.error (.badExponentIn word))
          fun n => .ok (String.ofList p.1, n)

def termBytes (isSymbol : String → Bool) (word : String) : Option (Except Fault Term) :=
  (splitWordBytes isSymbol word).map fun r =>
    r.bind fun p =>
      if p.1.isEmpty then .error (.missingSymbol word)
      else if p.2 = 0 then .error (.zeroExponent word)
      else .ok ⟨p.1, p.2⟩

theorem asciiOfSuperscript_eq (c : Char) : asciiOfSuperscript c = some (fromSuperscript c) := by
  unfold asciiOfSuperscript fromSuperscript
  cases h : superscriptDigits.idxOf? c with
  | none => rfl
  | some d =>
    obtain ⟨hd, -⟩ := List.idxOf?_eq_some_iff.mp h
    have hd' : d < 10 := hd
    have hsum : ('0'.toUInt8).toNat + d.toUInt8.toNat = 48 + d := by
      rw [Nat.toUInt8, UInt8.toNat_ofNat']
      have : d % 2 ^ 8 = d := Nat.mod_eq_of_lt (by omega)
      rw [this]
      rfl
    have hbyte : ('0'.toUInt8 + d.toUInt8).toNat = 48 + d := by
      rw [UInt8.toNat_add, hsum]
      exact Nat.mod_eq_of_lt (by omega)
    rw [Option.elim_some, Utf8.addByte?, if_pos (by omega), Option.map_some, hbyte]
    rfl

theorem mapM_asciiOfSuperscript (cs : List Char) :
    cs.mapM asciiOfSuperscript = some (cs.map fromSuperscript) := by
  have h : asciiOfSuperscript = fun c => pure (fromSuperscript c) := funext asciiOfSuperscript_eq
  rw [h, List.mapM_pure]
  rfl

theorem cut?_minus {cs stem digits : List Char} (happ : stem ++ digits = cs)
    (hminus : stem.getLast? = some '-') :
    Utf8.pred? (utf8Len stem) = some (utf8Len stem.dropLast) ∧
      Utf8.cut? cs (utf8Len stem.dropLast) = some (stem.dropLast, '-' :: digits) := by
  have hstem : stem.dropLast ++ ['-'] = stem := List.dropLast_append_getLast? '-' hminus
  have hlen : utf8Len stem = utf8Len stem.dropLast + 1 := by
    conv_lhs => rw [← hstem]
    rw [String.utf8Len_append]
    rfl
  have hcs : cs = stem.dropLast ++ '-' :: digits := by
    rw [← happ]
    conv_lhs => rw [← hstem]
    simp
  refine ⟨?_, ?_⟩
  · rw [Utf8.pred?, if_pos (by omega)]
    congr 1
    omega
  · rw [hcs]
    exact Utf8.cut?_append _ _

theorem trailingPowerBytes_of_digits {word : String} {stem digits : List Char}
    (h : splitTrailing Decimal.isDigit word.toList = (stem, digits)) (hne : digits ≠ []) :
    trailingPowerBytes word =
      some ((Decimal.readInt32? (String.ofList (if stem.getLast? = some '-' then '-' :: digits
          else digits))).elim (.error (.badExponentIn word))
        fun n =>
          .ok (String.ofList (if stem.getLast? = some '-' then stem.dropLast else stem), n)) := by
  have hcut := Utf8.cut?_splitTrailing Decimal.isDigit word.toList
  have happ := Utf8.splitTrailing_append_self Decimal.isDigit word.toList
  rw [h] at hcut happ
  unfold trailingPowerBytes
  rw [Utf8.runStart?_eq, h]
  dsimp only at hcut happ ⊢
  rw [if_neg hne, Option.elim_some, hcut, Option.bind_some]
  by_cases hminus : stem.getLast? = some '-'
  · obtain ⟨hpred, hback⟩ := cut?_minus happ hminus
    rw [if_pos hminus, hpred, Option.bind_some, hback, Option.map_some, if_pos hminus,
      if_pos hminus]
  · rw [if_neg hminus, Option.bind_some, hcut, Option.map_some, if_neg hminus, if_neg hminus]

theorem trailingPowerBytes_isSome (word : String) : (trailingPowerBytes word).isSome := by
  by_cases hne : (splitTrailing Decimal.isDigit word.toList).2 = []
  · unfold trailingPowerBytes
    rw [Utf8.runStart?_eq, if_pos hne]
    rfl
  · rw [trailingPowerBytes_of_digits rfl hne]
    rfl

theorem find?_caret_eq_none {word : String} (h : '^' ∉ word.toList) :
    Utf8.find? (· == '^') word.toList = none :=
  Utf8.find?_eq_none fun c hc => by
    have : c ≠ '^' := fun hc' => h (hc' ▸ hc)
    simpa using this

theorem splitWordBytes_of_caret {isSymbol : String → Bool} {word : String}
    (hmem : '^' ∈ word.toList) :
    splitWordBytes isSymbol word = some (splitWord isSymbol word) := by
  obtain ⟨after, hdrop⟩ : ∃ after,
      word.toList.dropWhile (fun c => !(c == '^')) = '^' :: after := by
    have hhead := List.head?_dropWhile_not (fun c => !(c == '^')) word.toList
    cases hd : word.toList.dropWhile (fun c => !(c == '^')) with
    | nil =>
      have := List.dropWhile_eq_nil_iff.mp hd '^' hmem
      simp at this
    | cons c rest =>
      rw [hd] at hhead
      exact ⟨rest, by simpa using hhead⟩
  have hword : word.toList = word.toList.takeWhile (fun c => !(c == '^')) ++ '^' :: after := by
    rw [← hdrop, List.takeWhile_append_dropWhile]
  have hbefore := Utf8.cut?_append (word.toList.takeWhile (fun c => !(c == '^'))) ('^' :: after)
  have hafter := Utf8.cut?_append (word.toList.takeWhile (fun c => !(c == '^')) ++ ['^']) after
  rw [← hword] at hbefore
  rw [List.append_assoc, List.singleton_append, ← hword, String.utf8Len_append,
    show utf8Len ['^'] = '^'.utf8Size from rfl] at hafter
  have hp : (fun c => decide (c ≠ '^')) = (fun c => !(c == '^')) := by
    funext c
    by_cases h : c = '^' <;> simp [h]
  unfold splitWordBytes splitWord
  rw [Utf8.find?_of_mem hmem (by decide), Option.elim_some, hbefore, Option.bind_some, hafter,
    Option.map_some, if_pos (List.elem_eq_true_of_mem hmem), hp, hdrop, List.drop_succ_cons,
    List.drop_zero]
  dsimp only
  cases Decimal.readInt32? (String.ofList after) <;> rfl

theorem splitWordBytes_of_superscript {isSymbol : String → Bool} {word : String}
    (hcaret : '^' ∉ word.toList) (hsup : (splitTrailing isSuperscript word.toList).2 ≠ []) :
    splitWordBytes isSymbol word = some (splitWord isSymbol word) := by
  have hcut := Utf8.cut?_splitTrailing isSuperscript word.toList
  unfold splitWordBytes splitWord
  rw [find?_caret_eq_none hcaret, Option.elim_none, Utf8.runStart?_eq, if_neg hsup,
    Option.elim_some]
  dsimp only
  rw [if_neg (by simpa using hcaret)]
  generalize splitTrailing isSuperscript word.toList = st at hcut hsup ⊢
  obtain ⟨stem, run⟩ := st
  dsimp only at hcut hsup ⊢
  have hrun : (!run.isEmpty) = true := by simpa using hsup
  rw [hcut, Option.bind_some, if_pos hrun, superscriptPowerBytes, String.toList_ofList,
    mapM_asciiOfSuperscript, Option.map_some, Option.map_some]
  cases Decimal.readInt32? (String.ofList (run.map fromSuperscript)) <;> rfl

theorem splitWordBytes_of_plain {isSymbol : String → Bool} {word : String}
    (hcaret : '^' ∉ word.toList) (hsup : (splitTrailing isSuperscript word.toList).2 = []) :
    splitWordBytes isSymbol word = some (splitWord isSymbol word) := by
  have hlhs : splitWordBytes isSymbol word =
      if isSymbol word then some (.ok (word, 1)) else trailingPowerBytes word := by
    unfold splitWordBytes
    rw [find?_caret_eq_none hcaret, Option.elim_none, Utf8.runStart?_eq, if_pos hsup,
      Option.elim_none]
  rw [hlhs]
  cases hsym : isSymbol word
  · -- the reader of characters cuts off the same trailing digits
    rw [if_neg Bool.false_ne_true]
    unfold splitWord
    simp only [hcaret, hsup, hsym, List.contains_eq_mem, decide_false, List.isEmpty_nil,
      Bool.not_true, Bool.false_eq_true, if_false]
    rcases hsplit : splitTrailing Decimal.isDigit word.toList with ⟨stem, digits⟩
    by_cases hne : digits = []
    · subst hne
      unfold trailingPowerBytes
      rw [Utf8.runStart?_eq, hsplit]
      rfl
    · rw [trailingPowerBytes_of_digits hsplit hne]
      simp only [List.isEmpty_iff, hne, if_false]
      by_cases hminus : stem.getLast? = some '-'
      · simp only [hminus, if_true]
        cases Decimal.readInt32? (String.ofList ('-' :: digits)) <;> rfl
      · simp only [hminus, if_false]
        cases Decimal.readInt32? (String.ofList digits) <;> rfl
  · rw [if_pos rfl]
    simp [splitWord, hcaret, hsup, hsym]

theorem splitWordBytes_eq (isSymbol : String → Bool) (word : String) :
    splitWordBytes isSymbol word = some (splitWord isSymbol word) := by
  by_cases hcaret : '^' ∈ word.toList
  · exact splitWordBytes_of_caret hcaret
  by_cases hsup : (splitTrailing isSuperscript word.toList).2 = []
  · exact splitWordBytes_of_plain hcaret hsup
  · exact splitWordBytes_of_superscript hcaret hsup

theorem termBytes_eq (isSymbol : String → Bool) (word : String) :
    termBytes isSymbol word = some (Term.ofWord isSymbol word) := by
  rw [termBytes, splitWordBytes_eq, Option.map_some]
  unfold Term.ofWord
  cases splitWord isSymbol word with
  | error fault => rfl
  | ok p => rfl

/-! ## The loop over a signature -/

/-- The state of the loop that reads a signature: the terms read so far, the operator that waits
for its term, and the text still to read. -/
structure Reading where
  terms : List Term
  pending : Option Char
  rest : List Char

namespace Reading

variable (isSymbol : String → Bool)

def finish (s : Reading) : Except Fault (List Term) :=
  s.pending.elim (.ok s.terms) fun op => .error (.dangling op)

/-- The loop after a word read as `r`, with `rest` left to read: the word's fault ends the loop;
else its term, negated after `/`, is added and the operator is used up. -/
def afterWord (s : Reading) (r : Except Fault Term) (rest : List Char) :
    Except Fault (List Term ⊕ Reading) :=
  r.bind fun t =>
    if s.pending = some '/' then
      (checkedNeg t.power).elim (.error .exponentOverflow) fun power =>
        .ok (.inr ⟨s.terms ++ [{ t with power := power }], none, rest⟩)
    else .ok (.inr ⟨s.terms ++ [t], none, rest⟩)

/-- One pass of the loop. It skips the blanks at the head of the text; or takes the operator
there, sliced off by its width in bytes; or reads the word there, sliced off at the next blank or
operator, as a term. `none` where a slice would split a character; else a fault, the terms when
the text is read (`.inl`), or the state the loop goes on from (`.inr`). -/
def step (s : Reading) : Option (Except Fault (List Term ⊕ Reading)) :=
  match s with
  | ⟨terms, pending, []⟩ => some ((finish ⟨terms, pending, []⟩).map .inl)
  | ⟨terms, pending, first :: more⟩ =>
    if Text.isBlank first then some (.ok (.inr ⟨terms, pending, Text.dropBlanks (first :: more)⟩))
    else if isOperator first then
      if terms.isEmpty || pending.isSome then some (.error (.unexpected first))
      else (Utf8.cut? (first :: more) first.utf8Size).map fun p => .ok (.inr ⟨terms, some first, p.2⟩)
    else
      let stop := (Utf8.find? (fun c => Text.isBlank c || isOperator c) (first :: more)).getD
        (utf8Len (first :: more))
      (Utf8.cut? (first :: more) stop).bind fun p =>
        (termBytes isSymbol (String.ofList p.1)).map fun r =>
          afterWord ⟨terms, pending, first :: more⟩ r p.2

/-- What reading the rest of the text gives, after the terms read so far: the answer the loop has
to reach from this state. -/
def answer (s : Reading) : Except Fault (List Term) :=
  (collect isSymbol (!s.terms.isEmpty) s.pending (Item.scan s.rest)).map (s.terms ++ ·)

variable {isSymbol}

theorem step_blank {terms : List Term} {pending : Option Char} {c : Char} {cs : List Char}
    (hc : Text.isBlank c = true) :
    step isSymbol ⟨terms, pending, c :: cs⟩ =
      some (.ok (.inr ⟨terms, pending, Text.dropBlanks (c :: cs)⟩)) := by
  simp [step, hc]

theorem step_op {terms : List Term} {pending : Option Char} {c : Char} {cs : List Char}
    (hc : isOperator c = true) :
    step isSymbol ⟨terms, pending, c :: cs⟩ =
      some (if terms.isEmpty || pending.isSome then .error (.unexpected c)
        else .ok (.inr ⟨terms, some c, cs⟩)) := by
  have hcut := Utf8.cut?_append [c] cs
  rw [List.singleton_append, String.utf8Len_cons, String.utf8Len_nil, Nat.zero_add] at hcut
  simp only [step, not_isBlank_of_isOperator hc, hc, Bool.false_eq_true, if_false, if_true]
  split
  · rfl
  · rw [hcut]
    rfl

theorem step_word {terms : List Term} {pending : Option Char} {c : Char} {cs : List Char}
    (hc : isWordChar c = true) :
    step isSymbol ⟨terms, pending, c :: cs⟩ =
      some (afterWord ⟨terms, pending, c :: cs⟩
        (Term.ofWord isSymbol (String.ofList (c :: cs.takeWhile isWordChar))) (cs.dropWhile isWordChar)) := by
  have hword : (c :: cs).takeWhile (fun c => !(Text.isBlank c || isOperator c)) =
      c :: cs.takeWhile isWordChar := List.takeWhile_cons_of_pos hc
  have hrest : (c :: cs).dropWhile (fun c => !(Text.isBlank c || isOperator c)) =
      cs.dropWhile isWordChar := List.dropWhile_cons_of_pos hc
  have hcut := Utf8.cut?_append ((c :: cs).takeWhile fun c => !(Text.isBlank c || isOperator c))
    ((c :: cs).dropWhile fun c => !(Text.isBlank c || isOperator c))
  rw [List.takeWhile_append_dropWhile, hrest, hword] at hcut
  simp only [isWordChar, Bool.not_eq_true', Bool.or_eq_false_iff] at hc
  simp only [step, hc.1, hc.2, Bool.false_eq_true, if_false]
  rw [Utf8.find?_getD, hword, hcut, Option.bind_some, termBytes_eq, Option.map_some]

theorem afterWord_spec {terms : List Term} {pending : Option Char} {c : Char} {cs : List Char}
    (hword : isWordChar c = true) :
    let s : Reading := ⟨terms, pending, c :: cs⟩
    let next := s.afterWord (Term.ofWord isSymbol (String.ofList (c :: cs.takeWhile isWordChar)))
      (cs.dropWhile isWordChar)
    next = (s.answer isSymbol).map .inl ∨
      ∃ s', next = .ok (.inr s') ∧ s'.answer isSymbol = s.answer isSymbol ∧
        s'.rest = cs.dropWhile isWordChar := by
  intro s next
  have hstarted : ∀ t : Term, (!(terms ++ [t]).isEmpty) = true := fun t => by
    cases terms <;> rfl
  simp only [s, next, answer, @scan_word c cs hword, collect_word]
  cases Term.ofWord isSymbol (String.ofList (c :: cs.takeWhile isWordChar)) with
  | error fault => left; rfl
  | ok t =>
    by_cases hslash : pending = some '/'
    · cases hneg : checkedNeg t.power with
      | none => left; simp [afterWord, hslash, hneg, Except.map, Except.bind]
      | some power =>
        right
        refine ⟨⟨terms ++ [{ t with power := power }], none, cs.dropWhile isWordChar⟩,
          by simp [afterWord, hslash, hneg, Except.bind], ?_, rfl⟩
        simp only [hstarted]
        cases collect isSymbol true none (Item.scan (cs.dropWhile isWordChar)) <;>
          simp [hslash, hneg, Except.map]
    · right
      refine ⟨⟨terms ++ [t], none, cs.dropWhile isWordChar⟩,
        by simp [afterWord, hslash, Except.bind], ?_, rfl⟩
      simp only [hstarted]
      cases collect isSymbol true none (Item.scan (cs.dropWhile isWordChar)) <;>
        simp [hslash, Except.map]

/-- One pass of the loop gives the answer, or goes on from a shorter text with the same answer
to reach: the loop is sliced only on character boundaries and keeps its answer. -/
theorem step_spec (s : Reading) :
    s.step isSymbol = some ((s.answer isSymbol).map .inl) ∨
      ∃ s', s.step isSymbol = some (.ok (.inr s')) ∧ s'.answer isSymbol = s.answer isSymbol ∧
        s'.rest.length < s.rest.length := by
  obtain ⟨terms, pending, rest⟩ := s
  cases rest with
  | nil =>
    left
    cases pending <;> simp [step, finish, answer, Item.scan, collect, Except.map]
  | cons c cs =>
    by_cases hblank : Text.isBlank c = true
    · -- blanks are skipped, and the items of the text stay the same
      have hdrop : Text.dropBlanks (c :: cs) = Text.dropBlanks cs := List.dropWhile_cons_of_pos hblank
      have hlen : (Text.dropBlanks cs).length ≤ cs.length := (List.dropWhile_sublist _).length_le
      refine .inr ⟨_, step_blank hblank, ?_, ?_⟩
      · simp only [answer, scan_dropBlanks]
      · simp only [hdrop, List.length_cons]
        omega
    by_cases hop : isOperator c = true
    · rw [step_op hop]
      have hscan : Item.scan (c :: cs) = .op c :: Item.scan cs := scan_op hop
      by_cases hfault : terms.isEmpty || pending.isSome
      · left
        rw [if_pos hfault]
        simp only [answer, hscan, collect, Bool.not_not, hfault, if_true]
        rfl
      · right
        rw [if_neg hfault]
        refine ⟨_, rfl, ?_, by simp⟩
        simp only [answer, hscan, collect, Bool.not_not, hfault, Bool.false_eq_true, if_false]
    have hword : isWordChar c = true := by simp [isWordChar, hblank, hop]
    have hlen : (cs.dropWhile isWordChar).length < (c :: cs).length := by
      have := (List.dropWhile_sublist isWordChar (l := cs)).length_le
      simp only [List.length_cons]
      omega
    rw [step_word hword]
    rcases @afterWord_spec isSymbol terms pending c cs hword with h | ⟨s', h, hanswer, hrest⟩
    · exact .inl (by rw [h])
    · exact .inr ⟨s', by rw [h], hanswer, hrest ▸ hlen⟩

theorem step_continues {s s' : Reading} (h : s.step isSymbol = some (.ok (.inr s'))) :
    s'.answer isSymbol = s.answer isSymbol ∧ s'.rest.length < s.rest.length := by
  rcases s.step_spec with hs | ⟨s'', hs, hanswer, hlen⟩ <;> rw [hs] at h
  · cases hr : s.answer isSymbol <;> simp [hr, Except.map] at h
  · cases h
    exact ⟨hanswer, hlen⟩

theorem step_ends {s : Reading} {r : Except Fault (List Term)}
    (h : s.step isSymbol = some (r.map .inl)) : s.answer isSymbol = r := by
  rcases s.step_spec with hs | ⟨s', hs, -⟩ <;> rw [hs] at h
  · cases hr : s.answer isSymbol <;> cases r <;> simp [hr, Except.map] at h ⊢ <;> exact h
  · cases r <;> simp [Except.map] at h

theorem step_isSome (s : Reading) : (s.step isSymbol).isSome := by
  rcases s.step_spec with hs | ⟨s', hs, -⟩ <;> rw [hs] <;> rfl

variable (isSymbol)

/-- The loop run to its end; `none` where a pass would slice off a character boundary. -/
def run (s : Reading) : Option (Except Fault (List Term)) :=
  match _hstep : s.step isSymbol with
  | none => none
  | some (.error fault) => some (.error fault)
  | some (.ok (.inl terms)) => some (.ok terms)
  | some (.ok (.inr s')) => run s'
termination_by s.rest.length
decreasing_by exact (step_continues _hstep).2

/-- Run to its end, the loop reaches the answer of its first state: every pass slices on a
character boundary and keeps the answer (`step_spec`). -/
theorem run_eq (s : Reading) : s.run isSymbol = some (s.answer isSymbol) := by
  fun_induction run isSymbol s with
  | case1 s hstep =>
    have hsome := @step_isSome isSymbol s
    rw [hstep] at hsome
    cases hsome
  | case2 s fault hstep => rw [step_ends (r := .error fault) hstep]
  | case3 s terms hstep => rw [step_ends (r := .ok terms) hstep]
  | case4 s s' hstep ih => rw [ih, (step_continues hstep).1]

end Reading

/-- A signature read by the loop from its trimmed text, a fault naming the signature as given;
no unit when trimming leaves nothing. -/
def parseBytes (isSymbol : String → Bool) (signature : String) :
    Option (Except ParseError (List Term)) :=
  let rest := Text.trimBlanks signature.toList
  if rest.isEmpty then some (.error (.malformed signature .noUnit))
  else ((Reading.mk [] none rest).run isSymbol).map (·.mapError (.malformed signature))

/-- Reading a signature slices it only on character boundaries. -/
theorem parseBytes_eq (isSymbol : String → Bool) (signature : String) :
    parseBytes isSymbol signature = some (parse isSymbol signature) := by
  unfold parseBytes parse
  dsimp only
  by_cases hempty : (Text.trimBlanks signature.toList).isEmpty
  · rw [if_pos hempty, (scan_eq_nil_iff _).2 (List.isEmpty_iff.mp hempty)]
  · rw [if_neg hempty, Reading.run_eq, Option.map_some]
    have hscan : Item.scan signature.toList ≠ [] := fun h =>
      hempty (List.isEmpty_iff.mpr ((scan_eq_nil_iff _).1 h))
    simp only [Reading.answer, scan_trimBlanks, List.isEmpty_nil, Bool.not_true, List.nil_append]
    cases hs : Item.scan signature.toList with
    | nil => exact absurd hs hscan
    | cons item items =>
      cases collect isSymbol false none (item :: items) <;> rfl

end Signature

theorem List.mapM_eq_some {α β : Type} {f : α → Option β} {g : α → β} {l : List α}
    (h : ∀ a ∈ l, f a = some (g a)) : l.mapM f = some (l.map g) := by
  induction l with
  | nil => rfl
  | cons a l ih =>
    rw [List.mapM_cons, h a (by simp), ih fun b hb => h b (by simp [hb])]
    rfl

namespace Exponents

/-! ## Writing a dimension -/

/-- An exponent in superscript digits: `⁻` before a negative one, then for each byte of the
decimal text of its magnitude, the superscript digit at the byte's distance from the byte of `0`
in the table. `none` where that distance is below zero or past the table. -/
def superscriptBytes (n : Int) : Option String :=
  ((Utf8.bytes (toString n.natAbs)).mapM fun b =>
      (Utf8.subByte? b '0'.toUInt8).bind fun i => Signature.superscriptDigits[i.toNat]?).map
    fun digits => (if n < 0 then "⁻" else "") ++ String.ofList digits

def factorBytes (symbol : String) (n : Int) : Option String :=
  (if n = 1 then some "" else superscriptBytes n).map (symbol ++ ·)

/-- The written form of a dimension, its exponents written by `superscriptBytes`. -/
def renderBytes (e : Exponents) : Option String :=
  let factors := (symbols.zip e.toList).filter (fun p => p.2 != 0)
  if factors.isEmpty then some "1"
  else (factors.mapM fun p => factorBytes p.1 p.2.toInt).map ("·".intercalate ·)

theorem lookup_superscriptDigit {d : Char} (h : Decimal.isDigit d = true) :
    ((Utf8.subByte? d.toUInt8 '0'.toUInt8).bind fun i => Signature.superscriptDigits[i.toNat]?) =
      some (superscriptDigit d) := by
  rcases Decimal.eq_digit_of_isDigit h with rfl | rfl | rfl | rfl | rfl | rfl | rfl | rfl | rfl | rfl <;>
    rfl

theorem superscriptBytes_eq (n : Int) : superscriptBytes n = some (superscript n) := by
  have hdigits : (toString n.natAbs).toList = Nat.toDigits 10 n.natAbs := Nat.toList_repr
  have hascii : ∀ d ∈ Nat.toDigits 10 n.natAbs, d.toNat < 128 := fun d hd => by
    have := Decimal.isDigit_iff.mp (Decimal.isDigit_of_mem_toDigits hd)
    omega
  rw [superscriptBytes, Utf8.bytes_eq, hdigits, Utf8.flatMap_utf8EncodeChar_of_ascii hascii]
  simp only [List.mapM_map, Function.comp_def]
  rw [List.mapM_eq_some fun d hd => lookup_superscriptDigit (Decimal.isDigit_of_mem_toDigits hd),
    Option.map_some, superscript, hdigits]

theorem factorBytes_eq (symbol : String) (n : Int) : factorBytes symbol n = some (factorText symbol n) := by
  unfold factorBytes factorText
  split_ifs
  · rfl
  · rw [superscriptBytes_eq, Option.map_some]

theorem renderBytes_eq (e : Exponents) : renderBytes e = some e.render := by
  unfold renderBytes render
  dsimp only
  split_ifs
  · rfl
  · rw [List.mapM_eq_some fun p _ => factorBytes_eq p.1 p.2.toInt, Option.map_some]

end Exponents

/-- Quantity text is sliced only on character boundaries, and byte arithmetic and table lookups
stay in range, on every input. The number's byte count ends on a boundary and equals its number
of characters; splitting off the number, reading a signature and each of its words as a term, and
writing a dimension give what the readers and the writer of characters give; a trailing
superscript run begins on a boundary, and reading it or cutting off trailing digits never fails
to slice. -/
theorem slices_on_char_boundaries :
    (∀ text : String, String.Pos.Raw.IsValid text ⟨Magnitude.prefixBytes text⟩ ∧
      Magnitude.prefixBytes text = Magnitude.prefixLength text.toList) ∧
    (∀ text : String, Magnitude.splitBytes text = some (Magnitude.split text)) ∧
    (∀ (isSymbol : String → Bool) (signature : String),
      Signature.parseBytes isSymbol signature = some (Signature.parse isSymbol signature)) ∧
    (∀ (isSymbol : String → Bool) (word : String),
      Signature.termBytes isSymbol word = some (Signature.Term.ofWord isSymbol word)) ∧
    (∀ word : String, ∀ start ∈ Utf8.runStart? Signature.isSuperscript word.toList,
      String.Pos.Raw.IsValid word ⟨start⟩) ∧
    (∀ text : String, (Signature.superscriptPowerBytes text).isSome) ∧
    (∀ word : String, (Signature.trailingPowerBytes word).isSome) ∧
    (∀ e : Exponents, Exponents.renderBytes e = some e.render) := by
  refine ⟨fun text => ⟨Magnitude.isValid_prefixBytes text, Magnitude.prefixBytes_eq text⟩,
    Magnitude.splitBytes_eq, Signature.parseBytes_eq, Signature.termBytes_eq,
    fun word => Utf8.isValid_runStart? _ word, fun text => ?_, Signature.trailingPowerBytes_isSome,
    Exponents.renderBytes_eq⟩
  rw [Signature.superscriptPowerBytes, Signature.mapM_asciiOfSuperscript]
  rfl

end Dimensional
