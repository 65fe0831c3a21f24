import Dimensional.Proofs.Magnitude

/-!
# Text as UTF-8 bytes

A text is stored as the UTF-8 encoding of its characters, one to four bytes each, and positions
in it are byte offsets. Offsets are found by walking the characters: each character stands at the
number of bytes before it (`charIndicesFrom`), a search gives the offset of the first character it
accepts (`find?`), and a run of characters at the end of a text starts at the offset of its first
character (`runStart?`).

A text can only be sliced at the boundary between two characters. `cut?` slices a text at a byte
offset and gives `none` anywhere else; `cut?_isSome_iff` says that the offsets it accepts are
exactly the valid positions of `String.Pos.Raw.IsValid`. Arithmetic on bytes and offsets is
checked in the same way: `addByte?`, `subByte?` and `pred?` give `none` where the result leaves
its range.
-/

namespace Dimensional
namespace Utf8

open String (utf8Len)

/-- The bytes of a text. -/
def bytes (s : String) : List UInt8 := s.toUTF8.data.toList

theorem bytes_eq (s : String) : bytes s = s.toList.flatMap String.utf8EncodeChar := by
  conv_lhs => rw [← String.ofList_toList (s := s)]
  rw [bytes, String.toUTF8_eq_toByteArray, String.toByteArray_ofList, List.utf8Encode,
    List.data_toByteArray, List.toList_toArray]

/-- An ASCII character is one byte, its code. -/
theorem flatMap_utf8EncodeChar_of_ascii {cs : List Char} (h : ∀ c ∈ cs, c.toNat < 128) :
    cs.flatMap String.utf8EncodeChar = cs.map Char.toUInt8 := by
  induction cs with
  | nil => rfl
  | cons c cs ih =>
    rw [List.flatMap_cons,
      String.utf8EncodeChar_eq_singleton (Magnitude.utf8Size_of_ascii (h c (List.mem_cons_self ..))),
      Char.toUInt8_val, List.map_cons, ih fun d hd => h d (List.mem_cons_of_mem c hd)]
    rfl

/-! ## Slicing at a byte offset -/

/-- `cs` cut after its first `n` bytes: `none` when byte `n` falls inside a character or past the
end. -/
def cut? : List Char → Nat → Option (List Char × List Char)
  | cs, 0 => some ([], cs)
  | [], _ + 1 => none
  | c :: cs, n + 1 =>
    if c.utf8Size ≤ n + 1 then (cut? cs (n + 1 - c.utf8Size)).map fun p => (c :: p.1, p.2)
    else none

@[simp] theorem cut?_zero (cs : List Char) : cut? cs 0 = some ([], cs) := by
  cases cs <;> rfl

theorem cut?_cons {c : Char} {n : Nat} (cs : List Char) (h : c.utf8Size ≤ n) :
    cut? (c :: cs) n = (cut? cs (n - c.utf8Size)).map fun p => (c :: p.1, p.2) := by
  obtain ⟨k, rfl⟩ : ∃ k, n = k + 1 := Nat.exists_eq_add_one.mpr (by have := c.utf8Size_pos; omega)
  rw [cut?, if_pos h]

/-- Cutting at the end of a prefix gives the prefix and the rest. -/
theorem cut?_append (a b : List Char) : cut? (a ++ b) (utf8Len a) = some (a, b) := by
  induction a with
  | nil => simp
  | cons c a ih =>
    rw [List.cons_append, String.utf8Len_cons, cut?_cons _ (by omega), Nat.add_sub_cancel, ih]
    rfl

theorem eq_of_cut? {cs a b : List Char} {n : Nat} (h : cut? cs n = some (a, b)) :
    cs = a ++ b ∧ utf8Len a = n := by
  induction cs generalizing n a b with
  | nil =>
    cases n with
    | zero => cases h; simp
    | succ n => cases h
  | cons c cs ih =>
    cases n with
    | zero => cases h; simp
    | succ n =>
      rw [cut?] at h
      split at h
      · obtain ⟨p, hp, heq⟩ := Option.map_eq_some_iff.mp h
        cases heq
        obtain ⟨rfl, hlen⟩ := ih hp
        refine ⟨rfl, ?_⟩
        rw [String.utf8Len_cons]
        omega
      · cases h

theorem cut?_eq_some_iff {cs a b : List Char} {n : Nat} :
    cut? cs n = some (a, b) ↔ cs = a ++ b ∧ utf8Len a = n := by
  constructor
  · exact eq_of_cut?
  · rintro ⟨rfl, rfl⟩
    exact cut?_append a b

theorem length_lt_of_cut? {cs a b : List Char} {n : Nat} (h : cut? cs n = some (a, b)) (hn : 0 < n) :
    b.length < cs.length := by
  obtain ⟨rfl, rfl⟩ := eq_of_cut? h
  cases a with
  | nil => simp at hn
  | cons c a => simp

/-- A text can be cut at byte `n` exactly when `n` is a character boundary of it. -/
theorem cut?_isSome_iff (s : String) (n : Nat) :
    (cut? s.toList n).isSome ↔ String.Pos.Raw.IsValid s ⟨n⟩ := by
  conv_rhs => rw [← String.ofList_toList (s := s)]
  rw [String.Pos.Raw.isValid_ofList, Option.isSome_iff_exists]
  constructor
  · rintro ⟨⟨a, b⟩, h⟩
    obtain ⟨hs, rfl⟩ := eq_of_cut? h
    refine ⟨a.length, ?_⟩
    rw [hs, List.take_left, String.utf8ByteSize_ofList]
  · rintro ⟨i, hi⟩
    refine ⟨(s.toList.take i, s.toList.drop i), ?_⟩
    rw [String.utf8ByteSize_ofList] at hi
    have h := cut?_append (s.toList.take i) (s.toList.drop i)
    rwa [List.take_append_drop, ← hi] at h

/-! ## Offsets of characters -/

/-- The characters of `cs` with their byte offsets, the first at offset `start`. -/
def charIndicesFrom (start : Nat) : List Char → List (Nat × Char)
  | [] => []
  | c :: cs => (start, c) :: charIndicesFrom (start + c.utf8Size) cs

theorem charIndicesFrom_append (start : Nat) (a b : List Char) :
    charIndicesFrom start (a ++ b) = charIndicesFrom start a ++ charIndicesFrom (start + utf8Len a) b := by
  induction a generalizing start with
  | nil => simp [charIndicesFrom]
  | cons c a ih =>
    simp only [List.cons_append, charIndicesFrom, ih, String.utf8Len_cons]
    rw [Nat.add_assoc, Nat.add_comm c.utf8Size]

theorem map_snd_charIndicesFrom (start : Nat) (cs : List Char) :
    (charIndicesFrom start cs).map Prod.snd = cs := by
  induction cs generalizing start with
  | nil => rfl
  | cons c cs ih => simp [charIndicesFrom, ih]

/-- Byte offset of the first character of `cs` that `p` accepts. -/
def find? (p : Char → Bool) (cs : List Char) : Option Nat :=
  ((charIndicesFrom 0 cs).find? fun q => p q.2).map Prod.fst

theorem find?_from (p : Char → Bool) (start : Nat) (cs : List Char) :
    ((charIndicesFrom start cs).find? fun q => p q.2).map Prod.fst =
      if cs.any p then some (start + utf8Len (cs.takeWhile fun c => !p c)) else none := by
  induction cs generalizing start with
  | nil => rfl
  | cons c cs ih =>
    by_cases hc : p c
    · simp [charIndicesFrom, hc]
    · have hc' : p c = false := by simpa using hc
      simp only [charIndicesFrom, List.find?_cons, hc', ih, List.any_cons, Bool.false_or,
        List.takeWhile_cons, Bool.not_false, if_true, String.utf8Len_cons]
      split <;> simp only [Option.some.injEq]
      omega

/-- A search finds the end of the run of characters that `p` refuses; when no character is
accepted, the search fails and the end of the text is taken instead. -/
theorem find?_getD (p : Char → Bool) (cs : List Char) :
    (find? p cs).getD (utf8Len cs) = utf8Len (cs.takeWhile fun c => !p c) := by
  rw [find?, find?_from]
  split
  · simp
  · rename_i h
    have hall : ∀ c ∈ cs, (!p c) = true := by simpa using h
    simp [List.takeWhile_eq_self_iff.mpr hall]

theorem find?_of_mem {p : Char → Bool} {cs : List Char} {c : Char} (hc : c ∈ cs) (hp : p c) :
    find? p cs = some (utf8Len (cs.takeWhile fun c => !p c)) := by
  rw [find?, find?_from, if_pos (List.any_eq_true.mpr ⟨c, hc, hp⟩), Nat.zero_add]

theorem find?_eq_none {p : Char → Bool} {cs : List Char} (h : ∀ c ∈ cs, p c = false) :
    find? p cs = none := by
  rw [find?, find?_from, if_neg]
  simpa using h

/-! ## The run at the end of a text -/

/-- The byte offset at which the run of characters accepted by `p` at the end of `cs` begins,
`none` when the last character is refused: the offsets of the characters taken from the end as
long as `p` accepts them, and of those the last one. -/
def runStart? (p : Char → Bool) (cs : List Char) : Option Nat :=
  (((charIndicesFrom 0 cs).reverse.takeWhile fun q => p q.2).getLast?).map Prod.fst

/-- The run of characters accepted by `p` at the end of `cs`, and what comes before it. -/
theorem splitTrailing_eq (p : Char → Bool) (cs : List Char) :
    Signature.splitTrailing p cs =
      ((cs.reverse.dropWhile p).reverse, (cs.reverse.takeWhile p).reverse) := by
  have hcs : cs = (cs.reverse.dropWhile p).reverse ++ (cs.reverse.takeWhile p).reverse := by
    rw [← List.reverse_append, List.takeWhile_append_dropWhile, List.reverse_reverse]
  have hsum : (cs.reverse.takeWhile p).length + (cs.reverse.dropWhile p).length = cs.length := by
    rw [← List.length_append, List.takeWhile_append_dropWhile, List.length_reverse]
  simp only [Signature.splitTrailing, Prod.mk.injEq, and_true]
  calc cs.take (cs.length - (cs.reverse.takeWhile p).reverse.length)
      = ((cs.reverse.dropWhile p).reverse ++ (cs.reverse.takeWhile p).reverse).take
          (cs.reverse.dropWhile p).reverse.length := by
        rw [← hcs]
        congr 1
        simp only [List.length_reverse]
        omega
    _ = (cs.reverse.dropWhile p).reverse := List.take_left

theorem splitTrailing_append_self (p : Char → Bool) (cs : List Char) :
    (Signature.splitTrailing p cs).1 ++ (Signature.splitTrailing p cs).2 = cs := by
  rw [splitTrailing_eq, ← List.reverse_append, List.takeWhile_append_dropWhile, List.reverse_reverse]

theorem all_splitTrailing (p : Char → Bool) (cs : List Char) :
    ∀ c ∈ (Signature.splitTrailing p cs).2, p c = true := by
  intro c hc
  rw [splitTrailing_eq, List.mem_reverse] at hc
  exact List.mem_takeWhile_imp hc

theorem splitTrailing_stop (p : Char → Bool) (cs : List Char) :
    ∀ c ∈ (Signature.splitTrailing p cs).1.getLast?, p c = false := by
  intro c hc
  rw [splitTrailing_eq, List.getLast?_reverse] at hc
  have h := List.head?_dropWhile_not p cs.reverse
  rw [Option.mem_def.mp hc] at h
  exact h

theorem getLast?_charIndicesFrom (start : Nat) (cs : List Char) :
    (charIndicesFrom start cs).getLast?.map Prod.snd = cs.getLast? := by
  rw [← List.getLast?_map, map_snd_charIndicesFrom]

/-- The run at the end of a text begins right after the text before it, and there is none when
the last character is refused. -/
theorem runStart?_eq (p : Char → Bool) (cs : List Char) :
    runStart? p cs =
      if (Signature.splitTrailing p cs).2 = [] then none
      else some (utf8Len (Signature.splitTrailing p cs).1) := by
  have happ := splitTrailing_append_self p cs
  have hall := all_splitTrailing p cs
  have hlast := splitTrailing_stop p cs
  rw [runStart?]
  generalize Signature.splitTrailing p cs = st at happ hall hlast ⊢
  obtain ⟨stem, run⟩ := st
  subst happ
  dsimp only at hall hlast ⊢
  -- from the end, every offset of the run is taken and the last one of the stem stops the walk
  have hrun : ∀ q ∈ (charIndicesFrom (utf8Len stem) run).reverse, p q.2 = true := by
    intro q hq
    rw [List.mem_reverse] at hq
    exact hall q.2 (map_snd_charIndicesFrom (utf8Len stem) run ▸ List.mem_map_of_mem hq)
  have hstop : ∀ q ∈ (charIndicesFrom 0 stem).reverse.head?, p q.2 = false := by
    intro q hq
    rw [List.head?_reverse] at hq
    apply hlast q.2
    rw [← getLast?_charIndicesFrom 0 stem, Option.mem_def.mp hq]
    rfl
  rw [charIndicesFrom_append, Nat.zero_add, List.reverse_append,
    Dimensional.List.takeWhile_append_stop hrun hstop, List.getLast?_reverse]
  cases run with
  | nil => rfl
  | cons c r => rfl

/-- Cut at the start of the run at its end, a text falls into what comes before the run and the
run. -/
theorem cut?_splitTrailing (p : Char → Bool) (cs : List Char) :
    cut? cs (utf8Len (Signature.splitTrailing p cs).1) = some (Signature.splitTrailing p cs) := by
  have h := cut?_append (Signature.splitTrailing p cs).1 (Signature.splitTrailing p cs).2
  rwa [splitTrailing_append_self] at h

/-- The run at the end of a text begins on a character boundary. -/
theorem isValid_runStart? (p : Char → Bool) (s : String) :
    ∀ start ∈ runStart? p s.toList, String.Pos.Raw.IsValid s ⟨start⟩ := by
  intro start hstart
  rw [runStart?_eq] at hstart
  split at hstart
  · cases hstart
  · cases hstart
    rw [← cut?_isSome_iff, cut?_splitTrailing]
    rfl

/-! ## Checked arithmetic -/

/-- The sum of two bytes, `none` when it does not fit in a byte. -/
def addByte? (a b : UInt8) : Option UInt8 := if a.toNat + b.toNat < 256 then some (a + b) else none

/-- The difference of two bytes, `none` below zero. -/
def subByte? (a b : UInt8) : Option UInt8 := if b ≤ a then some (a - b) else none

/-- The offset before `n`, `none` below zero. -/
def pred? (n : Nat) : Option Nat := if 0 < n then some (n - 1) else none

end Utf8
end Dimensional
