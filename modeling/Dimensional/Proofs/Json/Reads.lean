import Mathlib
import Dimensional.Json.Record

/-!
# Reading a value out of longer text

JSON text is read once from the left, and the reader of one value stops where the value ends.
`Decoder.Reads d t t' r` says that of a decoder `d`: on the text `t` followed by anything that
may follow a value (nothing, a comma or a closing bracket), `d` answers `r` and leaves `t'`
before what follows. The answer does not depend on what follows, so a value read as a member
of a sequence or a map is read as it is read alone.

The relation follows the operations of the decoder (`Reads.pure`, `Reads.throw`,
`Reads.bind_ok`, `Reads.bind_error`, `Reads.bind`), so each step of the decoder (`peek?`, `eat`, `colon`,
`mapKey?`, `endMap`, strings) has one lemma here and the readers of whole values are built
from them.
-/

namespace Dimensional
namespace Json

/-- What may follow a value in JSON text: nothing, a comma or a closing bracket. -/
def Delimited (rest : List Char) : Prop := ∀ c ∈ rest.head?, c = ',' ∨ c = ']' ∨ c = '}'

theorem delimited_nil : Delimited [] := nofun

theorem delimited_cons {c : Char} {cs : List Char} (h : c = ',' ∨ c = ']' ∨ c = '}') :
    Delimited (c :: cs) := by
  intro d hd
  cases hd
  exact h

/-- The characters of the JSON string literal of `s` between its quotes. -/
def escaped (s : String) : List Char := s.toList.flatMap fun c => (escapeChar c).toList

theorem quote_toList (s : String) : (quote s).toList = '"' :: escaped s ++ ['"'] := by
  simp [quote, escaped, String.toList_join, List.flatMap, Function.comp_def]

namespace Decoder

variable {β γ : Type}

/-- `d` reads `t` and leaves `t'`, with the answer `r`, whatever may follow a value after `t`. -/
def Reads (d : Decoder β) (t t' : List Char) (r : Except DecodeError β) : Prop :=
  ∀ rest, Delimited rest → StateT.run d (t ++ rest) = r.map (·, t' ++ rest)

theorem Reads.pure (x : β) (t : List Char) : Reads (Pure.pure x) t t (.ok x) := fun _ _ => rfl

theorem Reads.throw (e : DecodeError) (t t' : List Char) :
    Reads (MonadExcept.throw e : Decoder β) t t' (.error e) := fun _ _ => rfl

theorem Reads.fail (f : SyntaxFault) (t t' : List Char) :
    Reads (Decoder.fail f : Decoder β) t t' (.error (.malformed f)) := fun _ _ => rfl

/-- A step that succeeds is followed by the next one, on what it leaves. -/
theorem Reads.bind_ok {d : Decoder β} {f : β → Decoder γ} {t t₁ t₂ : List Char} {x : β}
    {r : Except DecodeError γ} (h₁ : Reads d t t₁ (.ok x)) (h₂ : Reads (f x) t₁ t₂ r) :
    Reads (d >>= f) t t₂ r := by
  intro rest hrest
  rw [StateT.run_bind, h₁ rest hrest]
  exact h₂ rest hrest

/-- A step that fails ends the reading. -/
theorem Reads.bind_error {d : Decoder β} {f : β → Decoder γ} {t t₁ t₂ : List Char}
    {e : DecodeError} (h₁ : Reads d t t₁ (.error e)) : Reads (d >>= f) t t₂ (.error e) := by
  intro rest hrest
  rw [StateT.run_bind, h₁ rest hrest]
  rfl

/-- A step with any answer, then the next one on what it leaves. -/
theorem Reads.bind {d : Decoder β} {f : β → Decoder γ} {t t₁ t₂ : List Char}
    {r : Except DecodeError β} {k : β → Except DecodeError γ} (h₁ : Reads d t t₁ r)
    (h₂ : ∀ x, Reads (f x) t₁ t₂ (k x)) : Reads (d >>= f) t t₂ (r.bind k) := by
  cases r with
  | error e => exact Reads.bind_error h₁
  | ok x => exact Reads.bind_ok h₁ (h₂ x)

theorem Reads.map {d : Decoder β} {f : β → γ} {t t' : List Char} {r : Except DecodeError β}
    (h : Reads d t t' r) : Reads (f <$> d) t t' (f <$> r) := by
  intro rest hrest
  rw [StateT.run_map, h rest hrest]
  cases r <;> rfl

/-! ## Characters -/

theorem Reads.peek {c : Char} {cs : List Char} (hc : isSpace c = false) :
    Reads peek? (c :: cs) (c :: cs) (.ok (some c)) := by
  intro rest _
  simp [peek?, hc]
  rfl

theorem Reads.eat (c : Char) (cs : List Char) : Reads Decoder.eat (c :: cs) cs (.ok ()) := by
  intro rest _
  rfl

theorem Reads.colon (cs : List Char) : Reads colon (':' :: cs) cs (.ok ()) :=
  Reads.bind_ok (Reads.peek (by decide)) (Reads.eat ':' cs)

theorem Reads.endMap (cs : List Char) : Reads endMap ('}' :: cs) cs (.ok ()) :=
  Reads.bind_ok (Reads.peek (by decide)) (Reads.eat '}' cs)

/-! ## Strings -/

/-- The escape of a control character other than the five with short forms: `\u00` and two
lowercase hexadecimal digits. -/
theorem escapeChar_control {n : Nat} (hn : n < 0x20) :
    (("\\u00" ++ String.ofList (if n < 0x10 then ['0'] else []) ++ Text.hexDigits n).toList =
        ['\\', 'u', '0', '0', if n < 0x10 then '0' else '1', (Nat.toDigits 16 (n % 16)).head!]) ∧
      hex4? '0' '0' (if n < 0x10 then '0' else '1') (Nat.toDigits 16 (n % 16)).head! = some n := by
  revert n
  decide +kernel

/-- A character with a short escape `\\e` is read back from it. -/
theorem stringBody_short {keep : Bool} {c e : Char} {cs acc : List Char}
    (hesc : (escapeChar c).toList = ['\\', e])
    (hbody : stringBody keep ('\\' :: e :: cs) acc = stringBody keep cs (c :: acc)) :
    ∃ acc', stringBody keep ((escapeChar c).toList ++ cs) acc = stringBody keep cs acc' ∧
      (keep = true → acc' = c :: acc) :=
  ⟨c :: acc, by rw [hesc]; exact hbody, fun _ => rfl⟩

/-- One written character is read back, and pushed on the characters read so far when they
are kept. -/
theorem stringBody_escapeChar (keep : Bool) (c : Char) (cs acc : List Char) :
    ∃ acc', stringBody keep ((escapeChar c).toList ++ cs) acc = stringBody keep cs acc' ∧
      (keep = true → acc' = c :: acc) := by
  by_cases hq : c = '"'
  · subst hq; exact stringBody_short (e := '"') (by decide) (by rw [stringBody])
  by_cases hb : c = '\\'
  · subst hb; exact stringBody_short (e := '\\') (by decide) (by rw [stringBody])
  by_cases hn : c = '\n'
  · subst hn; exact stringBody_short (e := 'n') (by decide) (by rw [stringBody])
  by_cases hr : c = '\r'
  · subst hr; exact stringBody_short (e := 'r') (by decide) (by rw [stringBody])
  by_cases ht : c = '\t'
  · subst ht; exact stringBody_short (e := 't') (by decide) (by rw [stringBody])
  by_cases h8 : c = '\x08'
  · subst h8; exact stringBody_short (e := 'b') (by decide) (by rw [stringBody])
  by_cases hc : c = '\x0c'
  · subst hc; exact stringBody_short (e := 'f') (by decide) (by rw [stringBody])
  have hplain : escapeChar c = if c.toNat < 0x20 then
      "\\u00" ++ String.ofList (if c.toNat < 0x10 then ['0'] else []) ++ Text.hexDigits c.toNat
      else c.toString := by
    simp [escapeChar, hq, hb, hn, hr, ht, h8, hc]
  rw [hplain]
  by_cases hctl : c.toNat < 0x20
  · -- `\u00XX`: four hexadecimal digits that give the character back
    rw [if_pos hctl]
    obtain ⟨htext, hhex⟩ := escapeChar_control hctl
    rw [htext]
    have hlow : ¬(0xDC00 ≤ c.toNat ∧ c.toNat ≤ 0xDFFF) := by omega
    have hhigh : ¬(0xD800 ≤ c.toNat ∧ c.toNat ≤ 0xDBFF) := by omega
    cases keep
    · exact ⟨acc, by simp only [List.cons_append, List.nil_append]; rw [stringBody, hhex]; rfl,
        fun h => by cases h⟩
    · refine ⟨Char.ofNat c.toNat :: acc, ?_, fun _ => by rw [Char.ofNat_toNat]⟩
      simp only [List.cons_append, List.nil_append]
      rw [stringBody, hhex]
      simp [hlow, hhigh]
  · -- any other character stands for itself
    rw [if_neg hctl]
    refine ⟨c :: acc, ?_, fun _ => rfl⟩
    have hone : c.toString.toList = [c] := by simp
    rw [hone, List.singleton_append, stringBody.eq_15 _ _ _ _ hq (fun _ _ _ _ _ h _ => hb h)
      (fun _ h _ => hb h) (fun _ _ h _ => hb h) (fun h _ => hb h), if_neg hctl]

/-- The body of a written string, up to its closing quote, is read back. -/
theorem stringBody_escaped (keep : Bool) (l : List Char) (cs acc : List Char) :
    ∃ acc', stringBody keep (l.flatMap (fun c => (escapeChar c).toList) ++ '"' :: cs) acc =
        .ok (String.ofList acc'.reverse, cs) ∧ (keep = true → acc' = l.reverse ++ acc) := by
  induction l generalizing acc with
  | nil => exact ⟨acc, by rw [List.flatMap_nil, List.nil_append, stringBody], fun _ => by simp⟩
  | cons c l ih =>
    obtain ⟨acc₁, hstep, hkeep₁⟩ := stringBody_escapeChar keep c
      (l.flatMap (fun c => (escapeChar c).toList) ++ '"' :: cs) acc
    obtain ⟨acc₂, hrest, hkeep₂⟩ := ih acc₁
    refine ⟨acc₂, ?_, fun hk => ?_⟩
    · rw [List.flatMap_cons, List.append_assoc, hstep, hrest]
    · rw [hkeep₂ hk, hkeep₁ hk]
      simp

theorem Reads.string (s : String) (cs : List Char) :
    Reads Decoder.string (escaped s ++ '"' :: cs) cs (.ok s) := by
  intro rest _
  obtain ⟨acc, hbody, hkeep⟩ := stringBody_escaped true s.toList (cs ++ rest) []
  have hacc : acc = s.toList.reverse := by simpa using hkeep rfl
  show stringBody true (escaped s ++ '"' :: cs ++ rest) [] = _
  rw [List.append_assoc, List.cons_append, escaped, hbody, hacc, List.reverse_reverse,
    String.ofList_toList]
  rfl

theorem Reads.ignoreString (s : String) (cs : List Char) :
    Reads Decoder.ignoreString (escaped s ++ '"' :: cs) cs (.ok ()) := by
  intro rest _
  obtain ⟨acc, hbody, -⟩ := stringBody_escaped false s.toList (cs ++ rest) []
  show (stringBody false (escaped s ++ '"' :: cs ++ rest) []).map _ = _
  rw [List.append_assoc, List.cons_append, escaped, hbody]
  rfl

/-! ## Keys of maps -/

theorem Reads.mapKey_first (k : String) (cs : List Char) :
    Reads (mapKey? true) ('"' :: escaped k ++ '"' :: cs) cs (.ok (some k)) :=
  Reads.bind_ok (Reads.peek (by decide))
    (Reads.bind_ok (Reads.eat _ _) ((Reads.string k cs).map))

theorem Reads.mapKey_next (k : String) (cs : List Char) :
    Reads (mapKey? false) (',' :: '"' :: escaped k ++ '"' :: cs) cs (.ok (some k)) :=
  Reads.bind_ok (Reads.peek (by decide))
    (Reads.bind_ok (Reads.eat _ _)
      (Reads.bind_ok (Reads.peek (by decide))
        (Reads.bind_ok (Reads.eat _ _) ((Reads.string k cs).map))))

theorem Reads.mapKey_end (first : Bool) (cs : List Char) :
    Reads (mapKey? first) ('}' :: cs) ('}' :: cs) (.ok none) :=
  Reads.bind_ok (Reads.peek (by decide)) (Reads.pure _ _)

end Decoder

end Json
end Dimensional
