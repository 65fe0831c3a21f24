import Mathlib
import Dimensional.Signature

/-!
# Reading unit signatures

`Splits` says, as a relation, how a text falls into items: blanks are skipped, each operator is an
item, and each word runs as far as word characters go. `scan_eq_iff_splits` shows that
`Item.scan` gives the one list of items that `Splits` allows.

`readItems` judges the items one by one, each from the item before it: an operator must follow a
word, a word must read as a term, and a word after `/` must have a power that can be negated.
The leftmost item that fails gives the fault; otherwise a trailing operator dangles; otherwise
the terms are the words' terms in order, negated after `/`. The main statement,
`parse_eq_iff_readItems`, says that reading a signature is exactly that, on the items of the
trimmed signature.
-/

namespace Dimensional
namespace Signature

theorem not_isBlank_of_isOperator {c : Char} (h : isOperator c = true) : Text.isBlank c = false := by
  simp only [isOperator, Bool.or_eq_true, decide_eq_true_eq] at h
  rcases h with (rfl | rfl) | rfl <;> rfl

theorem isWordChar_of_isBlank {c : Char} (h : Text.isBlank c = true) : isWordChar c = false := by
  simp [isWordChar, h]

/-! ## Items -/

theorem scan_blank {c : Char} {cs : List Char} (h : Text.isBlank c = true) :
    Item.scan (c :: cs) = Item.scan cs := by
  rw [Item.scan]; simp [h]

theorem scan_op {c : Char} {cs : List Char} (h : isOperator c = true) :
    Item.scan (c :: cs) = .op c :: Item.scan cs := by
  rw [Item.scan]; simp [h, not_isBlank_of_isOperator h]

theorem scan_word {c : Char} {cs : List Char} (h : isWordChar c = true) :
    Item.scan (c :: cs) =
      .word (String.ofList (c :: cs.takeWhile isWordChar)) :: Item.scan (cs.dropWhile isWordChar) := by
  simp only [isWordChar, Bool.not_eq_true', Bool.or_eq_false_iff] at h
  rw [Item.scan]; simp [h.1, h.2]

/-- `Splits cs items`: the text `cs` is `items` in order with blanks between them, and each word
is a longest run of word characters. -/
inductive Splits : List Char → List Item → Prop
  | nil : Splits [] []
  | blank {c cs items} : Text.isBlank c = true → Splits cs items → Splits (c :: cs) items
  | op {c cs items} : isOperator c = true → Splits cs items → Splits (c :: cs) (.op c :: items)
  | word {w cs items} : w ≠ [] → (∀ c ∈ w, isWordChar c = true) →
      (∀ c ∈ cs.head?, isWordChar c = false) → Splits cs items →
      Splits (w ++ cs) (.word (String.ofList w) :: items)

theorem splits_scan (cs : List Char) : Splits cs (Item.scan cs) := by
  fun_induction Item.scan cs with
  | case1 => exact .nil
  | case2 c rest hb ih => exact .blank hb ih
  | case3 c rest _ hop ih => exact .op hop ih
  | case4 c rest hb hop ih =>
    have hc : isWordChar c = true := by simp [isWordChar, hb, hop]
    have hsplit : c :: rest = (c :: rest.takeWhile isWordChar) ++ rest.dropWhile isWordChar := by
      simp
    rw [hsplit]
    refine .word (by simp) ?_ ?_ ih
    · intro d hd
      rcases List.mem_cons.1 hd with rfl | hd
      · exact hc
      · exact List.all_eq_true.1 List.all_takeWhile d hd
    · intro d hd
      have hnot := List.head?_dropWhile_not isWordChar rest
      rw [Option.mem_def] at hd
      simpa [hd] using hnot

/-- A word's characters and a next character outside words leave the word whole. -/
theorem takeWhile_dropWhile_word {w cs : List Char} (hw : ∀ c ∈ w, isWordChar c = true)
    (hcs : ∀ c ∈ cs.head?, isWordChar c = false) :
    (w ++ cs).takeWhile isWordChar = w ∧ (w ++ cs).dropWhile isWordChar = cs := by
  rw [List.takeWhile_append_of_pos hw, List.dropWhile_append_of_pos hw]
  cases cs with
  | nil => simp
  | cons d ds =>
    have hd : isWordChar d = false := hcs d rfl
    simp [hd]

theorem scan_of_splits {cs : List Char} {items : List Item} (h : Splits cs items) :
    Item.scan cs = items := by
  induction h with
  | nil => rw [Item.scan]
  | blank hb _ ih => rw [scan_blank hb, ih]
  | op hop _ ih => rw [scan_op hop, ih]
  | @word w cs items hne hw hcs _ ih =>
    obtain ⟨c, w', rfl⟩ := List.exists_cons_of_ne_nil hne
    have hc : isWordChar c = true := hw c (by simp)
    have hw' : ∀ d ∈ w', isWordChar d = true := fun d hd => hw d (by simp [hd])
    obtain ⟨htake, hdrop⟩ := takeWhile_dropWhile_word hw' hcs
    rw [List.cons_append, scan_word hc, htake, hdrop, ih]

/-- `Item.scan` gives the one split of a text. -/
theorem scan_eq_iff_splits {cs : List Char} {items : List Item} :
    Item.scan cs = items ↔ Splits cs items :=
  ⟨fun h => h ▸ splits_scan cs, scan_of_splits⟩

/-! ## Trimming -/

theorem scan_dropBlanks (cs : List Char) : Item.scan (Text.dropBlanks cs) = Item.scan cs := by
  induction cs with
  | nil => rfl
  | cons c cs ih =>
    by_cases hc : Text.isBlank c = true
    · simp only [Text.dropBlanks, List.dropWhile_cons_of_pos hc] at ih ⊢
      rw [ih, scan_blank hc]
    · simp only [Text.dropBlanks, List.dropWhile_cons_of_neg hc]

theorem splits_blanks {bs : List Char} (h : ∀ c ∈ bs, Text.isBlank c = true) : Splits bs [] := by
  induction bs with
  | nil => exact .nil
  | cons b bs ih => exact .blank (h b (by simp)) (ih fun c hc => h c (by simp [hc]))

/-- Blanks after a text add no item. -/
theorem Splits.append_blanks {cs : List Char} {items : List Item} (h : Splits cs items)
    {bs : List Char} (hbs : ∀ c ∈ bs, Text.isBlank c = true) : Splits (cs ++ bs) items := by
  induction h with
  | nil => exact splits_blanks hbs
  | blank hb _ ih => exact .blank hb ih
  | op hop _ ih => exact .op hop ih
  | @word w cs items hne hw hcs _ ih =>
    rw [List.append_assoc]
    refine .word hne hw ?_ ih
    cases cs with
    | cons d ds => simpa using hcs
    | nil =>
      intro c hc
      cases bs with
      | nil => simp at hc
      | cons b bs =>
        simp only [List.nil_append, List.head?_cons, Option.mem_def, Option.some.injEq] at hc
        subst hc
        exact isWordChar_of_isBlank (hbs _ (by simp))

/-- After its leading blanks, a text is its trimmed form followed by blanks. -/
theorem dropBlanks_eq_trimBlanks_append (cs : List Char) :
    ∃ bs, (∀ c ∈ bs, Text.isBlank c = true) ∧ Text.dropBlanks cs = Text.trimBlanks cs ++ bs := by
  refine ⟨((Text.dropBlanks cs).reverse.takeWhile Text.isBlank).reverse, ?_, ?_⟩
  · intro c hc
    exact List.all_eq_true.1 List.all_takeWhile c (List.mem_reverse.1 hc)
  · conv => lhs; rw [← List.reverse_reverse (Text.dropBlanks cs),
      ← List.takeWhile_append_dropWhile (p := Text.isBlank) (l := (Text.dropBlanks cs).reverse)]
    rw [List.reverse_append]
    rfl

theorem scan_trimBlanks (cs : List Char) : Item.scan (Text.trimBlanks cs) = Item.scan cs := by
  obtain ⟨bs, hbs, heq⟩ := dropBlanks_eq_trimBlanks_append cs
  rw [← scan_dropBlanks cs, heq]
  exact (scan_of_splits ((splits_scan _).append_blanks hbs)).symm

/-- A text has no item exactly when trimming leaves nothing. -/
theorem scan_eq_nil_iff (cs : List Char) : Item.scan cs = [] ↔ Text.trimBlanks cs = [] := by
  rw [← scan_trimBlanks cs]
  constructor
  · intro h
    match ht : Text.trimBlanks cs with
    | [] => rfl
    | c :: rest =>
      obtain ⟨bs, _, heq⟩ := dropBlanks_eq_trimBlanks_append cs
      -- the trimmed text starts where the leading blanks end
      have hc : Text.isBlank c = false := by
        have hnot := List.head?_dropWhile_not Text.isBlank cs
        simp only [Text.dropBlanks] at heq
        rw [heq, ht] at hnot
        simpa using hnot
      rw [ht] at h
      by_cases hop : isOperator c = true
      · rw [scan_op hop] at h; cases h
      · rw [scan_word (by simp [isWordChar, hc, hop])] at h; cases h
  · intro h
    rw [h, Item.scan]

/-! ## Items read one by one -/

/-- The fault at an item, judged from the item before it (none for the first item): an operator
must follow a word; a word must read as a term, and after `/` its power must not be the least
32-bit integer. -/
def faultAt (isSymbol : String → Bool) : Option Item → Item → Option Fault
  | some (.word _), .op _ => none
  | _, .op c => some (.unexpected c)
  | prev, .word w =>
    match Term.ofWord isSymbol w with
    | .error fault => some fault
    | .ok t => if prev = some (.op '/') ∧ t.power.toInt = -2 ^ 31 then some .exponentOverflow else none

/-- The term of an item read after `prev`: a word's term, with its power negated after `/`. -/
def termAt (isSymbol : String → Bool) : Option Item → Item → Option Term
  | _, .op _ => none
  | prev, .word w =>
    match Term.ofWord isSymbol w with
    | .ok t => some (if prev = some (.op '/') then { t with power := -t.power } else t)
    | .error _ => none

/-- Each item with the item before it, the first one after `prev`. -/
def withPrevious (prev : Option Item) (items : List Item) : List (Option Item × Item) :=
  (prev :: items.map some).zip items

/-- Items read after `prev`: the fault of the leftmost item that has one; else the fault of a
last operator, which dangles; else the terms of the words in order. -/
def readAfter (isSymbol : String → Bool) (prev : Option Item) (items : List Item) :
    Except Fault (List Term) :=
  match (withPrevious prev items).findSome? (fun p => faultAt isSymbol p.1 p.2) with
  | some fault => .error fault
  | none =>
    match items.getLast?.or prev with
    | some (.op c) => .error (.dangling c)
    | _ => .ok ((withPrevious prev items).filterMap fun p => termAt isSymbol p.1 p.2)

/-- Items read from the start of a signature. -/
def readItems (isSymbol : String → Bool) (items : List Item) : Except Fault (List Term) :=
  readAfter isSymbol none items

section
variable {isSymbol : String → Bool}

/-- Reading one more item: its fault, or its term before the terms of the rest. -/
theorem readAfter_cons (prev : Option Item) (it : Item) (rest : List Item) :
    readAfter isSymbol prev (it :: rest) =
      match faultAt isSymbol prev it with
      | some fault => .error fault
      | none => (readAfter isSymbol (some it) rest).map ((termAt isSymbol prev it).toList ++ ·) := by
  have hsteps : withPrevious prev (it :: rest) = (prev, it) :: withPrevious (some it) rest := rfl
  have hlast : (it :: rest).getLast?.or prev = rest.getLast?.or (some it) := by
    simp [List.getLast?_cons]
  unfold readAfter
  rw [hsteps, hlast, List.findSome?_cons]
  cases faultAt isSymbol prev it with
  | some fault => rfl
  | none =>
    simp only [List.filterMap_cons]
    cases List.findSome? (fun p => faultAt isSymbol p.1 p.2) (withPrevious (some it) rest) with
    | some fault => rfl
    | none =>
      rcases rest.getLast?.or (some it) with _ | (c | w) <;>
        cases termAt isSymbol prev it <;> rfl

end

/-! ## The reading loop -/

/-- The operator that waits for a term after `prev`. -/
def pendingAfter : Option Item → Option Char
  | some (.op c) => some c
  | _ => none

theorem pendingAfter_eq_slash {prev : Option Item} :
    pendingAfter prev = some '/' ↔ prev = some (.op '/') := by
  rcases prev with _ | (c | w) <;> simp [pendingAfter]

theorem checkedNeg_eq_some {a : Int32} (h : a.toInt ≠ -2 ^ 31) : checkedNeg a = some (-a) := by
  rw [checkedNeg, if_neg h, Int32.ofInt_neg, Int32.ofInt_toInt]

theorem checkedNeg_eq_none {a : Int32} (h : a.toInt = -2 ^ 31) : checkedNeg a = none := by
  rw [checkedNeg, if_pos h]

section
variable {isSymbol : String → Bool}

/-- One word of the loop: its term, negated after `/`, before the terms of the rest. -/
theorem collect_word (started : Bool) (pending : Option Char) (w : String) (rest : List Item) :
    collect isSymbol started pending (.word w :: rest) =
      match Term.ofWord isSymbol w with
      | .error fault => .error fault
      | .ok t =>
        if pending = some '/' then
          match checkedNeg t.power with
          | some p => (collect isSymbol true none rest).map ({ t with power := p } :: ·)
          | none => .error .exponentOverflow
        else (collect isSymbol true none rest).map (t :: ·) := by
  simp only [collect]
  cases Term.ofWord isSymbol w with
  | error fault => rfl
  | ok t =>
    split
    · cases checkedNeg t.power <;> cases collect isSymbol true none rest <;> rfl
    · cases collect isSymbol true none rest <;> rfl

/-- The loop's state after `prev`, whether a term came before and which operator waits, is all
that reading item by item needs to know of the item before. -/
theorem collect_eq_readAfter (prev : Option Item) (items : List Item) :
    collect isSymbol prev.isSome (pendingAfter prev) items = readAfter isSymbol prev items := by
  induction items generalizing prev with
  | nil => rcases prev with _ | (c | w) <;> rfl
  | cons it rest ih =>
    rw [readAfter_cons]
    cases it with
    | op c =>
      rcases prev with _ | (d | w)
      · rfl
      · rfl
      · have h := ih (some (.op c))
        simp only [Option.isSome_some, pendingAfter] at h
        simp only [collect, faultAt, termAt, Option.isSome_some, pendingAfter, h]
        cases readAfter isSymbol (some (.op c)) rest <;> rfl
    | word w =>
      have h := ih (some (.word w))
      simp only [Option.isSome_some, pendingAfter] at h
      rw [collect_word]
      cases ht : Term.ofWord isSymbol w with
      | error fault => simp [faultAt, ht]
      | ok t =>
        by_cases hslash : prev = some (.op '/')
        · subst hslash
          by_cases hmin : t.power.toInt = -2 ^ 31
          · have hmin' : t.power.toInt = -2147483648 := hmin
            simp [faultAt, ht, hmin', checkedNeg_eq_none hmin, pendingAfter]
          · have hmin' : ¬t.power.toInt = -2147483648 := hmin
            simp [faultAt, termAt, ht, hmin', checkedNeg_eq_some hmin, pendingAfter, h]
        · have hpend : pendingAfter prev ≠ some '/' := fun hp => hslash (pendingAfter_eq_slash.1 hp)
          simp [faultAt, termAt, ht, hslash, hpend, h]

end

/-! ## Signatures -/

theorem parse_eq_readItems (isSymbol : String → Bool) (sig : String) :
    parse isSymbol sig =
      if Text.trimBlanks sig.toList = [] then .error (.malformed sig .noUnit)
      else (readItems isSymbol (Item.scan sig.toList)).mapError (.malformed sig) := by
  unfold parse
  cases hs : Item.scan sig.toList with
  | nil => rw [if_pos ((scan_eq_nil_iff _).1 hs)]
  | cons it rest =>
    have hne : Text.trimBlanks sig.toList ≠ [] := fun ht => by
      rw [(scan_eq_nil_iff _).2 ht] at hs
      cases hs
    rw [if_neg hne, readItems, ← collect_eq_readAfter]
    rfl

/-- Reading a signature is: no unit when trimming leaves nothing, and otherwise the items of the
trimmed text read one by one, a fault naming the signature as given. -/
theorem parse_eq_iff_readItems (isSymbol : String → Bool) (sig : String)
    (r : Except ParseError (List Term)) :
    parse isSymbol sig = r ↔
      ∃ items, Splits (Text.trimBlanks sig.toList) items ∧
        r = if Text.trimBlanks sig.toList = [] then .error (.malformed sig .noUnit)
          else (readItems isSymbol items).mapError (.malformed sig) := by
  have hitems : Item.scan (Text.trimBlanks sig.toList) = Item.scan sig.toList := scan_trimBlanks _
  rw [parse_eq_readItems]
  constructor
  · rintro rfl
    exact ⟨Item.scan sig.toList, hitems ▸ splits_scan _, rfl⟩
  · rintro ⟨items, hsplit, rfl⟩
    rw [← scan_of_splits hsplit, hitems]

example : (parse (fun _ => false) "m / s^-2*kg").toOption = some [⟨"m", 1⟩, ⟨"s", 2⟩, ⟨"kg", 1⟩] := by
  decide +kernel

end Signature
end Dimensional
