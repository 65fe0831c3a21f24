/-!
Blank characters: the code points with Unicode's White_Space property, and trimming them from
both ends of a text. ASCII has six of them (tab, line feed, vertical tab, form feed, carriage
return, space); the other nineteen include the no-break space, the em space, the line and
paragraph separators and the ideographic space.
-/

namespace Dimensional
namespace Text

/-- Whether `c` has the White_Space property. -/
def isBlank (c : Char) : Bool :=
  let n := c.toNat
  (0x09 ≤ n && n ≤ 0x0D) || n == 0x20 || n == 0x85 || n == 0xA0 || n == 0x1680 ||
    (0x2000 ≤ n && n ≤ 0x200A) || n == 0x2028 || n == 0x2029 || n == 0x202F ||
    n == 0x205F || n == 0x3000

/-- The characters of `cs` after its leading blanks. -/
def dropBlanks (cs : List Char) : List Char := cs.dropWhile isBlank

/-- The characters of `cs` without leading and trailing blanks. -/
def trimBlanks (cs : List Char) : List Char :=
  (dropBlanks (dropBlanks cs).reverse).reverse

/-- `s` without leading and trailing blanks. -/
def trim (s : String) : String := String.ofList (trimBlanks s.toList)

theorem isBlank_of_isWhitespace (c : Char) (h : c.isWhitespace = true) : isBlank c = true := by
  simp only [Char.isWhitespace, Bool.or_eq_true, decide_eq_true_eq] at h
  simp only [isBlank, Bool.or_eq_true, Bool.and_eq_true, beq_iff_eq, decide_eq_true_eq]
  rcases h with ((h | h) | h) | h <;> simp [h, Char.toNat]

end Text
end Dimensional
