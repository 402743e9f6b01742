/-!
# Blank space

The characters that count as white space around a value, and a text without the blanks at its ends.
They are those that Unicode counts, not the ASCII ones alone.
-/

namespace SwapPayout.Text

/-- The 25 characters of white space: six ASCII ones and those beyond. -/
def isBlank (c : Char) : Bool :=
  let n := c.toNat
  (9 ≤ n && n ≤ 13) || n == 0x20 || n == 0x85 || n == 0xa0 || n == 0x1680
    || (0x2000 ≤ n && n ≤ 0x200a) || n == 0x2028 || n == 0x2029 || n == 0x202f || n == 0x205f
    || n == 0x3000

/-- The characters between the first and the last that are not blank. -/
def trimChars (cs : List Char) : List Char :=
  ((cs.dropWhile isBlank).reverse.dropWhile isBlank).reverse

/-- A text without blanks stays as it is. -/
theorem trimChars_of_forall {cs : List Char} (none : ∀ c ∈ cs, isBlank c = false) :
    trimChars cs = cs := by
  have kept (l : List Char) (h : ∀ c ∈ l, isBlank c = false) : l.dropWhile isBlank = l := by
    cases l with
    | nil => rfl
    | cons c l => exact List.dropWhile_cons_of_neg (by simpa using h c List.mem_cons_self)
  rw [trimChars, kept cs none, kept, List.reverse_reverse]
  intro c member
  exact none c (List.mem_reverse.mp member)

end SwapPayout.Text
