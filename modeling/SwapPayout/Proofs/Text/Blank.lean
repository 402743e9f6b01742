import SwapPayout.Text.Blank

/-!
# Blanks around a value

Trimming takes blanks away at the two ends of a text and nothing else: what is left stands between
blanks (`surrounded_trimChars`), and a value without blanks is found again whatever blanks are put
around it (`Surrounded.trimChars_eq`).
-/

namespace SwapPayout.Text

/-- A text is a value with blanks around it, or none. -/
def Surrounded (text core : List Char) : Prop :=
  ∃ front back, (∀ c ∈ front, isBlank c = true) ∧ (∀ c ∈ back, isBlank c = true) ∧
    text = front ++ core ++ back

theorem dropWhile_isBlank {cs : List Char} (blank : ∀ c ∈ cs, isBlank c = true) :
    cs.dropWhile isBlank = [] := by
  have none : (cs ++ []).dropWhile isBlank = [].dropWhile isBlank :=
    List.dropWhile_append_of_pos blank
  rwa [List.append_nil] at none

theorem trimChars_append_left {front : List Char} (blank : ∀ c ∈ front, isBlank c = true)
    (cs : List Char) : trimChars (front ++ cs) = trimChars cs := by
  rw [trimChars, List.dropWhile_append_of_pos blank]
  rfl

theorem trimChars_append_right {back : List Char} (blank : ∀ c ∈ back, isBlank c = true)
    (cs : List Char) : trimChars (cs ++ back) = trimChars cs := by
  have blank' : ∀ c ∈ back.reverse, isBlank c = true :=
    fun c member => blank c (List.mem_reverse.mp member)
  rw [trimChars, trimChars, List.dropWhile_append]
  split
  · next empty => rw [List.isEmpty_iff.mp empty, dropWhile_isBlank blank]
  · rw [List.reverse_append, List.dropWhile_append_of_pos blank']

/-- **Blanks around a value are taken away.** -/
theorem Surrounded.trimChars_eq {text core : List Char} (h : Surrounded text core)
    (none : ∀ c ∈ core, isBlank c = false) : trimChars text = core := by
  obtain ⟨front, back, before, behind, rfl⟩ := h
  rw [List.append_assoc, trimChars_append_left before, trimChars_append_right behind,
    trimChars_of_forall none]

/-- **Nothing but blanks is taken away.** -/
theorem surrounded_trimChars (text : List Char) : Surrounded text (trimChars text) := by
  refine ⟨text.takeWhile isBlank,
    ((text.dropWhile isBlank).reverse.takeWhile isBlank).reverse, ?_, ?_, ?_⟩
  · intro c member
    exact List.all_eq_true.mp List.all_takeWhile c member
  · intro c member
    exact List.all_eq_true.mp List.all_takeWhile c (List.mem_reverse.mp member)
  · rw [trimChars, List.append_assoc, ← List.reverse_append, List.takeWhile_append_dropWhile,
      List.reverse_reverse, List.takeWhile_append_dropWhile]

theorem trimChars_eq_nil_iff {text : List Char} :
    trimChars text = [] ↔ ∀ c ∈ text, isBlank c = true := by
  constructor
  · intro empty
    obtain ⟨front, back, before, behind, rest⟩ := surrounded_trimChars text
    rw [rest, empty, List.append_nil]
    exact List.forall_mem_append.mpr ⟨before, behind⟩
  · intro blank
    rw [trimChars, dropWhile_isBlank blank]
    rfl

end SwapPayout.Text
