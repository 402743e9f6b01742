import Mathlib.Data.List.TakeWhile

/-!
# Cutting texts

A reader that splits a text takes what stands before the first item that fails a test, and goes on
behind it. Cutting loses nothing (`exists_drop_takeWhile`), and what was put together is cut where
it was joined (`takeWhile_append_eq`). `exists_cut` and `takeWhile_cut` say both for the most common
test, that for one character.
-/

namespace SwapPayout.Text

section

variable {α : Type}

/-- A list is cut before the first item that fails a test. -/
theorem exists_drop_takeWhile (p : α → Bool) (l : List α) :
    ∃ rest, l = l.takeWhile p ++ rest ∧ l.drop (l.takeWhile p).length = rest ∧
      (rest = [] ∨ ∃ c t, rest = c :: t ∧ p c = false) := by
  have whole : l.takeWhile p ++ l.dropWhile p = l := List.takeWhile_append_dropWhile
  refine ⟨l.dropWhile p, whole.symm, ?_, ?_⟩
  · have behind : (l.takeWhile p ++ l.dropWhile p).drop (l.takeWhile p).length = l.dropWhile p :=
      List.drop_left
    rwa [whole] at behind
  · have stop := List.head?_dropWhile_not p l
    cases behind : l.dropWhile p with
    | nil => exact .inl rfl
    | cons c t =>
      rw [behind] at stop
      exact .inr ⟨c, t, rfl, stop⟩

/-- Where the items before pass the test and the next one does not, the cut is there. -/
theorem takeWhile_append_eq {p : α → Bool} {front rest : List α}
    (passes : ∀ c ∈ front, p c = true) (stops : ∀ c ∈ rest.head?, p c = false) :
    (front ++ rest).takeWhile p = front := by
  rw [List.takeWhile_append_of_pos passes]
  cases rest with
  | nil => rw [List.takeWhile_nil, List.append_nil]
  | cons c rest =>
    rw [List.takeWhile_cons_of_neg, List.append_nil]
    rw [stops c rfl]
    exact Bool.false_ne_true

end

variable {mark : Char}

/-- A text is without a character, or is cut where it first stands. -/
theorem exists_cut (mark : Char) (text : List Char) :
    (∀ c ∈ text, c ≠ mark) ∨
      ∃ front rest, text = front ++ mark :: rest ∧ ∀ c ∈ front, c ≠ mark := by
  have before : ∀ c ∈ text.takeWhile (· != mark), c ≠ mark := by
    intro c member
    have passes := List.mem_takeWhile_imp member
    exact bne_iff_ne.mp passes
  obtain ⟨rest, parts, -, rfl | ⟨c, rest, rfl, stop⟩⟩ := exists_drop_takeWhile (· != mark) text
  · rw [List.append_nil] at parts
    exact .inl (parts ▸ before)
  · obtain rfl : c = mark := by simpa using stop
    exact .inr ⟨_, rest, parts, before⟩

theorem takeWhile_cut {front rest : List Char} (plain : ∀ c ∈ front, c ≠ mark) :
    (front ++ mark :: rest).takeWhile (· != mark) = front :=
  takeWhile_append_eq (fun c member => bne_iff_ne.mpr (plain c member))
    (by rintro _ ⟨⟩; exact bne_self_eq_false mark)

end SwapPayout.Text
