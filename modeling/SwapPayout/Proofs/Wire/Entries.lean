import SwapPayout.Proofs.Wire.Length
import SwapPayout.Wire.Entry

/-!
# What entries come to

An object has a binary form when every one of its entries has a value, and then it is the entries'
headers and values in a row (`encodeEntries_cons_eq_ok`). So an object can be cut between any two
entries, and its form with it (`encodeEntries_append_eq_ok`). Whether there is a form at all is a
question to the values alone (`exists_encodeEntries_eq_ok`); a byte string has a value when it is
not too long (`exists_framed_eq_ok`).
-/

namespace SwapPayout.Wire

theorem Entry.encode_eq_ok {e : Entry} {bytes : Bytes} :
    e.encode = .ok bytes ↔ ∃ value, e.value = .ok value ∧ e.field.header ++ value = bytes :=
  map_eq_ok

@[simp] theorem encodeEntries_nil : encodeEntries [] = .ok [] := rfl

/-- **The form of an object starts with its first entry**: the header, the value, and the form of
the entries that follow. -/
theorem encodeEntries_cons_eq_ok {e : Entry} {es : List Entry} {bytes : Bytes} :
    encodeEntries (e :: es) = .ok bytes ↔
      ∃ value rest, e.value = .ok value ∧ encodeEntries es = .ok rest ∧
        bytes = e.field.header ++ (value ++ rest) := by
  unfold encodeEntries
  rw [map_eq_ok]
  constructor
  · rintro ⟨pieces, hpieces, rfl⟩
    rw [mapM_eq_ok, List.forall₂_cons_left_iff] at hpieces
    obtain ⟨piece, pieces', hpiece, hrest, rfl⟩ := hpieces
    obtain ⟨value, hvalue, rfl⟩ := Entry.encode_eq_ok.mp hpiece
    exact ⟨value, pieces'.flatten, hvalue, map_eq_ok.mpr ⟨_, mapM_eq_ok.mpr hrest, rfl⟩,
      by rw [List.flatten_cons, List.append_assoc]⟩
  · rintro ⟨value, rest, hvalue, hrest, rfl⟩
    obtain ⟨pieces, hpieces, rfl⟩ := map_eq_ok.mp hrest
    refine ⟨(e.field.header ++ value) :: pieces, mapM_eq_ok.mpr ?_,
      by rw [List.flatten_cons, List.append_assoc]⟩
    exact .cons (Entry.encode_eq_ok.mpr ⟨value, hvalue, rfl⟩) (mapM_eq_ok.mp hpieces)

/-- **The form of an object can be cut between its entries.** -/
theorem encodeEntries_append_eq_ok {es fs : List Entry} {bytes : Bytes} :
    encodeEntries (es ++ fs) = .ok bytes ↔
      ∃ a b, encodeEntries es = .ok a ∧ encodeEntries fs = .ok b ∧ bytes = a ++ b := by
  induction es generalizing bytes with
  | nil => simp
  | cons e es ih =>
    rw [List.cons_append, encodeEntries_cons_eq_ok]
    constructor
    · rintro ⟨value, rest, hvalue, hrest, rfl⟩
      obtain ⟨a, b, ha, hb, rfl⟩ := ih.mp hrest
      exact ⟨_, b, encodeEntries_cons_eq_ok.mpr ⟨value, a, hvalue, ha, rfl⟩, hb,
        by simp only [List.append_assoc]⟩
    · rintro ⟨a, b, ha, hb, rfl⟩
      obtain ⟨value, rest, hvalue, hrest, rfl⟩ := encodeEntries_cons_eq_ok.mp ha
      exact ⟨value, rest ++ b, hvalue, ih.mpr ⟨rest, b, hrest, hb, rfl⟩,
        by simp only [List.append_assoc]⟩

/-! ## Which objects have a form -/

theorem exists_framed_eq_ok {bytes : Bytes} :
    (∃ form, framed bytes = .ok form) ↔ bytes.length ≤ maxLength :=
  exists_map_eq_ok.trans exists_lengthHeader_eq_ok

/-- **An object has a form when every entry has a value.** -/
theorem exists_encodeEntries_eq_ok {es : List Entry} :
    (∃ bytes, encodeEntries es = .ok bytes) ↔ ∀ e ∈ es, ∃ value, e.value = .ok value := by
  refine exists_map_eq_ok.trans (exists_mapM_eq_ok.trans (forall₂_congr fun e _ => ?_))
  exact exists_map_eq_ok

end SwapPayout.Wire
