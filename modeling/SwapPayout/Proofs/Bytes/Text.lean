import SwapPayout.Bytes

/-!
# Texts as bytes

A text is sent as the bytes of its characters, one after the other (`Bytes.ofString_ofList`): one
byte for each of the first 128 characters (`Bytes.ofString_of_ascii`), more for the others. Bytes
are a text when they are the bytes of one, and then of one only (`Bytes.fromUTF8?_eq_some`).
-/

namespace SwapPayout.Bytes

theorem toList_loop (a : ByteArray) (i : Nat) (read : Bytes) :
    ByteArray.toList.loop a i read = read.reverse ++ a.data.toList.drop i := by
  fun_induction ByteArray.toList.loop a i read with
  | case1 i read more ih =>
    have within : i < a.data.toList.length := more
    have next : a.get! i = a.data.toList[i] := getElem!_pos a.data i more
    rw [ih, List.drop_eq_getElem_cons within, List.reverse_cons, List.append_assoc, next]
    rfl
  | case2 i read done =>
    have past : a.data.toList.length ≤ i := Nat.le_of_not_lt done
    rw [List.drop_eq_nil_of_le past, List.append_nil]

theorem ofString_eq (s : String) : ofString s = s.toByteArray.data.toList :=
  toList_loop s.toByteArray 0 []

theorem length_ofString (s : String) : (ofString s).length = s.utf8ByteSize := by
  rw [ofString_eq]
  rfl

/-- A text is written character by character. -/
theorem ofString_ofList (cs : List Char) :
    ofString (String.ofList cs) = cs.flatMap String.utf8EncodeChar := by
  rw [ofString_eq, String.toByteArray_ofList]
  exact List.toList_data_toByteArray

/-- What holds of the first 128 characters, one by one, holds of each. -/
theorem forall_ascii {p : Char → Prop} (table : ∀ n < 128, p (Char.ofNat n)) {c : Char}
    (ascii : c.toNat < 128) : p c := by
  have holds := table c.toNat ascii
  rwa [Char.ofNat_toNat] at holds

/-- Each of the first 128 characters has one byte. -/
theorem ofString_of_ascii {cs : List Char} (ascii : ∀ c ∈ cs, c.toNat < 128) :
    ofString (String.ofList cs) = cs.map fun c => UInt8.ofNat c.toNat := by
  have single : ∀ c ∈ cs, String.utf8EncodeChar c = [UInt8.ofNat c.toNat] := by
    intro c member
    have small : c.val ≤ 127 := UInt32.le_iff_toNat_le.mpr (Nat.le_of_lt_succ (ascii c member))
    exact String.utf8EncodeChar_eq_singleton (Char.utf8Size_eq_one_iff.mpr small)
  rw [ofString_ofList, List.map_eq_flatMap, List.flatMap_def, List.map_congr_left single,
    ← List.flatMap_def]

theorem utf8ByteSize_of_ascii {s : String} (ascii : ∀ c ∈ s.toList, c.toNat < 128) :
    s.utf8ByteSize = s.toList.length := by
  have bytes := ofString_of_ascii ascii
  rw [String.ofList_toList] at bytes
  rw [← length_ofString, bytes, List.length_map]

/-- **Bytes are a text when they are the bytes of one.** -/
theorem fromUTF8?_eq_some {bs : Bytes} {s : String} :
    String.fromUTF8? ⟨bs.toArray⟩ = some s ↔ ofString s = bs := by
  unfold String.fromUTF8?
  rw [ofString_eq]
  constructor
  · split
    · rintro ⟨⟩
      rfl
    · rintro ⟨⟩
  · rintro rfl
    exact dif_pos s.isValidUTF8

theorem ofString_inj {s s' : String} : ofString s = ofString s' ↔ s = s' := by
  refine ⟨fun same => ?_, congrArg ofString⟩
  have read := fromUTF8?_eq_some.mpr same
  rw [fromUTF8?_eq_some.mpr rfl] at read
  exact (Option.some.inj read).symm

end SwapPayout.Bytes
