import SwapPayout.Currency
import SwapPayout.Proofs.Bytes.Hex
import SwapPayout.Proofs.Bytes.Text

/-!
# Currencies in text

A code is read in three notations: the native name, three characters for the standard place, and
forty digits (`Currency.ofCode_eq_ok`). A currency is printed in three notations too, but the second
one is wider than what is read: whatever text the standard place holds is printed, be it a code or
not (`Currency.prints_text`).

So what is printed is read back as the currency, unless the standard place holds a text that is no
code. Such a text is refused, in all cases but one: the currency that holds the native name is
printed by it, and that is read as the ledger's own asset (`Currency.namesake_misread`). These two
are the only currencies that print alike. `Currency.printed` puts this together, for every
currency; and each of them can be configured, by its digits.
-/

namespace SwapPayout.Currency

variable {c c' : Currency} {s s' code : String}

theorem bytes_inj : c.bytes = c'.bytes ↔ c = c' := by
  refine ⟨fun same => ?_, congrArg bytes⟩
  obtain ⟨bytes, _⟩ := c
  obtain ⟨bytes', _⟩ := c'
  obtain rfl : bytes = bytes' := same
  rfl

theorem isNative_iff : c.isNative = true ↔ c = native := beq_iff_eq

/-! ## The standard place -/

/-- A currency holds a text in its standard place, and zeros around it. -/
def Holds (c : Currency) (s : String) : Prop :=
  c.bytes = List.replicate 12 0 ++ Bytes.ofString s ++ List.replicate 5 0

namespace Holds

theorem utf8ByteSize (h : c.Holds s) : s.utf8ByteSize = 3 := by
  have length := c.length_bytes
  rw [h, List.length_append, List.length_append, List.length_replicate, List.length_replicate,
    Bytes.length_ofString] at length
  omega

theorem eq (h : c.Holds s) (h' : c'.Holds s) : c = c' := bytes_inj.mp (h.trans h'.symm)

/-- A currency does not hold two texts. -/
theorem text_eq (h : c.Holds s) (h' : c.Holds s') : s = s' := by
  have same := h.symm.trans h'
  rw [List.append_cancel_right_eq, List.append_cancel_left_eq] at same
  exact Bytes.ofString_inj.mp same

end Holds

theorem standardBytes?_eq_some {bs : Bytes} :
    c.standardBytes? = some bs ↔ c.bytes = List.replicate 12 0 ++ bs ++ List.replicate 5 0 := by
  have length := c.length_bytes
  unfold standardBytes?
  constructor
  · intro h
    obtain ⟨zeros, same⟩ := Option.ite_none_right_eq_some.mp h
    obtain rfl := Option.some.inj same
    obtain ⟨front, back⟩ := Bool.and_eq_true_iff.mp zeros
    have before : c.bytes.take 12 = List.replicate 12 0 :=
      List.eq_replicate_iff.mpr ⟨by rw [List.length_take]; omega,
        fun b member => beq_iff_eq.mp (List.all_eq_true.mp front b member)⟩
    have after : c.bytes.drop 15 = List.replicate 5 0 :=
      List.eq_replicate_iff.mpr ⟨by rw [List.length_drop]; omega,
        fun b member => beq_iff_eq.mp (List.all_eq_true.mp back b member)⟩
    have rest : (c.bytes.drop 12).drop 3 = c.bytes.drop 15 := List.drop_drop
    rw [← before, ← after, ← rest, List.append_assoc, List.take_append_drop,
      List.take_append_drop]
  · intro h
    rw [h, List.length_append, List.length_append, List.length_replicate,
      List.length_replicate] at length
    obtain ⟨x, y, z, rfl⟩ := List.length_eq_three.mp (show bs.length = 3 by omega)
    rw [h]
    rfl

theorem bind_fromUTF8?_eq_some :
    (c.standardBytes?.bind fun bs => String.fromUTF8? ⟨bs.toArray⟩) = some s ↔ c.Holds s := by
  rw [Option.bind_eq_some_iff]
  constructor
  · rintro ⟨bs, place, read⟩
    obtain rfl := Bytes.fromUTF8?_eq_some.mp read
    exact standardBytes?_eq_some.mp place
  · intro holds
    exact ⟨_, standardBytes?_eq_some.mpr holds, Bytes.fromUTF8?_eq_some.mpr rfl⟩

/-! ## Printing -/

/-- What a currency is printed as. -/
inductive Prints (c : Currency) (printed : String) : Prop where
  | native (own : c = native) (name : printed = nativeName)
  | held (other : c ≠ native) (holds : c.Holds printed)
  | digits (other : c ≠ native) (strange : ∀ s, ¬ c.Holds s) (all : printed = Hex.upper c.bytes)

theorem prints_text (c : Currency) : c.Prints c.text := by
  unfold text isNative
  split
  · next own => exact .native (isNative_iff.mp own) rfl
  · next other =>
    have other : c ≠ native := mt isNative_iff.mpr other
    split
    · next held => exact .held other (bind_fromUTF8?_eq_some.mp held)
    · next strange =>
      refine .digits other (fun s holds => ?_) rfl
      rw [bind_fromUTF8?_eq_some.mpr holds] at strange
      cases strange

theorem text_of_holds (other : c ≠ native) (holds : c.Holds s) : c.text = s := by
  rcases c.prints_text with ⟨own, -⟩ | ⟨-, holds'⟩ | ⟨-, strange, -⟩
  · exact absurd own other
  · exact holds'.text_eq holds
  · exact absurd holds (strange s)

/-- Forty digits are printed for twenty bytes. -/
theorem utf8ByteSize_upper (c : Currency) : (Hex.upper c.bytes).utf8ByteSize = 40 := by
  rw [Hex.utf8ByteSize_of_decode (Hex.decode_upper c.bytes), c.length_bytes]

namespace Prints

variable {printed : String}

/-- What is as long as digits is digits. -/
theorem eq_upper (h : c.Prints printed) (long : printed.utf8ByteSize = 40) :
    printed = Hex.upper c.bytes := by
  rcases h with ⟨-, rfl⟩ | ⟨-, holds⟩ | ⟨-, -, all⟩
  · exact absurd long (by decide)
  · rw [holds.utf8ByteSize] at long
    cases long
  · exact all

theorem of_short (h : c.Prints printed) (short : printed.utf8ByteSize ≠ 40) :
    (c = Currency.native ∧ printed = nativeName) ∨ c.Holds printed := by
  rcases h with ⟨own, name⟩ | ⟨-, holds⟩ | ⟨-, -, rfl⟩
  · exact .inl ⟨own, name⟩
  · exact .inr holds
  · exact absurd c.utf8ByteSize_upper short

end Prints

/-! ## Reading -/

/-- A text is a code: three characters that a code may have, other than the native name. -/
structure IsCode (s : String) : Prop where
  other : s ≠ nativeName
  three : s.toList.length = 3
  all : ∀ c ∈ s.toList, isCodeChar c = true

theorem toNat_lt_of_isCodeChar {a : Char} (h : isCodeChar a = true) : a.toNat < 128 := by
  have below {last : Char} (le : a ≤ last) (ascii : last.toNat < 128) : a.toNat < 128 :=
    Nat.lt_of_le_of_lt (UInt32.le_iff_toNat_le.mp le) ascii
  simp only [isCodeChar, Bool.or_eq_true, Bool.and_eq_true, decide_eq_true_eq] at h
  rcases h with ((⟨-, upper⟩ | ⟨-, lower⟩) | ⟨-, digit⟩) | mark
  · exact below upper (by decide)
  · exact below lower (by decide)
  · exact below digit (by decide)
  · have ascii := List.all_eq_true (p := fun c => decide (c.toNat < 128)).mp (by decide) a
      (List.contains_iff_mem.mp mark)
    exact of_decide_eq_true ascii

/-- A code stands for the bytes of its characters. -/
theorem holds_standard {x y z : Char} (chars : s.toList = [x, y, z])
    (all : ∀ c ∈ s.toList, isCodeChar c = true) :
    (standard (UInt8.ofNat x.toNat) (UInt8.ofNat y.toNat) (UInt8.ofNat z.toNat)).Holds s := by
  have ascii : ∀ c ∈ s.toList, c.toNat < 128 :=
    fun c member => toNat_lt_of_isCodeChar (all c member)
  have bytes := Bytes.ofString_of_ascii ascii
  rw [String.ofList_toList, chars] at bytes
  rw [Holds, bytes]
  rfl

theorem ofCode_of_three {x y z : Char} (other : code ≠ nativeName)
    (chars : code.toList = [x, y, z]) :
    ofCode code =
      if isCodeChar x && isCodeChar y && isCodeChar z then
        .ok (standard (UInt8.ofNat x.toNat) (UInt8.ofNat y.toNat) (UInt8.ofNat z.toNat))
      else .error (.currency code) := by
  rw [ofCode, if_neg other, chars]

theorem ofCode_of_long (long : code.toList.length ≠ 3) :
    ofCode code = (ofHex? code).elim (.error (.currency code)) .ok := by
  have other : code ≠ nativeName := by
    rintro rfl
    exact long (by decide)
  unfold ofCode
  rw [if_neg other]
  split
  · next chars =>
    rw [chars] at long
    exact absurd rfl long
  · cases ofHex? code <;> rfl

theorem ofHex?_eq_some : ofHex? code = some c ↔ Hex.decode code = .ok c.bytes := by
  unfold ofHex? ofBytes?
  constructor
  · intro h
    obtain ⟨bytes, decoded, h⟩ := Option.bind_eq_some_iff.mp h
    split at h
    · cases h
      exact toOption_eq_some.mp decoded
    · cases h
  · intro h
    exact Option.bind_eq_some_iff.mpr ⟨_, toOption_eq_some.mpr h, dif_pos c.length_bytes⟩

/-- **A code is read in three notations.** -/
theorem ofCode_eq_ok :
    ofCode code = .ok c ↔
      (code = nativeName ∧ c = native) ∨ (IsCode code ∧ c.Holds code) ∨
        Hex.decode code = .ok c.bytes := by
  constructor
  · intro h
    by_cases name : code = nativeName
    · rw [ofCode, if_pos name] at h
      exact .inl ⟨name, (Except.ok.inj h).symm⟩
    right
    by_cases three : code.toList.length = 3
    · obtain ⟨x, y, z, chars⟩ := List.length_eq_three.mp three
      obtain ⟨all, rfl⟩ := ite_ok_eq_ok.mp ((ofCode_of_three name chars).symm.trans h)
      have codeChars : ∀ c ∈ code.toList, isCodeChar c = true := by
        rw [chars]
        simpa [and_assoc] using all
      exact .inl ⟨⟨name, three, codeChars⟩, holds_standard chars codeChars⟩
    · rw [ofCode_of_long three] at h
      cases read : ofHex? code with
      | none =>
        rw [read] at h
        cases h
      | some found =>
        rw [read] at h
        cases h
        exact .inr (ofHex?_eq_some.mp read)
  · rintro (⟨rfl, rfl⟩ | ⟨isCode, holds⟩ | digits)
    · rfl
    · obtain ⟨x, y, z, chars⟩ := List.length_eq_three.mp isCode.three
      have all : (isCodeChar x && isCodeChar y && isCodeChar z) = true := by
        have codeChars := isCode.all
        rw [chars] at codeChars
        simpa [and_assoc] using codeChars
      rw [ofCode_of_three isCode.other chars, if_pos all]
      exact congrArg Except.ok ((holds_standard chars isCode.all).eq holds)
    · have forty := Hex.length_of_decode digits
      rw [c.length_bytes] at forty
      rw [ofCode_of_long (by omega), ofHex?_eq_some.mpr digits]
      rfl

/-- There is one way to be refused. -/
theorem eq_of_ofCode_eq_error {e : FormatError} (h : ofCode code = .error e) :
    e = .currency code := by
  unfold ofCode at h
  split at h
  · cases h
  · split at h
    · exact (ite_ok_eq_error.mp h).2
    · split at h
      · cases h
      · exact (Except.error.inj h).symm

/-! ## The ledger's own asset -/

/-- The digits of the ledger's own asset. -/
def nativeDigits : String := "0000000000000000000000000000000000000000"

theorem toList_nativeDigits : nativeDigits.toList = List.replicate 40 '0' := by decide

theorem upper_native : Hex.upper native.bytes = nativeDigits := by decide

/-- No letter is a zero in upper case. -/
theorem eq_zero_of_toUpper {a : Char} (h : a.toUpper = '0') : a = '0' := by
  unfold Char.toUpper at h
  split at h
  · next letter =>
    have low : 97 ≤ a.toNat := UInt32.le_iff_toNat_le.mp letter.1
    have high : a.toNat ≤ 122 := UInt32.le_iff_toNat_le.mp letter.2
    have same := congrArg Char.toNat h
    have capital : (a.val + ('A'.val - 'a'.val)).toNat = (a.toNat + 4294967264) % 4294967296 :=
      UInt32.toNat_add ..
    have zero : (a.toNat + 4294967264) % 4294967296 = '0'.toNat := capital.symm.trans same
    have digit : '0'.toNat = 48 := rfl
    omega
  · exact h

theorem decode_eq_native : Hex.decode code = .ok native.bytes ↔ code = nativeDigits := by
  constructor
  · intro digits
    have same := congrArg String.toList (Hex.upper_of_decode digits)
    rw [upper_native, String.toUpper, String.toList_map] at same
    obtain ⟨forty, zeros⟩ := List.eq_replicate_iff.mp (same.symm.trans toList_nativeDigits)
    apply String.toList_inj.mp
    rw [toList_nativeDigits, List.eq_replicate_iff]
    refine ⟨by rw [← forty, List.length_map], fun a member => eq_zero_of_toUpper ?_⟩
    exact zeros _ (List.mem_map_of_mem member)
  · rintro rfl
    rw [← upper_native]
    exact Hex.decode_upper native.bytes

/-- No code has a character of zero. -/
theorem not_holds_native (isCode : IsCode code) : ¬ native.Holds code := by
  intro holds
  have ascii : ∀ c ∈ List.replicate 3 '\x00', c.toNat < 128 := by
    intro c member
    rw [List.eq_of_mem_replicate member]
    decide
  have zeros : native.Holds (String.ofList (List.replicate 3 '\x00')) := by
    rw [Holds, Bytes.ofString_of_ascii ascii]
    rfl
  have all := isCode.all
  rw [holds.text_eq zeros, String.toList_ofList] at all
  exact absurd (all '\x00' (List.mem_cons_self ..)) (by decide)

/-- **Two codes stand for the ledger's own asset**: its name and its digits. -/
theorem ofCode_eq_native : ofCode code = .ok native ↔ code = nativeName ∨ code = nativeDigits := by
  rw [ofCode_eq_ok, decode_eq_native]
  constructor
  · rintro (⟨name, -⟩ | ⟨isCode, holds⟩ | digits)
    · exact .inl name
    · exact absurd holds (not_holds_native isCode)
    · exact .inr digits
  · rintro (name | digits)
    · exact .inl ⟨name, rfl⟩
    · exact .inr (.inr digits)

/-! ## Reading what was printed -/

/-- The standard place holds a text that is no code. -/
def Misprinted (c : Currency) : Prop := c ≠ native ∧ ∃ s, c.Holds s ∧ ¬ IsCode s

/-- The currency that holds the native name. -/
def namesake : Currency := standard 88 82 80

theorem holds_namesake : namesake.Holds nativeName :=
  holds_standard (x := 'X') (y := 'R') (z := 'P') rfl (List.all_eq_true.mp (by decide))

theorem namesake_ne_native : namesake ≠ native := by decide

theorem text_native : native.text = nativeName := if_pos (by decide)

theorem text_namesake : namesake.text = nativeName :=
  text_of_holds namesake_ne_native holds_namesake

/-- **What is printed is read back**, unless it is no code. -/
theorem ofCode_text (regular : ¬ c.Misprinted) : ofCode c.text = .ok c := by
  refine ofCode_eq_ok.mpr ?_
  rcases c.prints_text with ⟨own, name⟩ | ⟨other, holds⟩ | ⟨-, -, all⟩
  · exact .inl ⟨name, own⟩
  · by_cases isCode : IsCode c.text
    · exact .inr (.inl ⟨isCode, holds⟩)
    · exact absurd ⟨other, _, holds, isCode⟩ regular
  · rw [all]
    exact .inr (.inr (Hex.decode_upper c.bytes))

/-- A text that is no code is refused, unless it is the native name. -/
theorem ofCode_text_of_misprinted (h : c.Misprinted) :
    ofCode c.text = if c = namesake then .ok native else .error (.currency c.text) := by
  obtain ⟨other, s, holds, noCode⟩ := h
  rw [text_of_holds other holds]
  split
  · next same =>
    rw [same] at holds
    rw [holds.text_eq holds_namesake]
    rfl
  · next distinct =>
    cases read : ofCode s with
    | error e => rw [eq_of_ofCode_eq_error read]
    | ok found =>
      rcases ofCode_eq_ok.mp read with ⟨rfl, -⟩ | ⟨isCode, -⟩ | digits
      · exact absurd (holds.eq holds_namesake) distinct
      · exact absurd isCode noCode
      · have forty := Hex.utf8ByteSize_of_decode digits
        rw [holds.utf8ByteSize, found.length_bytes] at forty
        cases forty

/-- **Two currencies print alike in one case.** -/
theorem eq_of_text_eq (same : c'.text = c.text) :
    c' = c ∨ (c = native ∧ c' = namesake) ∨ (c = namesake ∧ c' = native) := by
  have first := c'.prints_text
  have second := c.prints_text
  rw [same] at first
  by_cases long : c.text.utf8ByteSize = 40
  · have alike := (first.eq_upper long).symm.trans (second.eq_upper long)
    exact .inl (bytes_inj.mp (Hex.upper_inj.mp alike))
  · rcases first.of_short long with ⟨own, name⟩ | holds
    · rcases second.of_short long with ⟨own', -⟩ | holds'
      · exact .inl (own.trans own'.symm)
      · rw [name] at holds'
        exact .inr (.inr ⟨holds'.eq holds_namesake, own⟩)
    · rcases second.of_short long with ⟨own', name⟩ | holds'
      · rw [name] at holds
        exact .inr (.inl ⟨own', holds.eq holds_namesake⟩)
      · exact .inl (holds.eq holds')

theorem text_eq_nativeName_iff : c.text = nativeName ↔ c = native ∨ c = namesake := by
  constructor
  · intro name
    rcases eq_of_text_eq (name.trans text_native.symm) with own | ⟨-, same⟩ | ⟨other, -⟩
    · exact .inl own
    · exact .inr same
    · exact absurd other.symm namesake_ne_native
  · rintro (rfl | rfl)
    · exact text_native
    · exact text_namesake

/-- **A currency in text**: what it is read from, what is printed for it, and what that is read
as. -/
structure Printed (c : Currency) : Prop where
  configured : ofCode (Hex.upper c.bytes) = .ok c
  regular : ¬ c.Misprinted → ofCode c.text = .ok c
  misprinted : c.Misprinted →
    ofCode c.text = if c = namesake then .ok native else .error (.currency c.text)
  alike : ∀ c' : Currency, c'.text = c.text →
    c' = c ∨ (c = native ∧ c' = namesake) ∨ (c = namesake ∧ c' = native)
  named : c.text = nativeName ↔ c = native ∨ c = namesake

/-- **Every currency is printed as a text that is read back as it**, when what it holds in its
standard place is a code or no text at all. Otherwise the text is refused, but for that of the
namesake of the ledger's own asset; and no other two currencies print alike. -/
theorem printed (c : Currency) : c.Printed where
  configured := ofCode_eq_ok.mpr (.inr (.inr (Hex.decode_upper c.bytes)))
  regular := ofCode_text
  misprinted := ofCode_text_of_misprinted
  alike _ := eq_of_text_eq
  named := text_eq_nativeName_iff

/-- **An issued currency can be printed as the ledger's own asset**: it is configured by the digits
of the native name, and is printed by the name. -/
theorem namesake_misread :
    ofCode "0000000000000000000000005852500000000000" = .ok namesake ∧ namesake ≠ native ∧
      namesake.text = nativeName ∧ ofCode namesake.text = .ok native := by
  have digits : "0000000000000000000000005852500000000000" = Hex.upper namesake.bytes := by decide
  refine ⟨?_, namesake_ne_native, text_namesake, ?_⟩
  · rw [digits]
    exact ofCode_eq_ok.mpr (.inr (.inr (Hex.decode_upper _)))
  · rw [text_namesake]
    rfl

end SwapPayout.Currency
