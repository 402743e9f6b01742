import SwapPayout.Proofs.Outcome
import SwapPayout.Text.Integer

/-!
# Numbers that were written as digits

A number that the library writes itself is read back as it was, or refused as too large
(`readInt_toString`). Digits are read from the left against a limit, and what has been read so far
never exceeds what all of them spell, so the limit is passed at some digit exactly when it is passed
at the end (`readDigits_eq`). Nothing but a sign and digits is read as an integer (`readInt_eq_ok`).
-/

namespace SwapPayout.Text

theorem digitValue?_of_isDigit {c : Char} (h : c.isDigit = true) :
    digitValue? c = some (c.toNat - 48) := by
  obtain ⟨low, high⟩ := Char.isDigit_iff_toNat.mp h
  exact if_pos ⟨low, high⟩

/-- Digits that follow make no number smaller. -/
theorem le_ofDigitChars (digits : List Char) (n : Nat) : n ≤ Nat.ofDigitChars 10 digits n := by
  induction digits generalizing n with
  | nil => exact Nat.le_refl n
  | cons c digits ih =>
    rw [Nat.ofDigitChars_cons]
    refine Nat.le_trans ?_ (ih _)
    omega

/-- **Digits are read as the number that they spell**, unless it is beyond the limit. -/
theorem readDigits_eq {limit : Nat} {beyond : IntegerError} {digits : List Char} {n : Nat}
    (all : ∀ c ∈ digits, c.isDigit = true) (within : n ≤ limit) :
    readDigits limit beyond n digits =
      if Nat.ofDigitChars 10 digits n ≤ limit then .ok (Nat.ofDigitChars 10 digits n)
      else .error beyond := by
  induction digits generalizing n with
  | nil => exact (if_pos within).symm
  | cons c digits ih =>
    obtain ⟨first, others⟩ := List.forall_mem_cons.mp all
    have step : n * 10 + (c.toNat - 48) = 10 * n + (c.toNat - 48) := by rw [Nat.mul_comm]
    rw [readDigits, digitValue?_of_isDigit first, Nat.ofDigitChars_cons]
    show (if n * 10 + (c.toNat - 48) ≤ limit then
      readDigits limit beyond (n * 10 + (c.toNat - 48)) digits else .error beyond) = _
    rw [step]
    split
    · next fits => exact ih others fits
    · next past =>
      -- Past the limit the digits to come are not looked at.
      have more := le_ofDigitChars digits (10 * n + (c.toNat - 48))
      exact (if_neg fun le => past (Nat.le_trans more le)).symm

/-- Without a sign, an integer is what its digits spell. -/
theorem readInt_of_digits {limit : Nat} {text : List Char} (filled : text ≠ [])
    (all : ∀ c ∈ text, c.isDigit = true) :
    readInt limit text = (readDigits limit .aboveRange 0 text).map Int.ofNat := by
  have unsigned (sign : Char) (rest : List Char) (h : sign.isDigit = false) :
      text ≠ sign :: rest := by
    rintro rfl
    exact Bool.noConfusion (h.symm.trans (all sign (List.mem_cons_self ..)))
  unfold readInt
  split
  · exact absurd rfl filled
  · exact absurd rfl (unsigned '+' [] (by decide))
  · exact absurd rfl (unsigned '-' [] (by decide))
  · exact absurd rfl (unsigned '+' _ (by decide))
  · exact absurd rfl (unsigned '-' _ (by decide))
  · rfl

/-- **A number in digits is read back**, or is too large. -/
theorem readInt_toString (limit n : Nat) :
    readInt limit (toString n).toList =
      if n ≤ limit then .ok (n : Int) else .error .aboveRange := by
  have digits : ∀ c ∈ Nat.toDigits 10 n, c.isDigit = true := fun c hc =>
    Nat.isDigit_of_mem_toDigits (by decide) (by decide) hc
  rw [Nat.toString_eq_repr, Nat.toList_repr, readInt_of_digits Nat.toDigits_ne_nil digits,
    readDigits_eq digits (Nat.zero_le _), Nat.ofDigitChars_ten_toDigits]
  split <;> rfl

/-! ## Signed digits -/

theorem digitValue?_eq_some {c : Char} {d : Nat} :
    digitValue? c = some d ↔ c.isDigit = true ∧ d = c.toNat - 48 := by
  constructor
  · intro h
    unfold digitValue? at h
    split at h
    · next between =>
      cases h
      exact ⟨Char.isDigit_iff_toNat.mpr between, rfl⟩
    · cases h
  · rintro ⟨digit, rfl⟩
    exact digitValue?_of_isDigit digit

theorem isDigit_of_readDigits {limit : Nat} {beyond : IntegerError} {digits : List Char} {n v : Nat}
    (h : readDigits limit beyond n digits = .ok v) : ∀ c ∈ digits, c.isDigit = true := by
  induction digits generalizing n with
  | nil => nofun
  | cons c digits ih =>
    rw [readDigits] at h
    split at h
    · cases h
    · next d value =>
      split at h
      · exact List.forall_mem_cons.mpr ⟨(digitValue?_eq_some.mp value).1, ih h⟩
      · cases h

/-- What is read from digits is digits, and what they spell, within the limit. -/
theorem readDigits_eq_ok {limit : Nat} {beyond : IntegerError} {digits : List Char} {v : Nat} :
    readDigits limit beyond 0 digits = .ok v ↔
      (∀ c ∈ digits, c.isDigit = true) ∧ v = Nat.ofDigitChars 10 digits 0 ∧ v ≤ limit := by
  constructor
  · intro h
    have all := isDigit_of_readDigits h
    rw [readDigits_eq all (Nat.zero_le _)] at h
    obtain ⟨within, rfl⟩ := ite_ok_eq_ok.mp h
    exact ⟨all, rfl, within⟩
  · rintro ⟨all, rfl, within⟩
    rw [readDigits_eq all (Nat.zero_le _), if_pos within]

/-- A sign in front of digits. -/
inductive Sign where
  | absent
  | plus
  | minus
  deriving DecidableEq

namespace Sign

def chars : Sign → List Char
  | absent => []
  | plus => ['+']
  | minus => ['-']

def isNegative : Sign → Bool
  | absent | plus => false
  | minus => true

def apply : Sign → Nat → Int
  | absent, n | plus, n => n
  | minus, n => -n

end Sign

/-- **What is read as an integer is a sign and digits**, and the number that they spell. -/
theorem readInt_eq_ok {limit : Nat} {text : List Char} {v : Int} :
    readInt limit text = .ok v ↔
      ∃ (sign : Sign) (digits : List Char), text = sign.chars ++ digits ∧ digits ≠ [] ∧
        (∀ c ∈ digits, c.isDigit = true) ∧ v = sign.apply (Nat.ofDigitChars 10 digits 0) ∧
        -(limit : Int) - 1 ≤ v ∧ v ≤ limit := by
  constructor
  · intro h
    unfold readInt at h
    split at h
    · cases h
    · cases h
    · cases h
    · next digits lone =>
      obtain ⟨n, read, rfl⟩ := map_eq_ok.mp h
      obtain ⟨all, rfl, within⟩ := readDigits_eq_ok.mp read
      refine ⟨.plus, digits, rfl, ?_, all, rfl, ?_, ?_⟩
      · rintro rfl
        exact lone rfl
      · rw [Int.ofNat_eq_natCast]
        omega
      · exact Int.ofNat_le.mpr within
    · next digits lone =>
      obtain ⟨_, widened, rfl⟩ := map_eq_ok.mp h
      obtain ⟨n, read, same⟩ := bind_eq_ok.mp widened
      obtain rfl := pure_eq_ok.mp same
      obtain ⟨all, rfl, within⟩ := readDigits_eq_ok.mp read
      refine ⟨.minus, digits, rfl, ?_, all, rfl, ?_, ?_⟩
      · rintro rfl
        exact lone rfl
      · omega
      · omega
    · next filled _ _ _ _ =>
      obtain ⟨n, read, rfl⟩ := map_eq_ok.mp h
      obtain ⟨all, rfl, within⟩ := readDigits_eq_ok.mp read
      refine ⟨.absent, text, rfl, filled, all, rfl, ?_, ?_⟩
      · rw [Int.ofNat_eq_natCast]
        omega
      · exact Int.ofNat_le.mpr within
  · rintro ⟨sign, digits, rfl, filled, all, rfl, low, high⟩
    obtain ⟨c, rest, rfl⟩ := List.exists_cons_of_ne_nil filled
    cases sign with
    | absent =>
      rw [Sign.chars, List.nil_append, readInt_of_digits filled all]
      exact map_eq_ok.mpr ⟨_, readDigits_eq_ok.mpr ⟨all, rfl, Int.ofNat_le.mp high⟩, rfl⟩
    | plus =>
      exact map_eq_ok.mpr ⟨_, readDigits_eq_ok.mpr ⟨all, rfl, Int.ofNat_le.mp high⟩, rfl⟩
    | minus =>
      have within : Nat.ofDigitChars 10 (c :: rest) 0 ≤ limit + 1 := by
        simp only [Sign.apply] at low
        omega
      exact map_eq_ok.mpr
        ⟨_, bind_eq_ok.mpr ⟨_, readDigits_eq_ok.mpr ⟨all, rfl, within⟩, rfl⟩, rfl⟩

end SwapPayout.Text
