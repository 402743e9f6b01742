import SwapPayout.Amount
import SwapPayout.Proofs.Outcome

/-!
# Which amounts have a binary form

Drops have one when there can be so many, quantities of an issued asset when the asset is not the
ledger's own. Nothing else about an amount can stand in its way.
-/

namespace SwapPayout.Amount

theorem areDrops_iff {drops : Int} : areDrops drops = true ↔ 0 ≤ drops ∧ drops ≤ 10 ^ 17 := by
  rw [areDrops, Bool.and_eq_true, decide_eq_true_eq, decide_eq_true_eq]
  rfl

theorem ofDrops_eq_ok {drops : Int} {a : Amount} :
    ofDrops drops = .ok a ↔ areDrops drops = true ∧ a = native drops :=
  ite_ok_eq_ok

theorem toBytes_native_eq_ok {drops : Int} {bytes : Bytes} :
    (native drops).toBytes = .ok bytes ↔
      areDrops drops = true ∧ bytes = Bytes.ofNat 8 (2 ^ 62 + drops.toNat) :=
  ite_ok_eq_ok

theorem toBytes_issued_eq_ok {quantity : Quantity} {currency : Currency} {issuer : AccountId}
    {bytes : Bytes} :
    (issued quantity currency issuer).toBytes = .ok bytes ↔
      ¬ currency.isNative = true ∧
        bytes = quantity.toBytes ++ (currency.bytes ++ issuer.bytes) := by
  refine ite_error_eq_ok.trans (and_congr_right' ?_)
  rw [Except.ok.injEq, List.append_assoc, eq_comm]

/-- An amount that a payment can move: no more drops than there can be, or an asset that is not the
ledger's own. -/
inductive Movable : Amount → Prop where
  | native {drops : Int} (low : 0 ≤ drops) (high : drops ≤ 10 ^ 17) : Movable (native drops)
  | issued {quantity : Quantity} {currency : Currency} {issuer : AccountId}
      (other : currency ≠ .native) : Movable (issued quantity currency issuer)

/-- **An amount has a binary form when it can be moved.** -/
theorem exists_toBytes_eq_ok {a : Amount} : (∃ bytes, a.toBytes = .ok bytes) ↔ a.Movable := by
  constructor
  · rintro ⟨bytes, form⟩
    cases a with
    | native drops =>
      obtain ⟨low, high⟩ := areDrops_iff.mp (toBytes_native_eq_ok.mp form).1
      exact .native low high
    | issued quantity currency issuer =>
      exact .issued (mt beq_iff_eq.mpr (toBytes_issued_eq_ok.mp form).1)
  · rintro (⟨low, high⟩ | ⟨other⟩)
    · exact ⟨_, toBytes_native_eq_ok.mpr ⟨areDrops_iff.mpr ⟨low, high⟩, rfl⟩⟩
    · exact ⟨_, toBytes_issued_eq_ok.mpr ⟨mt beq_iff_eq.mp other, rfl⟩⟩

end SwapPayout.Amount
