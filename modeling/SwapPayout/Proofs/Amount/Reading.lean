import SwapPayout.Proofs.Amount.Form
import SwapPayout.Proofs.Wire.Reader

/-!
# Amounts read back

The eight bytes of a quantity are a number with four parts: a marker, the sign, the exponent from 1,
the mantissa. They do not overlap, since the exponent stays below `2 ^ 8` and the mantissa below
`2 ^ 54`; so `Quantity.ofCode?` finds each of them again, and zero, which has no exponent, is told
apart from all others (`Quantity.ofCode?_code`).

Drops stay below `2 ^ 62` and quantities from `2 ^ 63`, so the first eight bytes say how the amount
goes on: `Amount.readsBack`.
-/

namespace SwapPayout

namespace Quantity

/-- The quantity with this code. -/
def ofCode? (n : Nat) : Option Quantity :=
  if n = 2 ^ 63 then some zero
  else
    let exponent : Int := (n / 2 ^ 54 % 2 ^ 8 : Nat) - 97
    let mantissa := n % 2 ^ 54
    if h : 10 ^ 15 ≤ mantissa ∧ mantissa < 10 ^ 16 ∧ -96 ≤ exponent ∧ exponent ≤ 80 then
      some ⟨n / 2 ^ 62 % 2 == 0, mantissa, exponent, .inr h⟩
    else none

/-- The marker bit is set in every code. -/
theorem le_code (q : Quantity) : 2 ^ 63 ≤ q.code := by
  unfold code
  split <;> omega

theorem code_lt (q : Quantity) : q.code < 2 ^ 64 := by
  have := q.normal
  unfold code
  split
  · decide
  · split <;> omega

/-- **The parts of a code do not overlap**: each is found again. -/
theorem ofCode?_code (q : Quantity) : ofCode? q.code = some q := by
  obtain ⟨negative, mantissa, exponent, normal⟩ := q
  rcases normal with ⟨rfl, rfl, rfl⟩ | normal
  · rfl
  · -- With the exponent as a natural number the code is a sum of four parts that do not overlap.
    obtain ⟨k, hk⟩ : ∃ k : Nat, exponent + 97 = k := ⟨(exponent + 97).toNat, by omega⟩
    have nonzero : ¬ (mantissa == 0) = true := by simp; omega
    obtain ⟨n, hn⟩ : ∃ n, n = 2 ^ 63 + (if negative then 0 else 2 ^ 62) + k * 2 ^ 54 + mantissa :=
      ⟨_, rfl⟩
    have code : Quantity.code ⟨negative, mantissa, exponent, .inr normal⟩ = n := by
      simp only [Quantity.code, isZero, if_neg nonzero, hk, hn, Int.toNat_natCast]
    have mantissa_eq : n % 2 ^ 54 = mantissa := by
      rw [hn]; split <;> omega
    have exponent_eq : n / 2 ^ 54 % 2 ^ 8 = k := by
      rw [hn]; split <;> omega
    have negative_eq : (n / 2 ^ 62 % 2 == 0) = negative := by
      rw [hn]; cases negative <;> simp <;> omega
    have marked : n ≠ 2 ^ 63 := by
      rw [hn]; split <;> omega
    have range : 10 ^ 15 ≤ n % 2 ^ 54 ∧ n % 2 ^ 54 < 10 ^ 16 ∧
        -96 ≤ ((n / 2 ^ 54 % 2 ^ 8 : Nat) : Int) - 97 ∧
        ((n / 2 ^ 54 % 2 ^ 8 : Nat) : Int) - 97 ≤ 80 := by
      omega
    rw [code, ofCode?, if_neg marked]
    simp only [dif_pos range, Option.some.injEq, Quantity.mk.injEq]
    exact ⟨negative_eq, mantissa_eq, by omega⟩

end Quantity

/-! ## Accounts and currencies -/

namespace AccountId

/-- Takes the twenty bytes of an account. -/
def reader : Wire.Reader AccountId := do Wire.accept (ofBytes? (← Wire.chunk 20))

/-- Takes the bytes of an account behind their length. -/
def frameReader : Wire.Reader AccountId := do Wire.accept (ofBytes? (← Wire.frame))

theorem ofBytes?_bytes (id : AccountId) : ofBytes? id.bytes = some id := dif_pos id.length_bytes

theorem reader_append (id : AccountId) (rest : Bytes) :
    reader (id.bytes ++ rest) = some (id, rest) := by
  rw [reader, Wire.bind_run (Wire.chunk_append id.length_bytes rest), ofBytes?_bytes]
  rfl

theorem readsBack_frameReader (id : AccountId) :
    Wire.ReadsBack frameReader (Wire.framed id.bytes) id := by
  intro rest bytes h
  rw [frameReader, Wire.bind_run (Wire.readsBack_frame _ _ _ h), ofBytes?_bytes]
  rfl

end AccountId

namespace Currency

/-- Takes the twenty bytes of a currency. -/
def reader : Wire.Reader Currency := do Wire.accept (ofBytes? (← Wire.chunk 20))

theorem reader_append (c : Currency) (rest : Bytes) :
    reader (c.bytes ++ rest) = some (c, rest) := by
  have back : ofBytes? c.bytes = some c := dif_pos c.length_bytes
  rw [reader, Wire.bind_run (Wire.chunk_append c.length_bytes rest), back]
  rfl

end Currency

/-! ## Amounts -/

namespace Amount

/-- Takes what follows the eight bytes of a quantity. -/
def issuedReader (quantity : Quantity) : Wire.Reader Amount := do
  let currency ← Currency.reader
  let issuer ← AccountId.reader
  return issued quantity currency issuer

/-- Takes an amount. The first bit says which kind it is. -/
def reader : Wire.Reader Amount := do
  let n ← Wire.number 8
  if n < 2 ^ 63 then return native (n - 2 ^ 62 : Nat)
  else issuedReader (← Wire.accept (Quantity.ofCode? n))

/-- **An amount reads back**, whatever follows it. -/
theorem readsBack (a : Amount) : Wire.ReadsBack reader a.toBytes a := by
  intro rest bytes h
  cases a with
  | native drops =>
    obtain ⟨range, rfl⟩ := toBytes_native_eq_ok.mp h
    obtain ⟨low, high⟩ := areDrops_iff.mp range
    rw [reader, Wire.bind_run (Wire.number_ofNat 8 _ rest), if_pos (by omega)]
    refine congrArg (fun n => some (native n, rest)) ?_
    omega
  | issued quantity currency issuer =>
    obtain ⟨-, rfl⟩ := toBytes_issued_eq_ok.mp h
    have fits := quantity.code_lt
    have marked := quantity.le_code
    have accepted (rest : Bytes) :
        Wire.accept (Quantity.ofCode? quantity.code) rest = some (quantity, rest) := by
      rw [Quantity.ofCode?_code]
      rfl
    simp only [Quantity.toBytes, List.append_assoc]
    rw [reader, Wire.bind_run (Wire.number_ofNat 8 _ _),
      Nat.mod_eq_of_lt (by omega : quantity.code < 256 ^ 8), if_neg (by omega),
      Wire.bind_run (accepted _), issuedReader,
      Wire.bind_run (Currency.reader_append _ _), Wire.bind_run (AccountId.reader_append _ _)]
    rfl

end Amount

end SwapPayout
