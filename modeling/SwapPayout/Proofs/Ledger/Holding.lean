import SwapPayout.InMemory.Ledger
import SwapPayout.Ledger.Reply
import SwapPayout.Proofs.Quantity.Parsing
import SwapPayout.Proofs.Solvency

/-!
# What the balance of a trust line covers

A ledger node gives the balance of a trust line as a text, of any length. What is read of it has
sixteen digits, and what is held against a payment is that. The digits that are cut off have no say:
a payment is a quantity, so a balance that reaches it still does so without them, and one that falls
short of it fell short before (`Rounded.le_value_iff`). So a payment passes the check exactly when
the number that the text denotes covers it, whatever its length, its sign and its exponent
(`requireHolding_decided_by_text`).

Payments are above zero here. A balance just below zero is read as zero, so it would be found to
cover a payment of nothing.
-/

namespace SwapPayout

variable {Λ Κ Ω : Type} [Ledger Λ] {account currency issuer : String} {w : World Λ Κ Ω}

/-- **What is read of a balance covers what the balance covers.** -/
theorem Quantity.atLeast_iff_of_parse {text : String} {held quantity : Quantity} {x : ℚ}
    (accepted : parse text = .ok held) (denoted : Denotes text x) (positive : 0 < quantity.value) :
    held.atLeast quantity = true ↔ quantity.value ≤ x := by
  obtain ⟨d, shape, rfl⟩ := denoted
  have rounded := rounded_of_parse shape accepted
  rw [atLeast_iff, rounded.le_value_iff (abs_nonneg _) positive, d.abs_value]
  rfl

/-- The balance of a reply is read from the text of its line. -/
theorem LinesReply.holding_eq_some {reply : LinesReply} {held : Quantity} :
    reply.holding currency issuer = .ok (some held) ↔
      reply.error = none ∧ ∃ wanted, Currency.ofCode currency = .ok wanted ∧
        ∃ line, reply.lines.find? (·.holds wanted issuer) = some line ∧
          Quantity.parse line.balance = .ok held := by
  unfold holding
  cases reply.error with
  | some error =>
    refine iff_of_false ?_ nofun
    dsimp only
    split <;> nofun
  | none =>
    refine bind_eq_ok.trans ?_
    rw [eq_self_iff_true, true_and]
    refine exists_congr fun wanted => and_congr mapError_eq_ok ?_
    cases reply.lines.find? (·.holds wanted issuer) with
    | none => exact iff_of_false nofun (by rintro ⟨_, ⟨⟩, _⟩)
    | some line => simp [map_eq_ok, mapError_eq_ok]

/-- The check of a holding goes by what the ledger answers. -/
theorem requireHolding_of_answer {held : Quantity} {ledger : Λ} (quantity : Quantity)
    (answer : Ledger.trustLine account currency issuer w.ledger = (.ok (some held), ledger)) :
    ∃ w', requireHolding account currency issuer quantity w =
      if held.atLeast quantity = true then .ok () w'
      else .error (.holdingShort currency issuer account) w' := by
  obtain ⟨w', found⟩ : ∃ w', quantityHeld account currency issuer w = .ok held w' := by
    have asked := World.trustLine_eq_ok.mpr ⟨ledger, answer, rfl⟩
    exact ⟨_, Consulting.bind_eq_ok.mpr ⟨_, _, Consulting.mapError_eq_ok.mpr asked, rfl⟩⟩
  refine ⟨w', (Consulting.bind_of_eq_ok found).trans ?_⟩
  split <;> rfl

/-- Where the answer was read from a text, the check goes by the number that the text denotes. -/
theorem requireHolding_of_text {text : String} {held quantity : Quantity} {x : ℚ} {ledger : Λ}
    (accepted : Quantity.parse text = .ok held) (denoted : Quantity.Denotes text x)
    (positive : 0 < quantity.value)
    (answer : Ledger.trustLine account currency issuer w.ledger = (.ok (some held), ledger)) :
    ∃ w', requireHolding account currency issuer quantity w =
      if quantity.value ≤ x then .ok () w'
      else .error (.holdingShort currency issuer account) w' := by
  obtain ⟨w', decided⟩ := requireHolding_of_answer quantity answer
  have covers := Quantity.atLeast_iff_of_parse accepted denoted positive
  exact ⟨w', by simp only [decided, covers]⟩

/-- Where the answer was read from a reply, the text is that of the line. -/
theorem requireHolding_of_reply {reply : LinesReply} {wanted : Currency} {line : TrustLine}
    {held quantity : Quantity} {x : ℚ} {ledger : Λ} (intact : reply.error = none)
    (code : Currency.ofCode currency = .ok wanted)
    (found : reply.lines.find? (·.holds wanted issuer) = some line)
    (accepted : Quantity.parse line.balance = .ok held) (denoted : Quantity.Denotes line.balance x)
    (positive : 0 < quantity.value)
    (answer : Ledger.trustLine account currency issuer w.ledger =
      (reply.holding currency issuer, ledger)) :
    ∃ w', requireHolding account currency issuer quantity w =
      if quantity.value ≤ x then .ok () w'
      else .error (.holdingShort currency issuer account) w' := by
  rw [LinesReply.holding_eq_some.mpr ⟨intact, wanted, code, line, found, accepted⟩] at answer
  exact requireHolding_of_text accepted denoted positive answer

/-- **A payment is covered by what was read of a balance exactly when the balance covers it**: the
one number that the text denotes, however much of it was cut off. The check of a holding is decided
by that number. -/
theorem requireHolding_decided_by_text {text : String} {held : Quantity}
    (accepted : Quantity.parse text = .ok held) :
    ∃ x, Quantity.Denotes text x ∧ (∀ y, Quantity.Denotes text y → y = x) ∧
      ∀ quantity : Quantity, 0 < quantity.value →
        (held.atLeast quantity = true ↔ quantity.value ≤ x) ∧
        ∀ (w : World Λ Κ Ω) (account currency issuer : String) (ledger : Λ),
          Ledger.trustLine account currency issuer w.ledger = (.ok (some held), ledger) →
          ∃ w', requireHolding account currency issuer quantity w =
            if quantity.value ≤ x then .ok () w'
            else .error (.holdingShort currency issuer account) w' := by
  obtain ⟨d, shape⟩ := Quantity.exists_decimal_of_parse accepted
  have denoted : Quantity.Denotes text d.value := ⟨d, shape, rfl⟩
  refine ⟨d.value, denoted, fun y other => other.unique denoted, fun quantity positive => ?_⟩
  exact ⟨Quantity.atLeast_iff_of_parse accepted denoted positive,
    fun w account currency issuer ledger => requireHolding_of_text accepted denoted positive⟩

/-- A balance with more digits than are kept. -/
def longBalance : String := " 99999999999999999.99\n"

def longBalanceDecimal : Quantity.Decimal where
  sign := .absent
  whole := "99999999999999999".toList
  fraction := some ['9', '9']
  exponent := none
  filled := by decide
  all := List.all_eq_true.mp (by decide)

/-- What is kept of it. -/
def longBalanceRead : Quantity := ⟨false, 9999999999999999, 1, .inr (by decide)⟩

/-- The next quantity, which the balance would have been found to cover, had it been rounded up. -/
def beyondLongBalance : Quantity := ⟨false, 1000000000000000, 2, .inr (by decide)⟩

def longBalanceWorld : World InMemory.LedgerState Unit Unit where
  ledger := ({} : InMemory.LedgerState).addLine "sender" "USD" "issuer" longBalanceRead
  keeper := ()
  oracle := ()

/-- A balance covers what is kept of it, and not the quantity that follows. -/
theorem longBalance_covers :
    Quantity.parse longBalance = .ok longBalanceRead ∧
      Quantity.Denotes longBalance 99999999999999999.99 ∧
      (∃ w', requireHolding "sender" "USD" "issuer" longBalanceRead longBalanceWorld =
        .ok () w') ∧
      ∃ w', requireHolding "sender" "USD" "issuer" beyondLongBalance longBalanceWorld =
        .error (.holdingShort "USD" "issuer" "sender") w' := by
  have shape : Text.trimChars longBalance.toList = longBalanceDecimal.chars := by decide +kernel
  have number : longBalanceDecimal.number = 9999999999999999999 := by decide +kernel
  have value : longBalanceDecimal.value = 99999999999999999.99 := by
    have negative : ¬ longBalanceDecimal.sign.isNegative = true := Bool.false_ne_true
    have power : longBalanceDecimal.power = -2 := rfl
    rw [Quantity.Decimal.value, if_neg negative, Quantity.Decimal.magnitude, number, power]
    norm_num
  have denoted : Quantity.Denotes longBalance 99999999999999999.99 :=
    ⟨longBalanceDecimal, shape, value⟩
  have read : Quantity.parse longBalance = .ok longBalanceRead := by
    refine (Quantity.rounded_parse shape (by decide +kernel)).of_isCut ⟨rfl, ?_, ?_, ?_, ?_⟩
    · exact ⟨by decide, by decide⟩
    · decide
    · norm_num [value, Quantity.magnitude, longBalanceRead]
    · norm_num [value, Quantity.nextMagnitude, longBalanceRead]
  have kept : longBalanceRead.value = 99999999999999990 := by
    norm_num [Quantity.value, Quantity.magnitude, longBalanceRead]
  have beyond : beyondLongBalance.value = 100000000000000000 := by
    norm_num [Quantity.value, Quantity.magnitude, beyondLongBalance]
  obtain ⟨x, -, unique, decided⟩ :=
    @requireHolding_decided_by_text InMemory.LedgerState Unit Unit _ _ _ read
  obtain rfl := unique _ denoted
  refine ⟨read, denoted, ?_, ?_⟩
  · obtain ⟨-, checked⟩ := decided longBalanceRead (by norm_num [kept])
    obtain ⟨w', covered⟩ := checked longBalanceWorld "sender" "USD" "issuer" _ rfl
    exact ⟨w', by rw [covered, if_pos (by norm_num [kept])]⟩
  · obtain ⟨-, checked⟩ := decided beyondLongBalance (by norm_num [beyond])
    obtain ⟨w', short⟩ := checked longBalanceWorld "sender" "USD" "issuer" _ rfl
    exact ⟨w', by rw [short, if_neg (by norm_num [beyond])]⟩

end SwapPayout
