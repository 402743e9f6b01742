import SwapPayout.InMemory.Keeper
import SwapPayout.InMemory.Ledger
import SwapPayout.InMemory.Routes
import SwapPayout.Proofs.Bridge.Planning
import SwapPayout.Proofs.Payment.Draft
import SwapPayout.Proofs.Solvency
import SwapPayout.Proofs.Token

/-!
# What a built payout rests on

A draft that a bridge builds passed every check on its way. `build_eq_ok` takes the way apart; the
stages are the plan (`plan_eq_ok`), the solvency of both ends (`solvent_of_requireSolvency`), what
is pinned for the swap, and the order that the plan and the pinned values make
(`Plan.pays_of_ofOrder`).

Solvency is stated for what the ledger answered when it was asked, question after question, and over
unbounded numbers. Nothing is said of what the ledger would answer later.
-/

namespace SwapPayout

section

variable {Λ Κ Ω : Type} [Ledger Λ] {w w' : World Λ Κ Ω}

/-! ## Solvency -/

namespace Bridge

/-- By the answers of a ledger in this state, both ends can carry a planned payment: of drops, the
sender keeps its reserve without them and the margin, the receiver has its own with them; of an
issued asset, the receiver has its reserve and the sender as much of the asset. -/
inductive Plan.Solvent (p : Plan) (reserves : Reserves) (sender : String) (ledger : Λ) :
    Prop where
  | native {drops : Nat} {sent received : Option AccountState} {next last : Λ}
      (amount : p.amount = .native drops)
      (debited : Ledger.account sender ledger = (.ok sent, next))
      (credited : Ledger.account p.receiver next = (.ok received, last))
      (sender_keeps : min (drops + reserves.margin.toNat) (2 ^ 64 - 1) + reserves.required.toNat
        ≤ AccountState.drops sent)
      (receiver_has : reserves.required.toNat ≤ AccountState.drops received + drops)
  | issued {quantity : Quantity} {currency : Currency} {issuer : AccountId}
      {received : Option AccountState} {line : Option Quantity} {next last : Λ}
      (amount : p.amount = .issued quantity currency issuer)
      (credited : Ledger.account p.receiver ledger = (.ok received, next))
      (lined : Ledger.trustLine sender p.token.currencyCode p.token.issuerText next
        = (.ok line, last))
      (receiver_has : reserves.required.toNat ≤ AccountState.drops received)
      (sender_holds : quantity.value ≤ Quantity.held line)

/-- **Both ends of a payment that passes the check can carry it.** -/
theorem solvent_of_requireSolvency {b : Bridge} {sender : String} {p : Plan}
    (range : ∀ drops, p.amount = .native drops → Amount.areDrops drops = true)
    (h : b.requireSolvency sender p w = .ok () w') :
    p.Solvent b.chain.reserves sender w.ledger := by
  unfold requireSolvency at h
  cases amount : p.amount with
  | native drops =>
    -- Drops that there can be fit a word, so the check is of the number in the plan.
    obtain ⟨low, high⟩ := Amount.areDrops_iff.mp (range drops amount)
    obtain ⟨count, rfl⟩ := Int.eq_ofNat_of_zero_le low
    have count_eq : (UInt64.ofNat count).toNat = count := by
      rw [UInt64.toNat_ofNat']
      omega
    rw [amount] at h
    obtain ⟨_, v, debit, credit⟩ := Consulting.bind_eq_ok.mp h
    obtain ⟨sent, balance, debited, -, balance_eq, keeps⟩ := requireReserve_eq_ok debit
    obtain ⟨received, balance', credited, -, balance_eq', has⟩ := requireReserve_eq_ok credit
    rw [Movement.leavesReserve_debit, toNat_addSaturating, balance_eq] at keeps
    rw [Movement.leavesReserve_credit, balance_eq'] at has
    simp only [Int.toNat_natCast, count_eq] at keeps has
    exact .native amount debited credited keeps has
  | issued quantity currency issuer =>
    rw [amount] at h
    obtain ⟨_, v, reserve, holding⟩ := Consulting.bind_eq_ok.mp h
    obtain ⟨received, balance, credited, -, balance_eq, has⟩ := requireReserve_eq_ok reserve
    obtain ⟨line, lined, -, holds⟩ := requireHolding_eq_ok holding
    rw [Movement.leavesReserve_unmoved, balance_eq] at has
    exact .issued amount credited lined has holds

end Bridge

/-! ## Orders -/

/-- A draft pays what a plan says, with the sequence number and the fee that were pinned, and
nothing about it is more than that. -/
structure Draft.Pays (d : Draft) (p : Bridge.Plan) (pinned : Pinned) : Prop where
  payment : ∃ destination fee,
    AccountId.ofAddress p.receiver = .ok destination ∧ Drops.parse pinned.fee = .ok fee ∧
    pinned.sequence.toNat < 2 ^ 32 ∧
    d.payment =
      { account := ⟨ripemd160 (sha256 p.publicKey), length_ripemd160 _⟩
        destination, fee
        amount := p.amount
        destinationTag := none
        memos := []
        paths := none
        flags := Payment.flagFullyCanonical
        sequence := pinned.sequence.toUInt32
        signingPubKey := p.publicKey
        txnSignature := none }
  payload : d.payment.signedForm = .ok d.payload
  digest : d.payment.digest = .ok d.digest

namespace Draft.Pays

variable {d : Draft} {p : Bridge.Plan} {pinned : Pinned}

/-- A draft is signed with the key that was planned, -/
theorem publicKey (h : d.Pays p pinned) : d.publicKey = p.publicKey := by
  obtain ⟨destination, fee, -, -, -, payment⟩ := h.payment
  rw [Draft.publicKey, payment]

/-- moves the amount of the plan, -/
theorem amount (h : d.Pays p pinned) : d.payment.amount = p.amount := by
  obtain ⟨destination, fee, -, -, -, payment⟩ := h.payment
  rw [payment]

/-- and has the sequence number and the fee that are pinned. -/
theorem sequence_fee (h : d.Pays p pinned) :
    d.payment.sequence.toNat = pinned.sequence.toNat ∧
      Drops.parse pinned.fee = .ok d.payment.fee := by
  obtain ⟨destination, fee, -, parsed, small, payment⟩ := h.payment
  rw [payment]
  refine ⟨?_, parsed⟩
  rw [UInt64.toNat_toUInt32, Nat.mod_eq_of_lt small]

end Draft.Pays

namespace Bridge

/-- The order of a plan asks for nothing special. -/
theorem Plan.flags_order (p : Plan) (pinned : Pinned) :
    (p.order pinned).flags = Payment.flagFullyCanonical := by
  show Payment.flagFullyCanonical ||| 0 ||| 0 ||| 0 = Payment.flagFullyCanonical
  decide

theorem Plan.pays_of_ofOrder {p : Plan} {pinned : Pinned} {d : Draft}
    (h : Draft.ofOrder (p.order pinned) = .ok d) : d.Pays p pinned := by
  obtain ⟨payment, payload, digest⟩ := Draft.ofOrder_eq_ok.mp h
  obtain ⟨account, destination, fee, paths, haccount, hdestination, small, hfee, hpaths, eq⟩ :=
    PaymentOrder.payment_eq_ok.mp payment
  obtain ⟨-, rfl⟩ := AccountId.ofPublicKey_eq_ok.mp haccount
  cases hpaths
  rw [Plan.flags_order] at eq
  exact ⟨⟨destination, fee, hdestination, hfee, small, eq⟩, payload, digest⟩

/-! ## Building -/

variable [SequenceKeeper Κ] {b : Bridge} {r : SwapRequest}

/-- What was prepared was planned, found solvent and pinned, in this order. -/
theorem prepare_eq_ok {p : Plan} {pinned : Pinned} :
    b.prepare r w = .ok (p, pinned) w' ↔
      b.plan r = .ok p ∧ ∃ v, b.requireSolvency r.sender p w = .ok () v ∧
        pin b.chain.feeText r v = .ok pinned w' := by
  unfold prepare
  constructor
  · intro h
    obtain ⟨_, _, planned, h⟩ := Consulting.bind_eq_ok.mp h
    obtain ⟨plan, rfl⟩ := Consulting.settle_eq_ok.mp planned
    obtain ⟨_, v, solvent, h⟩ := Consulting.bind_eq_ok.mp h
    obtain ⟨_, _, pinning, h⟩ := Consulting.bind_eq_ok.mp h
    obtain ⟨⟨⟩, rfl⟩ := Consulting.pure_eq_ok.mp h
    exact ⟨plan, v, solvent, pinning⟩
  · rintro ⟨plan, v, solvent, pinning⟩
    refine Consulting.bind_eq_ok.mpr ⟨p, w, Consulting.settle_eq_ok.mpr ⟨plan, rfl⟩, ?_⟩
    refine Consulting.bind_eq_ok.mpr ⟨(), v, solvent, ?_⟩
    exact Consulting.bind_eq_ok.mpr ⟨pinned, w', pinning, rfl⟩

/-- **A build succeeds** when the payout can be prepared and its order becomes a draft. -/
theorem build_eq_ok {d : Draft} :
    (b.build r w).result = .ok d ↔
      ∃ p pinned v, b.prepare r w = .ok (p, pinned) v ∧
        Draft.ofOrder (p.order pinned) = .ok d ∧
        b.build r w = ⟨.ok d, { r with pinned := some pinned }, v⟩ := by
  unfold build
  cases b.prepare r w with
  | error e v => simp
  | ok found v =>
    obtain ⟨p, pinned⟩ := found
    constructor
    · intro h
      exact ⟨p, pinned, v, rfl, h,
        congrArg (fun result => (⟨result, { r with pinned := some pinned }, v⟩ : Built Λ Κ Ω)) h⟩
    · rintro ⟨_, _, _, ⟨⟩, h, -⟩
      exact h

/-- **A payout that was built is sound**: the request is authorized and planned, both ends are
solvent, and the draft pays what the plan says with what is pinned for the swap afterwards. -/
theorem sound_of_build {d : Draft} (h : (b.build r w).result = .ok d) :
    b.Authorized r ∧ ∃ p pinned, b.Planned r p ∧
      p.Solvent b.chain.reserves r.sender w.ledger ∧
      (b.build r w).request = { r with pinned := some pinned } ∧ d.Pays p pinned := by
  obtain ⟨p, pinned, v, prepared, drafted, built⟩ := build_eq_ok.mp h
  obtain ⟨plan, u, solvency, -⟩ := prepare_eq_ok.mp prepared
  obtain ⟨authorized, planned⟩ := plan_eq_ok.mp plan
  have range : ∀ drops, p.amount = .native drops → Amount.areDrops drops = true := by
    intro drops amount
    obtain ⟨_, _, _, -, -, -, -, moved⟩ := planned.amount
    rw [amount] at moved
    exact Token.areDrops_of_ledgerAmount moved
  exact ⟨authorized, p, pinned, planned, solvent_of_requireSolvency range solvency,
    by rw [built], Plan.pays_of_ofOrder drafted⟩

end Bridge

end

/-! ## A rehearsal -/

namespace Bridge

/-- A bridge to a ledger in memory, on which one router token stands for drops and one for dollars
of an issuer. -/
def rehearsal : Bridge where
  chain := { id := "ripple", ledgerName := "xrpl" }
  settings := {}
  routes := InMemory.routes
    [(("eth", "0xA"), { tokenId := "A", decimals := 18, contractAddress := "0xA" }),
      (("ripple", "drops"),
        { tokenId := "A", decimals := 6, contractAddress := "drops", asset := some .native }),
      (("ripple", "dollars"),
        { tokenId := "B", decimals := 2, contractAddress := "dollars"
          asset := some ⟨"USD", "rpZNAnHcvr6TbaY7QJa9yrVfu6coDz9pPH"⟩ })]
    [(("A", "ripple"), "drops"), (("B", "ripple"), "dollars")] none
  registry := InMemory.registry ["ripple"] "rK8ZsqAcfkNoFzJQhApwb8Do4GhJ1nFxiy"
    [("rK8ZsqAcfkNoFzJQhApwb8Do4GhJ1nFxiy",
      "ED8A88E3DD7409F195FD52DB2D3CBA5D72CA6709BF1D94121BF3748801B40F6F5C")]
  signer := .network

/-- A swap of twenty units of a router token. -/
def rehearsed (tokenId : String) : SwapRequest where
  id := "1"
  kind := .erc20
  fromChain := "eth"
  toChain := "ripple"
  sender := "rK8ZsqAcfkNoFzJQhApwb8Do4GhJ1nFxiy"
  receiver := "rhf7192NqpPvBUnAobBJAryNFQNbPKz11w"
  originSender := ""
  originTarget := ""
  paidIn := 20 * 10 ^ 18
  token := some ⟨"0xA", tokenId⟩
  pinned := none

/-- The sender has its reserve, the margin and twenty units, and twenty dollars on its line; the
receiver has its reserve. -/
def rehearsalLedger : InMemory.LedgerState :=
  (({} : InMemory.LedgerState).fund "rK8ZsqAcfkNoFzJQhApwb8Do4GhJ1nFxiy" 30100000 7
    |>.fund "rhf7192NqpPvBUnAobBJAryNFQNbPKz11w" 10000000 1)
    |>.addLine "rK8ZsqAcfkNoFzJQhApwb8Do4GhJ1nFxiy" "USD" "rpZNAnHcvr6TbaY7QJa9yrVfu6coDz9pPH"
      ⟨false, 2 * 10 ^ 15, -14, .inr (by decide)⟩

/-- The world of the rehearsal: nothing has been paid yet. -/
def rehearsalWorld : World InMemory.LedgerState SequenceBook Unit where
  ledger := rehearsalLedger
  keeper := {}
  oracle := ()

/-- The payout of drops is built. -/
theorem rehearsal_build :
    ∃ d, (rehearsal.build (rehearsed "A") rehearsalWorld).result = .ok d :=
  exists_eq_ok (by decide +kernel)

theorem rehearsal_sound :
    (∃ d p pinned, (rehearsal.build (rehearsed "A") rehearsalWorld).result = .ok d ∧
      rehearsal.Planned (rehearsed "A") p ∧
      p.Solvent rehearsal.chain.reserves (rehearsed "A").sender rehearsalLedger ∧
      d.Pays p pinned) ∧
    ∃ d p pinned, (rehearsal.build (rehearsed "B") rehearsalWorld).result = .ok d ∧
      rehearsal.Planned (rehearsed "B") p ∧
      p.Solvent rehearsal.chain.reserves (rehearsed "B").sender rehearsalLedger ∧
      d.Pays p pinned := by
  obtain ⟨d, drops⟩ := rehearsal_build
  obtain ⟨e, dollars⟩ : ∃ e, (rehearsal.build (rehearsed "B") rehearsalWorld).result = .ok e :=
    exists_eq_ok (by decide +kernel)
  obtain ⟨-, p, pinned, planned, solvent, -, pays⟩ := sound_of_build drops
  obtain ⟨-, q, pinned', planned', solvent', -, pays'⟩ := sound_of_build dollars
  exact ⟨⟨d, p, pinned, drops, planned, solvent, pays⟩,
    ⟨e, q, pinned', dollars, planned', solvent', pays'⟩⟩

end Bridge

end SwapPayout
