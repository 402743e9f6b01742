import SwapPayout.Proofs.Bridge.Attempt
import SwapPayout.Proofs.Retry
import SwapPayout.Proofs.Signing.HeldKey
import SwapPayout.Proofs.Signing.Network

/-!
# When a payout is worth another try

A payout that failed is worth another try as it stands when a service is to blame, and only then.
Building is to be tried again exactly when the ledger has not answered a question, or the registry
could not say who pays and holds that itself to be passing (`Classified`); signing exactly when the
network's own cause says so. `retry_classified` says so for every bridge, every swap and every state
of the services. All the other ways to fail are lasting ones: what the request, the settings or an
account lack, what has no written form, and signatures that are refused.

So a ledger out of reach is never taken for one that has answered with nothing: where a question was
not answered there is no draft, and no number is spent.

The registry is asked who pays only behind three checks of the request; `NoPayer` holds when it was
asked and did not say.
-/

namespace SwapPayout.Bridge

/-! ## Planning -/

/-- The registry is asked who pays for a request, and answers with a cause. -/
structure NoPayer (b : Bridge) (r : SwapRequest) (cause : PayoutError) : Prop where
  served : b.registry.serves b.chain.id = true
  meant : b.settings.testMode = true ∨ r.toChain = b.chain.id
  named : r.sender ≠ ""
  answer : b.registry.payer r.tokenId b.chain.id = .error cause

section

variable {b : Bridge} {r : SwapRequest} {e : PayoutError}

theorem authorize_of_noPayer (h : b.NoPayer r e) : b.authorize r = .error e := by
  unfold authorize
  refine ite_error_eq_error.mpr (.inr ⟨by simpa using h.served, ?_⟩)
  refine ite_error_eq_error.mpr (.inr ⟨?_, ?_⟩)
  · rcases h.meant with test | same <;> simp [*]
  refine ite_error_eq_error.mpr (.inr ⟨by simpa using h.named, ?_⟩)
  exact bind_eq_error.mpr (.inl h.answer)

theorem plan_of_noPayer (h : b.NoPayer r e) : b.plan r = .error e :=
  bind_eq_error.mpr (.inl (authorize_of_noPayer h))

/-- A request that is not authorized lacks something, or the registry does not say who pays. -/
theorem noPayer_or_lasting_of_authorize (h : b.authorize r = .error e) :
    b.NoPayer r e ∨ e.worthRetrying = false := by
  unfold authorize at h
  rcases ite_error_eq_error.mp h with ⟨-, rfl⟩ | ⟨served, h⟩
  · exact .inr rfl
  rcases ite_error_eq_error.mp h with ⟨-, rfl⟩ | ⟨meant, h⟩
  · exact .inr rfl
  rcases ite_error_eq_error.mp h with ⟨-, rfl⟩ | ⟨named, h⟩
  · exact .inr rfl
  rcases bind_eq_error.mp h with unpaid | ⟨payer, -, h⟩
  · refine .inl ⟨by simpa using served, ?_, by simpa using named, unpaid⟩
    by_cases test : b.settings.testMode = true
    · exact .inl test
    · exact .inr (by simpa [test] using meant)
  · rcases ite_error_eq_error.mp h with ⟨-, rfl⟩ | ⟨-, h⟩
    · exact .inr rfl
    rcases ite_error_eq_error.mp h with ⟨-, rfl⟩ | ⟨-, h⟩
    · exact .inr rfl
    · cases h

theorem lasting_registeredKey (b : Bridge) (address : String) :
    Lasting (b.registeredKey address) := by
  unfold registeredKey
  split
  · exact .error rfl
  · exact .mapError fun _ => rfl

theorem lasting_payoutToken (b : Bridge) (r : SwapRequest) (paid : SwapToken) :
    Lasting (b.payoutToken r paid) := by
  unfold payoutToken
  split
  · exact .error rfl
  · split
    · exact .error rfl
    · exact .ok _

theorem lasting_payoutUnits (b : Bridge) (r : SwapRequest) (paid : SwapToken) (token : Token) :
    Lasting (b.payoutUnits r paid token) := by
  unfold payoutUnits
  split
  · exact .error rfl
  · exact .ok _

theorem lasting_ledgerAmount (token : Token) (units : Nat) :
    Lasting (token.ledgerAmount units) := by
  unfold Token.ledgerAmount
  refine .bind (.mapError fun _ => rfl) fun currency => .ite_error rfl ?_
  split
  · exact .mapError PayoutError.worthRetrying_ofFormat
  · refine .bind (.mapError fun _ => rfl) fun issuer => ?_
    exact .bind (.mapError PayoutError.worthRetrying_ofFormat) fun quantity => .ok _

theorem noPayer_or_lasting_of_plan (h : b.plan r = .error e) :
    b.NoPayer r e ∨ e.worthRetrying = false := by
  rcases bind_eq_error.mp h with unauthorized | ⟨_, -, h⟩
  · exact noPayer_or_lasting_of_authorize unauthorized
  · refine .inr (Lasting.bind (lasting_registeredKey b r.sender) (fun key => ?_) e h)
    cases r.token with
    | none => exact .error rfl
    | some paid =>
      refine .bind (.ok _) fun paid => ?_
      refine .bind (lasting_payoutToken b r paid) fun token => .ite_error rfl ?_
      refine .bind (lasting_payoutUnits b r paid token) fun units => ?_
      exact .bind (lasting_ledgerAmount token units) fun amount => .ok _

end

/-! ## Building -/

theorem blamesLedger_requireSolvency {Λ Κ Ω : Type} [Ledger Λ] (b : Bridge) (sender : String)
    (p : Plan) : (b.requireSolvency sender p : Consulting Λ Κ Ω Unit).BlamesLedger := by
  unfold requireSolvency
  cases p.amount with
  | native drops => exact .bind (.requireReserve _ _ _) fun _ => .requireReserve _ _ _
  | issued quantity currency issuer =>
    exact .bind (.requireReserve _ _ _) fun _ => .requireHolding _ _ _ _

theorem lasting_ofOrder (o : PaymentOrder) : Lasting (Draft.ofOrder o) := by
  refine .bind ?_ fun payment => .mapError PayoutError.worthRetrying_ofFormat
  unfold PaymentOrder.payment
  refine .bind (.mapError fun _ => rfl) fun account => ?_
  refine .bind (.mapError fun _ => rfl) fun destination => .ite_error rfl ?_
  refine .bind (.mapError fun _ => rfl) fun fee => ?_
  exact .bind (.mapError PayoutError.worthRetrying_ofFormat) fun paths => .ok _

section

variable {Λ Κ Ω : Type} [Ledger Λ] [SequenceKeeper Κ]

/-- A failed or successful build with all that it has asked, classified. -/
structure Classified (b : Bridge) (r : SwapRequest) (w : World Λ Κ Ω) (built : Built Λ Κ Ω)
    (asked : List Consultation) : Prop where
  journal : built.world.journal = asked ++ w.journal
  /-- A failure is worth another try exactly when the ledger has not answered a question, or the
  registry has failed for a passing cause to say who pays. -/
  retry : ∀ e, built.result = .error e →
    (e.worthRetrying = true ↔ (∃ c ∈ asked, c.isUnanswered = true) ∨
      ∃ cause, b.NoPayer r cause ∧ cause.worthRetrying = true)
  /-- The registry's cause is the cause of the failure. -/
  payer : ∀ cause, b.NoPayer r cause → built.result = .error cause
  /-- Where the ledger has not answered nothing is drafted, and no number is given. -/
  unanswered : (∃ c ∈ asked, c.isUnanswered = true) →
    (∃ e, built.result = .error e ∧ e.worthRetrying = true) ∧ built.request = r ∧
      World.KeeperUnasked w built.world

/-- What is asked once there is a plan. -/
def preparePlanned (b : Bridge) (r : SwapRequest) (p : Plan) :
    Consulting Λ Κ Ω (Plan × Pinned) := do
  b.requireSolvency r.sender p
  let pinned ← pin b.chain.feeText r
  return (p, pinned)

theorem blamesLedger_preparePlanned (b : Bridge) (r : SwapRequest) (p : Plan) :
    (b.preparePlanned r p : Consulting Λ Κ Ω (Plan × Pinned)).BlamesLedger :=
  .bind (blamesLedger_requireSolvency b r.sender p) fun _ => .bind (.pin _ r) fun _ => .pure _

variable {b : Bridge} {r : SwapRequest}

/-- Without a plan nobody is asked but the registry. -/
theorem classified_of_unplanned {e : PayoutError} (unplanned : b.plan r = .error e)
    (w : World Λ Κ Ω) : b.Classified r w (b.build r w) [] := by
  have built : b.build r w = ⟨.error e, r, w⟩ := by
    simp only [build, prepare, unplanned]
    rfl
  have same {cause : PayoutError} (unpaid : b.NoPayer r cause) : e = cause :=
    Except.error.inj (unplanned.symm.trans (plan_of_noPayer unpaid))
  rw [built]
  refine ⟨rfl, ?retry, ?payer, nofun⟩
  case retry =>
    rintro _ ⟨⟩
    constructor
    · intro again
      rcases noPayer_or_lasting_of_plan unplanned with unpaid | lasting
      · exact .inr ⟨e, unpaid, again⟩
      · cases again.symm.trans lasting
    · rintro (⟨c, ⟨⟩, -⟩ | ⟨cause, unpaid, again⟩)
      rw [same unpaid]
      exact again
  case payer =>
    intro cause unpaid
    rw [same unpaid]

/-- With a plan only the ledger can be to blame, and not for an order that becomes no draft. -/
theorem classified_of_planned {p : Plan} (planned : b.plan r = .ok p) (w : World Λ Κ Ω) :
    ∃ asked, b.Classified r w (b.build r w) asked := by
  have paid (cause : PayoutError) : ¬ b.NoPayer r cause := by
    intro unpaid
    cases planned.symm.trans (plan_of_noPayer unpaid)
  have behind : b.preparePlanned r p w = b.prepare r w := by
    simp only [prepare, planned]
    rfl
  cases prepared : b.prepare r w with
  | error e w' =>
    obtain ⟨asked, journal, blame⟩ :=
      (blamesLedger_preparePlanned b r p).of_error (behind.trans prepared)
    have blamed : e.worthRetrying = true ↔ ∃ c ∈ asked, c.isUnanswered = true := by
      rw [← blame, List.any_eq_true]
    have built : b.build r w = ⟨.error e, r, w'⟩ := by rw [build, prepared]
    rw [built]
    refine ⟨asked, journal, ?_, fun cause unpaid => absurd unpaid (paid cause), fun fault =>
      ⟨⟨e, rfl, blamed.mpr fault⟩, rfl, keeperUnasked_of_prepare prepared⟩⟩
    rintro _ ⟨⟩
    rw [blamed, or_iff_left]
    rintro ⟨cause, unpaid, -⟩
    exact paid cause unpaid
  | ok found w' =>
    obtain ⟨asked, journal, blameless⟩ :=
      (blamesLedger_preparePlanned b r p).of_ok (behind.trans prepared)
    have answered : ¬ ∃ c ∈ asked, c.isUnanswered = true := by
      rw [← List.any_eq_true, blameless]
      exact Bool.false_ne_true
    have built : b.build r w = ⟨Draft.ofOrder (found.1.order found.2),
        { r with pinned := some found.2 }, w'⟩ := by rw [build, prepared]
    rw [built]
    refine ⟨asked, journal, ?_, fun cause unpaid => absurd unpaid (paid cause), fun fault =>
      absurd fault answered⟩
    intro e undrafted
    rw [lasting_ofOrder _ e undrafted]
    refine ⟨nofun, ?_⟩
    rintro (fault | ⟨cause, unpaid, -⟩)
    · exact absurd fault answered
    · exact absurd unpaid (paid cause)

/-- **Building is to be tried again exactly when ledger or registry are to blame.** -/
theorem classified_build (b : Bridge) (r : SwapRequest) (w : World Λ Κ Ω) :
    ∃ asked, b.Classified r w (b.build r w) asked := by
  cases planned : b.plan r with
  | error e => exact ⟨[], classified_of_unplanned planned w⟩
  | ok p => exact classified_of_planned planned w

end

/-! ## Signing -/

theorem lasting_toSignature (rsv : String) (scheme : SignatureScheme) :
    Lasting (Rsv.toSignature rsv scheme) := by
  unfold Rsv.toSignature
  cases scheme with
  | ecdsa =>
    refine .bind ?_ fun numbers => ?_
    · unfold Rsv.readEcdsa
      refine .ite_error rfl ?_
      split
      · exact .error rfl
      · exact .ok _
    · unfold Rsv.derOfNumbers
      refine .ite_error rfl (.ite_error rfl ?_)
      split
      · exact .ok _
      · exact .error rfl
  | eddsa =>
    dsimp only
    split
    · exact .error rfl
    · exact .ite_ok rfl

theorem lasting_seal (d : Draft) (key : Bytes) (rsv : String) : Lasting (d.seal key rsv) := by
  unfold Draft.seal
  refine .ite_error rfl (.bind (lasting_toSignature rsv _) fun signature => ?_)
  exact .bind (.mapError PayoutError.worthRetrying_ofFormat) fun forms => .ok _

theorem lasting_keySign (key : PrivateKey) (digest message : Bytes) :
    Lasting (key.sign digest message) := by
  -- The curve's own answer is kept as it stands, for no step is to evaluate it.
  obtain ⟨attempt, same⟩ : ∃ attempt, attempt = Ecdsa.sign := ⟨_, rfl⟩
  rw [PrivateKey.sign.eq_def, ← same]
  cases key with
  | ed25519 seed => exact .ok _
  | secp256k1 secret =>
    dsimp only
    split
    · exact .ok _
    · exact .error rfl

theorem lasting_ofSignature (signature : Bytes) (scheme : SignatureScheme) :
    Lasting (Rsv.ofSignature signature scheme) := by
  cases scheme with
  | ecdsa =>
    rw [Rsv.ofSignature]
    cases Ecdsa.Signature.ofDer? signature with
    | none => exact .error rfl
    | some sig => exact .ok _
  | eddsa => exact .ok _

/-- A held key never fails for a passing cause. -/
theorem lasting_grant (key : PrivateKey) (task : SigningTask) : Lasting (key.grant task) := by
  unfold PrivateKey.grant
  refine .bind (lasting_keySign key _ _) fun signature => .bind (.mapError fun _ => rfl) fun _ => ?_
  exact .bind (lasting_ofSignature signature _) fun _ => .ok _

theorem lasting_checkReceiver (d : Draft) (r : SwapRequest) : Lasting (checkReceiver d r) := by
  unfold checkReceiver
  exact .ite_ok rfl

theorem lasting_checkKey (d : Draft) (key : Bytes) : Lasting (checkKey d key) := by
  unfold checkKey
  exact .ite_ok rfl

/-- A session whose signer has answered fails for lasting causes only. -/
theorem signer_or_lasting_of_run {σ : Type} {d : Draft} {signer : Signer σ} {context : String}
    {w w' : σ} {e : PayoutError} (h : Session.run d signer context w = .error e w') :
    signer.sign (Session.task { draft := d } context) w = .error e w' ∨
      e.worthRetrying = false ∧
        ∃ grant, signer.sign (Session.task { draft := d } context) w = .ok grant w' := by
  rcases Session.run_eq_error.mp h with unsigned | ⟨grant, granted, refused | ⟨-, unsealed⟩⟩
  · exact .inl unsigned
  · obtain ⟨cause, -, rfl⟩ := refused
    exact .inr ⟨rfl, grant, granted⟩
  · exact .inr ⟨lasting_seal d _ _ e unsealed, grant, granted⟩

section

variable {Λ Κ Ω : Type} {b : Bridge} {d : Draft} {r : SwapRequest} {w w' : World Λ Κ Ω}
  {e : PayoutError}

theorem lasting_of_run_held {key : PrivateKey} {context : String}
    (h : Session.run d (Signer.ofKey key) context w = .error e w') :
    e.worthRetrying = false ∧ w' = w := by
  rcases signer_or_lasting_of_run h with unsigned | ⟨lasting, grant, granted⟩
  · unfold Signer.ofKey at unsigned
    cases given : key.grant (Session.task { draft := d } context) with
    | ok grant =>
      simp only [given, reduceCtorEq] at unsigned
    | error cause =>
      simp only [given, EStateM.Result.error.injEq] at unsigned
      obtain ⟨rfl, rfl⟩ := unsigned
      exact ⟨lasting_grant key _ cause given, rfl⟩
  · refine ⟨lasting, ?_⟩
    unfold Signer.ofKey at granted
    cases given : key.grant (Session.task { draft := d } context) with
    | ok grant' =>
      simp only [given, EStateM.Result.ok.injEq] at granted
      exact granted.2.symm
    | error cause => simp only [given, reduceCtorEq] at granted

/-- What a failed signing has asked, and whether it is to be tried again. -/
def SignClassified (w w' : World Λ Κ Ω) (e : PayoutError) : Prop :=
  ∃ asked, w'.journal = asked ++ w.journal ∧
    (e.worthRetrying = true ↔ ∃ request cause,
      .signature request (.error cause) ∈ asked ∧ cause.worthRetrying = true)

theorem SignClassified.of_unasked (lasting : e.worthRetrying = false) (same : w' = w) :
    SignClassified w w' e := by
  subst same
  refine ⟨[], rfl, ?_⟩
  rw [lasting]
  refine ⟨nofun, ?_⟩
  rintro ⟨request, cause, ⟨⟩, -⟩

variable [Oracle Ω]

/-- A session through the network is to be tried again exactly when the network's own cause says
so. -/
theorem retry_of_run_network {context : String}
    (h : Session.run d Signer.network context w = .error e w') :
    ∃ answer, w'.journal = .signature (d.toNetwork context) answer :: w.journal ∧
      (e.worthRetrying = true ↔ ∃ cause, answer = .error cause ∧ cause.worthRetrying = true) := by
  refine ⟨(Oracle.sign (d.toNetwork context) w.oracle).1, ?_⟩
  rcases signer_or_lasting_of_run h with unsigned | ⟨lasting, grant, granted⟩
  · obtain ⟨unanswered | ⟨reply, answered, -, rfl⟩, rfl⟩ := Signer.network_eq_error.mp unsigned
    · refine ⟨rfl, fun again => ⟨e, unanswered, again⟩, ?_⟩
      rintro ⟨cause, same, again⟩
      cases unanswered.symm.trans same
      exact again
    · refine ⟨rfl, nofun, ?_⟩
      rintro ⟨cause, same, -⟩
      cases answered.symm.trans same
  · obtain ⟨⟨reply, answered, -⟩, rfl⟩ := Signer.network_eq_ok.mp granted
    refine ⟨rfl, fun again => absurd again (by rw [lasting]; exact Bool.false_ne_true), ?_⟩
    rintro ⟨cause, same, -⟩
    cases answered.symm.trans same

/-- **Signing is to be tried again exactly when the network says so.** -/
theorem classified_sign (h : b.sign d r w = .error e w') : SignClassified w w' e := by
  unfold sign at h
  rcases Consulting.bind_eq_error.mp h with misdirected | ⟨_, v, received, h⟩
  · obtain ⟨failed, rfl⟩ := Consulting.settle_eq_error.mp misdirected
    exact .of_unasked (lasting_checkReceiver d r e failed) rfl
  obtain ⟨-, rfl⟩ := Consulting.settle_eq_ok.mp received
  cases chosen : b.signer with
  | held key =>
    rw [chosen] at h
    obtain ⟨lasting, same⟩ := lasting_of_run_held h
    exact .of_unasked lasting same
  | network =>
    rw [chosen] at h
    rcases Consulting.bind_eq_error.mp h with unregistered | ⟨key, _, looked, h⟩
    · obtain ⟨failed, rfl⟩ := Consulting.settle_eq_error.mp unregistered
      exact .of_unasked (lasting_registeredKey b _ e failed) rfl
    obtain ⟨-, rfl⟩ := Consulting.settle_eq_ok.mp looked
    rcases Consulting.bind_eq_error.mp h with foreign | ⟨_, _, compared, ran⟩
    · obtain ⟨failed, rfl⟩ := Consulting.settle_eq_error.mp foreign
      exact .of_unasked (lasting_checkKey d key e failed) rfl
    obtain ⟨-, rfl⟩ := Consulting.settle_eq_ok.mp compared
    obtain ⟨answer, journal, blame⟩ := retry_of_run_network ran
    refine ⟨[.signature (d.toNetwork r.context) answer], journal, blame.trans ?_⟩
    constructor
    · rintro ⟨cause, rfl, again⟩
      exact ⟨_, cause, List.mem_singleton_self _, again⟩
    · rintro ⟨request, cause, member, again⟩
      cases List.mem_singleton.mp member
      exact ⟨cause, rfl, again⟩

end

/-! ## Both -/

/-- **Which failures are worth another try.** Whatever is built or signed by a bridge, and whatever
the services answer: a failed build is worth another try exactly when the ledger has not answered or
the registry has failed for a passing cause to say who pays, a failed signing exactly when the
network has failed for a passing cause. A key that the bridge holds never does. -/
theorem retry_classified (b : Bridge) (r : SwapRequest) :
    (∀ {Λ Κ Ω : Type} [Ledger Λ] [SequenceKeeper Κ] (w : World Λ Κ Ω),
      ∃ asked, b.Classified r w (b.build r w) asked) ∧
    (∀ {Λ Κ Ω : Type} [Oracle Ω] (d : Draft) (w w' : World Λ Κ Ω) (e : PayoutError),
      b.sign d r w = .error e w' → SignClassified w w' e) ∧
    ∀ (key : PrivateKey) (task : SigningTask), Lasting (key.grant task) :=
  ⟨classified_build b r, fun _ _ _ _ => classified_sign, lasting_grant⟩

/-- The world of the rehearsal, with a ledger that cannot be asked for the receiver. -/
def unreachableWorld : World InMemory.LedgerState SequenceBook InMemory.OracleState where
  ledger := rehearsalLedger.disconnect (rehearsed "A").receiver
  keeper := {}
  oracle := { behaviour := .unavailable }

/-- Neither ledger nor network can be reached, and both failures are worth another try. -/
theorem unreachable_classified :
    (∃ e, (rehearsal.build (rehearsed "A") unreachableWorld).result = .error e ∧
      e.worthRetrying = true ∧
      (rehearsal.build (rehearsed "A") unreachableWorld).request = rehearsed "A") ∧
    ∃ d e w', Draft.ofOrder rehearsalOrder = .ok d ∧
      rehearsal.sign d (rehearsed "A") unreachableWorld = .error e w' ∧
      ∃ request cause, .signature request (.error cause) ∈ w'.journal ∧
        cause.worthRetrying = true := by
  obtain ⟨byBuilding, bySigning, -⟩ := retry_classified rehearsal (rehearsed "A")
  constructor
  · obtain ⟨asked, classified⟩ := byBuilding unreachableWorld
    have unanswered : ((rehearsal.build (rehearsed "A") unreachableWorld).world.journal.any
        (·.isUnanswered)) = true := by decide +kernel
    rw [classified.journal, show unreachableWorld.journal = [] from rfl, List.append_nil,
      List.any_eq_true] at unanswered
    obtain ⟨⟨e, failed, again⟩, same, -⟩ := classified.unanswered unanswered
    exact ⟨e, failed, again, same⟩
  · obtain ⟨e, w', h, again⟩ : ∃ e w', (do
        rehearsal.sign (← World.settle (Draft.ofOrder rehearsalOrder)) (rehearsed "A"))
          unreachableWorld = .error e w' ∧ e.worthRetrying = true :=
      Consulting.endsTransient_eq_true.mp (by decide +kernel)
    rcases Consulting.bind_eq_error.mp h with undrafted | ⟨d, v, settled, failed⟩
    · obtain ⟨unmade, -⟩ := Consulting.settle_eq_error.mp undrafted
      cases again.symm.trans (lasting_ofOrder _ e unmade)
    obtain ⟨made, rfl⟩ := Consulting.settle_eq_ok.mp settled
    obtain ⟨asked, journal, blame⟩ := bySigning d unreachableWorld w' e failed
    obtain ⟨request, cause, member, passing⟩ := blame.mp again
    refine ⟨d, e, w', made, failed, request, cause, ?_, passing⟩
    rw [journal]
    exact List.mem_append_left _ member

end SwapPayout.Bridge
