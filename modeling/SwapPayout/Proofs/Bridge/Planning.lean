import SwapPayout.Bridge
import SwapPayout.Proofs.Outcome

/-!
# What a plan rests on

A bridge plans a payout from what the router knows, and asks nobody else for it. `plan_eq_ok` states
all the grounds of a plan: that the request is authorized (`Authorized`), and that key, receiver,
token and amount of the plan are those that the router's tables give (`Planned`). It is an
equivalence, so these grounds are all there are.
-/

namespace SwapPayout.Bridge

theorem sameIgnoringCase_iff {a b : String} :
    sameIgnoringCase a b = true ↔ a.toList.map Char.toLower = b.toList.map Char.toLower :=
  beq_iff_eq

/-! ## Grounds -/

/-- A bridge serves a request, and its sender is the account that pays. -/
structure Authorized (b : Bridge) (r : SwapRequest) : Prop where
  served : b.registry.serves b.chain.id = true
  /-- Only bridges under test serve requests to other chains than their own. -/
  meant : b.settings.testMode = true ∨ r.toChain = b.chain.id
  named : r.sender ≠ ""
  payer : ∃ payer, b.registry.payer r.tokenId b.chain.id = .ok payer ∧
    r.sender.toList.map Char.toLower = payer.toList.map Char.toLower
  kind : r.kind = .erc20

/-- A plan has the sender's registered key, the receiver of the request, the token that is paid out
for the one paid in, and what the ledger moves for the value of the swap in it. -/
structure Planned (b : Bridge) (r : SwapRequest) (p : Plan) : Prop where
  key : b.registeredKey r.sender = .ok p.publicKey
  receiver : p.receiver = r.receiver
  address : AccountId.isAddress r.receiver = true
  amount : ∃ paid name origin, r.token = some paid ∧
    b.routes.payoutToken paid.tokenId r.toChain = some name ∧
    b.routes.token b.chain.id name = some p.token ∧
    b.routes.token r.fromChain paid.token = some origin ∧
    p.token.ledgerAmount (b.routes.convert
      { tokenId := r.tokenId
        toChain := b.chain.id
        paidIn := r.paidIn
        fromDecimals := origin.decimals
        toDecimals := p.token.decimals
        originSender := r.originSender
        originTarget := r.originTarget }) = .ok p.amount

/-- Two routers answer alike to what is asked for the plan of a request. -/
structure SameAnswers (b : Bridge) (r : SwapRequest) (routes routes' : Routes)
    (registry registry' : Registry) : Prop where
  key : registry.publicKey r.sender = registry'.publicKey r.sender
  payout : ∀ paid ∈ r.token,
    routes.payoutToken paid.tokenId r.toChain = routes'.payoutToken paid.tokenId r.toChain
  token : ∀ paid ∈ r.token, ∀ name ∈ routes.payoutToken paid.tokenId r.toChain,
    routes.token b.chain.id name = routes'.token b.chain.id name
  origin : ∀ paid ∈ r.token,
    routes.token r.fromChain paid.token = routes'.token r.fromChain paid.token
  units : ∀ fromDecimals toDecimals,
    routes.convert ⟨r.tokenId, b.chain.id, r.paidIn, fromDecimals, toDecimals, r.originSender,
      r.originTarget⟩ =
    routes'.convert ⟨r.tokenId, b.chain.id, r.paidIn, fromDecimals, toDecimals, r.originSender,
      r.originTarget⟩

/-- **Who answers alike plans alike.** -/
theorem Planned.unique {b : Bridge} {r : SwapRequest} {routes routes' : Routes}
    {registry registry' : Registry} {p q : Plan}
    (same : b.SameAnswers r routes routes' registry registry')
    (h : Planned { b with routes, registry } r p)
    (h' : Planned { b with routes := routes', registry := registry' } r q) : p = q := by
  obtain ⟨publicKey, receiver, amount, token⟩ := p
  obtain ⟨publicKey', receiver', amount', token'⟩ := q
  have keys : registeredKey { b with routes, registry } r.sender =
      registeredKey { b with routes := routes', registry := registry' } r.sender := by
    unfold registeredKey
    rw [same.key]
  obtain rfl : publicKey = publicKey' := Except.ok.inj (h.key.symm.trans (keys.trans h'.key))
  obtain rfl : receiver = receiver' := h.receiver.trans h'.receiver.symm
  obtain ⟨paid, name, origin, named, payout, found, started, moved⟩ := h.amount
  obtain ⟨paid', name', origin', named', payout', found', started', moved'⟩ := h'.amount
  obtain rfl : paid = paid' := Option.some.inj (named.symm.trans named')
  obtain rfl : name = name' :=
    Option.some.inj (payout.symm.trans ((same.payout paid named).trans payout'))
  obtain rfl : token = token' :=
    Option.some.inj (found.symm.trans ((same.token paid named name payout).trans found'))
  obtain rfl : origin = origin' :=
    Option.some.inj (started.symm.trans ((same.origin paid named).trans started'))
  have units := same.units origin.decimals token.decimals
  obtain rfl : amount = amount' :=
    Except.ok.inj (moved.symm.trans ((congrArg token.ledgerAmount units).trans moved'))
  rfl

/-- What is pinned for a swap is no part of its plan, -/
theorem Planned.repin {b : Bridge} {r : SwapRequest} {p : Plan} (h : b.Planned r p)
    (pinned : Option Pinned) : b.Planned { r with pinned } p :=
  ⟨h.key, h.receiver, h.address, h.amount⟩

/-- nor of what is asked for it. -/
theorem SameAnswers.repin {b : Bridge} {r : SwapRequest} {routes routes' : Routes}
    {registry registry' : Registry} (h : b.SameAnswers r routes routes' registry registry')
    (pinned : Option Pinned) : b.SameAnswers { r with pinned } routes routes' registry registry' :=
  ⟨h.key, h.payout, h.token, h.origin, h.units⟩

/-! ## Checks -/

variable {b : Bridge} {r : SwapRequest}

theorem authorize_eq_ok : b.authorize r = .ok () ↔ b.Authorized r := by
  unfold authorize
  constructor
  · intro h
    obtain ⟨served, h⟩ := ite_error_eq_ok.mp h
    obtain ⟨meant, h⟩ := ite_error_eq_ok.mp h
    obtain ⟨named, h⟩ := ite_error_eq_ok.mp h
    obtain ⟨payer, answer, h⟩ := bind_eq_ok.mp h
    obtain ⟨same, h⟩ := ite_error_eq_ok.mp h
    obtain ⟨kind, -⟩ := ite_error_eq_ok.mp h
    refine ⟨by simpa using served, ?_, by simpa using named, ⟨payer, answer, ?_⟩,
      by simpa using kind⟩
    · by_cases test : b.settings.testMode = true
      · exact .inl test
      · exact .inr (by simpa [test] using meant)
    · exact sameIgnoringCase_iff.mp (by simpa using same)
  · rintro ⟨served, meant, named, ⟨payer, answer, same⟩, kind⟩
    refine ite_error_eq_ok.mpr ⟨by simpa using served, ?_⟩
    refine ite_error_eq_ok.mpr ⟨by rcases meant with test | same <;> simp [*], ?_⟩
    refine ite_error_eq_ok.mpr ⟨by simpa using named, ?_⟩
    refine bind_eq_ok.mpr ⟨payer, answer, ?_⟩
    refine ite_error_eq_ok.mpr ⟨by simpa using sameIgnoringCase_iff.mpr same, ?_⟩
    exact ite_error_eq_ok.mpr ⟨by simpa using kind, rfl⟩

theorem payoutToken_eq_ok {paid : SwapToken} {token : Token} :
    b.payoutToken r paid = .ok token ↔
      ∃ name, b.routes.payoutToken paid.tokenId r.toChain = some name ∧
        b.routes.token b.chain.id name = some token := by
  unfold payoutToken
  cases b.routes.payoutToken paid.tokenId r.toChain with
  | none => simp
  | some name => cases found : b.routes.token b.chain.id name <;> simp [found]

theorem payoutUnits_eq_ok {paid : SwapToken} {token : Token} {units : Nat} :
    b.payoutUnits r paid token = .ok units ↔
      ∃ origin, b.routes.token r.fromChain paid.token = some origin ∧
        b.routes.convert
          { tokenId := r.tokenId
            toChain := b.chain.id
            paidIn := r.paidIn
            fromDecimals := origin.decimals
            toDecimals := token.decimals
            originSender := r.originSender
            originTarget := r.originTarget } = units := by
  unfold payoutUnits
  cases b.routes.token r.fromChain paid.token <;> simp

/-- **A plan has all its grounds, and what has all the grounds is the plan.** -/
theorem plan_eq_ok {p : Plan} : b.plan r = .ok p ↔ b.Authorized r ∧ b.Planned r p := by
  unfold plan
  constructor
  · intro h
    obtain ⟨_, authorized, h⟩ := bind_eq_ok.mp h
    obtain ⟨key, hkey, h⟩ := bind_eq_ok.mp h
    cases named : r.token with
    | none =>
      rw [named] at h
      obtain ⟨_, thrown, -⟩ := bind_eq_ok.mp h
      cases thrown
    | some paid =>
      rw [named] at h
      obtain ⟨_, ⟨⟩, h⟩ := bind_eq_ok.mp h
      obtain ⟨token, htoken, h⟩ := bind_eq_ok.mp h
      obtain ⟨address, h⟩ := ite_error_eq_ok.mp h
      obtain ⟨units, hunits, h⟩ := bind_eq_ok.mp h
      obtain ⟨amount, hamount, h⟩ := bind_eq_ok.mp h
      obtain rfl := pure_eq_ok.mp h
      obtain ⟨name, hname, htoken⟩ := payoutToken_eq_ok.mp htoken
      obtain ⟨origin, horigin, rfl⟩ := payoutUnits_eq_ok.mp hunits
      exact ⟨authorize_eq_ok.mp authorized, hkey, rfl, by simpa using address, paid, name, origin,
        named, hname, htoken, horigin, hamount⟩
  · obtain ⟨key, receiver, amount, token⟩ := p
    rintro ⟨authorized, hkey, rfl, address, paid, name, origin, named, hname, htoken, horigin,
      hamount⟩
    refine bind_eq_ok.mpr ⟨(), authorize_eq_ok.mpr authorized, ?_⟩
    refine bind_eq_ok.mpr ⟨key, hkey, ?_⟩
    rw [named]
    refine bind_eq_ok.mpr ⟨paid, rfl, ?_⟩
    refine bind_eq_ok.mpr ⟨token, payoutToken_eq_ok.mpr ⟨name, hname, htoken⟩, ?_⟩
    refine ite_error_eq_ok.mpr ⟨by simpa using address, ?_⟩
    refine bind_eq_ok.mpr ⟨_, payoutUnits_eq_ok.mpr ⟨origin, horigin, rfl⟩, ?_⟩
    exact bind_eq_ok.mpr ⟨amount, hamount, rfl⟩

end SwapPayout.Bridge
