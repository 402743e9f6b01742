import SwapPayout.Sequence.Pinning
import SwapPayout.Signing.Session
import SwapPayout.Solvency
import SwapPayout.Swap.Routes

/-!
# The bridge

The bridge pays out swaps on its chain. Building a payout takes four steps: the request is planned
from what the router knows, the two ends are checked for solvency, a sequence number and a fee are
pinned, and the payment is drafted. What is pinned stays pinned, even when the payment then cannot
be drafted.

Signing first checks that the payment goes where the swap says, and, through the signing network,
that it is signed by the key of the account that pays.
-/

namespace SwapPayout

/-- Where a bridge gets its signatures, decided when it is set up. -/
inductive SignerChoice where
  | network
  | held (key : PrivateKey)

/-- A bridge to one chain. -/
structure Bridge where
  chain : ChainSettings
  settings : Settings
  routes : Routes
  registry : Registry
  signer : SignerChoice

namespace Bridge

/-- Where a bridge to a chain gets its signatures. -/
def chooseSigner (settings : Settings) (chain : String) : Except PayoutError SignerChoice :=
  if settings.signsLocally then
    match settings.privateKey? chain with
    | none => .error (.noPrivateKey chain)
    | some key => (PrivateKey.ofHex key).map .held
  else .ok .network

/-- Sets up the bridge to a chain of the settings. -/
def setUp (chain : String) (settings : Settings) (routes : Routes) (registry : Registry) :
    Except PayoutError Bridge :=
  match settings.chain? chain with
  | none => .error (.chainNotServed chain)
  | some found => (chooseSigner settings chain).map fun signer =>
    { chain := found, settings, routes, registry, signer }

/-! ## Planning -/

/-- Are two texts equal when the case of ASCII letters does not count? -/
def sameIgnoringCase (a b : String) : Bool := a.toList.map Char.toLower == b.toList.map Char.toLower

def registeredKey (b : Bridge) (address : String) : Except PayoutError Bytes :=
  match (b.registry.publicKey address).filter (! ·.isEmpty) with
  | none => .error (.noPublicKey address)
  | some key => (readHex key).mapError fun e => .badPublicKey key e.message

/-- Checks that the bridge serves a request and that its sender is the account that pays. -/
def authorize (b : Bridge) (r : SwapRequest) : Except PayoutError Unit := do
  if !b.registry.serves b.chain.id then throw (.chainNotServed b.chain.id)
  if !b.settings.testMode && r.toChain != b.chain.id then throw (.wrongChain r.toChain b.chain.id)
  if r.sender.isEmpty then throw .noSender
  let payer ← b.registry.payer r.tokenId b.chain.id
  if !sameIgnoringCase r.sender payer then throw (.wrongSender r.sender payer)
  if r.kind ≠ .erc20 then throw (.swapKindNotServed r.kind.name)

/-- What a payout comes to: who signs, who is paid, and what. -/
structure Plan where
  publicKey : Bytes
  receiver : String
  amount : Amount
  token : Token

def payoutToken (b : Bridge) (r : SwapRequest) (paid : SwapToken) : Except PayoutError Token :=
  match b.routes.payoutToken paid.tokenId r.toChain with
  | none => .error (.unknownToken paid.tokenId)
  | some name =>
    match b.routes.token b.chain.id name with
    | none => .error (.unknownToken name)
    | some token => .ok token

/-- What a swap is worth in the token that it is paid out in. -/
def payoutUnits (b : Bridge) (r : SwapRequest) (paid : SwapToken) (token : Token) :
    Except PayoutError Nat :=
  match b.routes.token r.fromChain paid.token with
  | none => .error (.unknownToken paid.token)
  | some origin => .ok <| b.routes.convert
      { tokenId := r.tokenId
        toChain := b.chain.id
        paidIn := r.paidIn
        fromDecimals := origin.decimals
        toDecimals := token.decimals
        originSender := r.originSender
        originTarget := r.originTarget }

def plan (b : Bridge) (r : SwapRequest) : Except PayoutError Plan := do
  b.authorize r
  let publicKey ← b.registeredKey r.sender
  let paid ← match r.token with
    | some paid => pure paid
    | none => throw (.unknownToken s!"swap {r.id} has no token info")
  let token ← b.payoutToken r paid
  if !AccountId.isAddress r.receiver then throw (.badReceiver r.receiver)
  let units ← b.payoutUnits r paid token
  let amount ← token.ledgerAmount units
  return { publicKey, receiver := r.receiver, amount, token }

/-! ## Building -/

section

variable {Λ Κ Ω : Type} [Ledger Λ]

/-- Checks that both ends of a planned payment can carry it. -/
def requireSolvency (b : Bridge) (sender : String) (p : Plan) : Consulting Λ Κ Ω Unit := do
  let reserves := b.chain.reserves
  match p.amount with
  | .native drops =>
    let drops := UInt64.ofNat drops.toNat
    requireReserve sender (.debit (addSaturating drops reserves.margin)) reserves.required
    requireReserve p.receiver (.credit drops) reserves.required
  | .issued quantity _ _ =>
    requireReserve p.receiver .unmoved reserves.required
    requireHolding sender p.token.currencyCode p.token.issuerText quantity

/-- The order for a planned payment with its sequence number and fee. -/
def Plan.order (p : Plan) (pinned : Pinned) : PaymentOrder where
  publicKey := p.publicKey
  sequence := pinned.sequence
  receiver := p.receiver
  amount := p.amount
  fee := pinned.fee

variable [SequenceKeeper Κ]

/-- Plans the payout of a request, checks it, and pins its sequence number and fee. -/
def prepare (b : Bridge) (r : SwapRequest) : Consulting Λ Κ Ω (Plan × Pinned) := do
  let p ← World.settle (b.plan r)
  b.requireSolvency r.sender p
  let pinned ← pin b.chain.feeText r
  return (p, pinned)

/-- What comes of building: the draft or a cause, the request with what is pinned for it, and the
world. -/
structure Built (Λ Κ Ω : Type) where
  result : Except PayoutError Draft
  request : SwapRequest
  world : World Λ Κ Ω

def build (b : Bridge) (r : SwapRequest) (w : World Λ Κ Ω) : Built Λ Κ Ω :=
  match b.prepare r w with
  | .error e w => ⟨.error e, r, w⟩
  | .ok (p, pinned) w => ⟨Draft.ofOrder (p.order pinned), { r with pinned := some pinned }, w⟩

end

/-! ## Signing -/

/-- Checks that a draft pays the account that a swap says. -/
def checkReceiver (d : Draft) (r : SwapRequest) : Except PayoutError Unit :=
  let address := d.destination.address
  if sameIgnoringCase address r.receiver then .ok () else .error (.wrongReceiver address r.receiver)

/-- Checks that a draft was made for the key that is to sign it. -/
def checkKey (d : Draft) (key : Bytes) : Except PayoutError Unit :=
  if key = d.publicKey then .ok ()
  else .error (.foreignKey (Hex.lower d.publicKey) (Hex.lower key))

section

variable {Λ Κ Ω : Type} [Oracle Ω]

/-- Signs a payout with the signer that was chosen when the bridge was set up. -/
def sign (b : Bridge) (d : Draft) (r : SwapRequest) : Consulting Λ Κ Ω SealedPayment := do
  World.settle (checkReceiver d r)
  match b.signer with
  | .held key => Session.run d (Signer.ofKey key) r.context
  | .network =>
    let key ← World.settle (b.registeredKey r.sender)
    World.settle (checkKey d key)
    Session.run d Signer.network r.context

end

/-- Signs a draft with a private key given for the occasion. -/
def signWithKey (d : Draft) (key : PrivateKey) : Except PayoutError SealedPayment := do
  checkKey d key.publicKey
  match Session.run d (Signer.ofKey key) "" () with
  | .ok payment () => return payment
  | .error e () => throw e

end Bridge

end SwapPayout
