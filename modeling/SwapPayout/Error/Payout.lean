import SwapPayout.Error.Format

/-!
# Why a payout fails

One cause for every way in which building or signing a payout can stop. A cause has a wording and
belongs to a class, and the class alone decides whether the same swap is worth another try: only
infrastructure that did not answer is, see `worthRetrying`.
-/

namespace SwapPayout

/-- The coarse classes of causes. -/
inductive FailureClass where
  /-- The request, the settings or the state is not what the step needs. -/
  | unmet
  /-- An account cannot carry the payment. -/
  | insolvent
  /-- A value has no written form. -/
  | unwritable
  /-- The signing network answered, but not as agreed. -/
  | breach
  /-- Something did not answer. -/
  | transient
  deriving Repr, DecidableEq

/-- Why a payout cannot be built or signed. -/
inductive PayoutError where
  | wrongChain (actual expected : String)
  | chainNotServed (chain : String)
  | noSender
  | noPayer (token chain : String)
  | wrongSender (actual expected : String)
  | swapKindNotServed (kind : String)
  | noPublicKey (address : String)
  | badPublicKey (key reason : String)
  | foreignKey (actual expected : String)
  | unknownToken (token : String)
  | badReceiver (receiver : String)
  /-- The transaction pays another account than the swap says. -/
  | wrongReceiver (actual expected : String)
  | noPrivateKey (chain : String)
  | badPrivateKey (reason : String)
  /-- A signing session was called at the wrong stage. -/
  | outOfTurn (expected actual : String)
  | senderShort (account : String)
  | receiverShort (account : String)
  /-- The sender holds too little of an issued asset. -/
  | holdingShort (currency issuer account : String)
  | amountTooLarge (amount : String)
  | badFee (fee : String)
  | noSuchCurrency (code : String)
  | noSuchIssuer (issuer : String)
  | sequenceTooLarge (sequence : UInt64)
  | badSignature (reason : String)
  | notWritable (reason : String)
  /-- The signing network gave none or several signatures. -/
  | signatureCount (count : Nat) (round : String)
  | signatureRefused (round reason : String)
  | oracleFailed (reason : String)
  | accountUnreadable (address reason : String)
  | balanceUnreadable (address reason : String)
  | nodeFailed (reason : String)
  deriving Repr, DecidableEq

namespace PayoutError

def message : PayoutError → String
  | wrongChain actual expected => s!"to chainID mismatch: have {actual}, want {expected}"
  | chainNotServed chain => s!"unsupported chain id: {chain}"
  | noSender => "forbid empty sender"
  | noPayer token chain => s!"router signer not found for token {token} on chain {chain}"
  | wrongSender actual expected => s!"sender mismatch: have {actual}, want {expected}"
  | swapKindNotServed kind => s!"swap type not supported: {kind}"
  | noPublicKey address => s!"missing mpc public key for {address}"
  | badPublicKey key reason => s!"invalid public key {key}: {reason}"
  | foreignKey actual expected =>
    s!"public key mismatch: transaction is signed by {actual}, signer holds {expected}"
  | unknownToken token => s!"missing token config: {token}"
  | badReceiver receiver => s!"can not swapout to empty or invalid receiver: {receiver}"
  | wrongReceiver actual expected =>
    s!"[sign] verify tx receiver failed: tx pays {actual}, swap binds {expected}"
  | noPrivateKey chain => s!"missing signer private key for chain {chain}"
  | badPrivateKey reason => s!"invalid private key: {reason}"
  | outOfTurn expected actual => s!"signing session is {actual}, expected {expected}"
  | senderShort account => s!"insufficient native balance, sender: {account}"
  | receiverShort account => s!"insufficient native balance, receiver: {account}"
  | holdingShort currency issuer account =>
    s!"insufficient {currency} balance, issuer: {issuer}, account: {account}"
  | amountTooLarge amount => s!"amount value {amount} is overflow of type int64"
  | badFee fee => s!"malformed fee {fee}"
  | noSuchCurrency code => s!"non exist currency {code}"
  | noSuchIssuer issuer => s!"non exist issuer {issuer}"
  | sequenceTooLarge sequence => s!"sequence {sequence} is overflow of type uint32"
  | badSignature reason => s!"invalid signature encoding: {reason}"
  | notWritable reason => s!"encoding error: {reason}"
  | signatureCount count round =>
    s!"get sign status require one rsv but have {count} (keyID = {round})"
  | signatureRefused round reason => s!"verify signature error (keyID = {round}): {reason}"
  | oracleFailed reason => s!"signing oracle error: {reason}"
  | accountUnreadable address reason => s!"cannot get account {address}: {reason}"
  | balanceUnreadable address reason => s!"cannot get balance of {address}: {reason}"
  | nodeFailed reason => s!"rpc error: {reason}"

def failureClass : PayoutError → FailureClass
  | wrongChain .. | chainNotServed _ | noSender | noPayer .. | wrongSender .. | swapKindNotServed _
  | noPublicKey _ | badPublicKey .. | foreignKey .. | unknownToken _ | badReceiver _
  | wrongReceiver .. | noPrivateKey _ | badPrivateKey _ | outOfTurn .. => .unmet
  | senderShort _ | receiverShort _ | holdingShort .. => .insolvent
  | amountTooLarge _ | badFee _ | noSuchCurrency _ | noSuchIssuer _ | sequenceTooLarge _
  | badSignature _ | notWritable _ => .unwritable
  | signatureCount .. | signatureRefused .. => .breach
  | oracleFailed _ | accountUnreadable .. | balanceUnreadable .. | nodeFailed _ => .transient

/-- Is the same swap worth another try as it stands? -/
def worthRetrying (e : PayoutError) : Bool := e.failureClass == .transient

/-- A format refusal as the cause of a failed payout. A bad key keeps its reason, but the key itself
is not known here. -/
def ofFormat : FormatError → PayoutError
  | .publicKey detail => badPublicKey "" detail
  | e => notWritable e.message

end PayoutError

end SwapPayout
