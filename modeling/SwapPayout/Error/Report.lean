import SwapPayout.Error.Payout
import SwapPayout.Json.Record

/-!
# Causes in reports

Causes travel between services as JSON: the tag of the cause alone, or an object with the tag as its
one key. A cause with one detail has it as the value, one with several has them as an object.
-/

namespace SwapPayout

open Json (Value Record)

def FailureClass.tag : FailureClass → String
  | .unmet => "Precondition"
  | .insolvent => "Solvency"
  | .unwritable => "Encoding"
  | .breach => "OracleProtocol"
  | .transient => "Transient"

namespace FormatError

def tag : FormatError → String
  | address _ => "InvalidAddress"
  | publicKey _ => "InvalidPublicKeyFormat"
  | currency _ => "InvalidCurrency"
  | amount _ => "InvalidAmount"
  | path _ => "InvalidPath"
  | binary _ => "EncodingError"

def ofTag? : String → Option (String → FormatError)
  | "InvalidAddress" => some address
  | "InvalidPublicKeyFormat" => some publicKey
  | "InvalidCurrency" => some currency
  | "InvalidAmount" => some amount
  | "InvalidPath" => some path
  | "EncodingError" => some binary
  | _ => none

def ofJson? (v : Value) : Option FormatError := do
  match ← v.members? with
  | [(tag, detail)] => return (← ofTag? tag) (← detail.text?)
  | _ => none

end FormatError

namespace PayoutError

def tag : PayoutError → String
  | wrongChain .. => "ToChainIdMismatch"
  | chainNotServed _ => "UnsupportedChain"
  | noSender => "EmptySender"
  | noPayer .. => "RouterSignerNotFound"
  | wrongSender .. => "SenderMismatch"
  | swapKindNotServed _ => "SwapTypeNotSupported"
  | noPublicKey _ => "MissingPublicKey"
  | badPublicKey .. => "InvalidPublicKey"
  | foreignKey .. => "PublicKeyMismatch"
  | unknownToken _ => "MissingTokenConfig"
  | badReceiver _ => "InvalidReceiver"
  | wrongReceiver .. => "ReceiverMismatch"
  | noPrivateKey _ => "MissingPrivateKey"
  | badPrivateKey _ => "InvalidPrivateKey"
  | outOfTurn .. => "SigningState"
  | senderShort _ => "InsufficientNativeSender"
  | receiverShort _ => "InsufficientNativeReceiver"
  | holdingShort .. => "InsufficientIssued"
  | amountTooLarge _ => "AmountOverflow"
  | badFee _ => "MalformedFee"
  | noSuchCurrency _ => "UnknownCurrency"
  | noSuchIssuer _ => "UnknownIssuer"
  | sequenceTooLarge _ => "SequenceOverflow"
  | badSignature _ => "InvalidSignature"
  | notWritable _ => "Encoding"
  | signatureCount .. => "UnexpectedSignatureCount"
  | signatureRefused .. => "SignatureVerification"
  | oracleFailed _ => "Oracle"
  | accountUnreadable .. => "AccountUnavailable"
  | balanceUnreadable .. => "BalanceUnavailable"
  | nodeFailed _ => "Rpc"

/-- The causes with one text as their detail, by their tags. -/
def ofText? : (tag : String) → Option (String → PayoutError)
  | "UnsupportedChain" => some chainNotServed
  | "SwapTypeNotSupported" => some swapKindNotServed
  | "MissingPublicKey" => some noPublicKey
  | "MissingTokenConfig" => some unknownToken
  | "InvalidReceiver" => some badReceiver
  | "MissingPrivateKey" => some noPrivateKey
  | "InvalidPrivateKey" => some badPrivateKey
  | "InsufficientNativeSender" => some senderShort
  | "InsufficientNativeReceiver" => some receiverShort
  | "AmountOverflow" => some amountTooLarge
  | "MalformedFee" => some badFee
  | "UnknownCurrency" => some noSuchCurrency
  | "UnknownIssuer" => some noSuchIssuer
  | "InvalidSignature" => some badSignature
  | "Encoding" => some notWritable
  | "Oracle" => some oracleFailed
  | "Rpc" => some nodeFailed
  | _ => none

/-- The causes with two texts as their details, by their tags, and the names of these. -/
def ofTexts? : (tag : String) → Option (String × String × (String → String → PayoutError))
  | "ToChainIdMismatch" => some ("have", "want", wrongChain)
  | "RouterSignerNotFound" => some ("token_id", "chain_id", noPayer)
  | "SenderMismatch" => some ("have", "want", wrongSender)
  | "InvalidPublicKey" => some ("key", "reason", badPublicKey)
  | "PublicKeyMismatch" => some ("have", "want", foreignKey)
  | "ReceiverMismatch" => some ("have", "want", wrongReceiver)
  | "SigningState" => some ("expected", "actual", outOfTurn)
  | "SignatureVerification" => some ("key_id", "reason", signatureRefused)
  | "AccountUnavailable" => some ("address", "reason", accountUnreadable)
  | "BalanceUnavailable" => some ("address", "reason", balanceUnreadable)
  | _ => none

/-- The details of a cause with several, which must be given by name. -/
def detailsOf? (names : List String) (v : Value) : Option Record := do
  let record ← Record.ofValue? names v
  if record.positional then none else some record

def ofDetails? (tag : String) (details : Value) : Option PayoutError :=
  match ofText? tag, ofTexts? tag with
  | some cause, _ => details.text?.map cause
  | none, some (first, second, cause) => do
    let record ← detailsOf? [first, second] details
    return cause (← record.required first Value.text?) (← record.required second Value.text?)
  | none, none =>
    match tag with
    | "EmptySender" =>
      match details with
      | .null => some noSender
      | _ => none
    | "SequenceOverflow" =>
      (details.natBelow? (2 ^ 64)).map fun n => sequenceTooLarge (UInt64.ofNat n)
    | "InsufficientIssued" => do
      let record ← detailsOf? ["currency", "issuer", "account"] details
      return holdingShort (← record.required "currency" Value.text?)
        (← record.required "issuer" Value.text?) (← record.required "account" Value.text?)
    | "UnexpectedSignatureCount" => do
      let record ← detailsOf? ["count", "key_id"] details
      return signatureCount (← record.required "count" (Value.natBelow? (2 ^ 64)))
        (← record.required "key_id" Value.text?)
    | _ => none

def ofJson? (v : Value) : Option PayoutError :=
  match v with
  | .string (some "EmptySender") => some noSender
  | v =>
    match v.members? with
    | some [(tag, details)] => ofDetails? tag details
    | _ => none

end PayoutError

end SwapPayout
