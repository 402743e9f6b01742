import SwapPayout.Currency
import SwapPayout.Json.Record
import SwapPayout.Ledger.Basic
import SwapPayout.Quantity.Notation

/-!
# Replies of ledger nodes

The two replies in which a node says what an account holds. A reply with an error code is a failed
query, save for the one code that says that the account has never been funded.
-/

namespace SwapPayout

open Json (Value Record)

/-- The error code for an account that has never been funded. -/
def neverFunded : String := "actNotFound"

/-- The account entry of a reply, its balance still in text. -/
structure AccountEntry where
  address : String
  balance : String
  sequence : UInt32

/-- The reply to the question for an account. -/
structure AccountReply where
  entry : Option AccountEntry
  error : Option String
  explanation : Option String

/-- A trust line of a reply, its balance still in text. -/
structure TrustLine where
  /-- The other side of the line, the issuer of an asset that is held. -/
  counterparty : String
  balance : String
  currency : String

/-- The reply to the question for an account's trust lines. -/
structure LinesReply where
  lines : List TrustLine
  error : Option String

/-! ## Reading -/

def AccountEntry.ofJson? (v : Value) : Option AccountEntry := do
  let record ← Record.ofValue? ["Account", "Balance", "Sequence"] v
  return { address := ← record.required "Account" Value.text?
           balance := ← record.required "Balance" Value.text?
           sequence := UInt32.ofNat (← record.required "Sequence" (Value.natBelow? (2 ^ 32))) }

def AccountReply.ofJson? (v : Value) : Option AccountReply := do
  let record ← Record.ofValue? ["account_data", "error", "error_message"] v
  return { entry := ← record.omissible "account_data" AccountEntry.ofJson?
           error := ← record.omissible "error" Value.text?
           explanation := ← record.omissible "error_message" Value.text? }

def TrustLine.ofJson? (v : Value) : Option TrustLine := do
  let record ← Record.ofValue? ["account", "balance", "currency"] v
  return { counterparty := ← record.required "account" Value.text?
           balance := ← record.required "balance" Value.text?
           currency := ← record.required "currency" Value.text? }

def LinesReply.ofJson? (v : Value) : Option LinesReply := do
  let record ← Record.ofValue? ["lines", "error"] v
  return { lines := ← record.defaulted "lines" [] fun v => v.items?.bind (·.mapM TrustLine.ofJson?)
           error := ← record.omissible "error" Value.text? }

/-! ## Meaning -/

/-- What a reply says of the account: it exists, it does not, or the query failed. -/
def AccountReply.state (reply : AccountReply) : Except PayoutError (Option AccountState) :=
  match reply.error, reply.entry with
  | some error, _ =>
    if error = neverFunded then .ok none
    else .error (.nodeFailed ("account_info: " ++ error ++ " " ++ reply.explanation.getD ""))
  | none, some entry =>
    match Text.readUInt64 entry.balance with
    | .ok balance => .ok (some ⟨entry.address, balance, entry.sequence⟩)
    | .error e =>
      .error (.nodeFailed ("account_info: bad balance " ++ entry.balance ++ ": " ++ e.message))
  | none, none => .error (.nodeFailed "account_info: missing account_data")

/-- Is this the line of an issuer's currency? A line whose code names no currency is none. -/
def TrustLine.holds (currency : Currency) (issuer : String) (line : TrustLine) : Bool :=
  match Currency.ofCode line.currency with
  | .ok c => c == currency && line.counterparty == issuer
  | .error _ => false

/-- The balance of the first line of an issuer's currency, if there is one. -/
def LinesReply.holding (reply : LinesReply) (currency issuer : String) :
    Except PayoutError (Option Quantity) :=
  match reply.error with
  | some error =>
    if error = neverFunded then .ok none else .error (.nodeFailed ("account_lines: " ++ error))
  | none => do
    let wanted ← (Currency.ofCode currency).mapError PayoutError.ofFormat
    match reply.lines.find? (·.holds wanted issuer) with
    | some line => ((Quantity.parse line.balance).mapError PayoutError.ofFormat).map some
    | none => return none

end SwapPayout
