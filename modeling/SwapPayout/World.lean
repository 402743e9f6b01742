import SwapPayout.Ledger.Basic
import SwapPayout.Signing.Oracle

/-!
# The world around a payout

A payout consults three services: the ledger, the keeper of sequence numbers and the signing
network. Each has a state of its own, and whatever it answers is entered in a journal. A step of a
payout is a computation over this world; when it fails, what it did to the world until then stays
done.
-/

namespace SwapPayout

/-- A keeper of sequence numbers with states of type `Κ`. -/
class SequenceKeeper (Κ : Type) where
  /-- The number to use for an account for which the ledger gave `fetched`. -/
  allocate : (address : String) → (fetched : UInt64) → Κ → UInt64 × Κ

/-- A question to a service, with its answer. -/
inductive Consultation where
  | account (address : String) (answer : Except PayoutError (Option AccountState))
  | trustLine (address currency issuer : String)
      (answer : Except PayoutError (Option Quantity))
  | sequence (address : String) (fetched given : UInt64)
  | signature (request : OracleRequest) (answer : Except PayoutError OracleReply)

/-- The services' states, and the journal of their answers, last first. -/
structure World (Λ Κ Ω : Type) where
  ledger : Λ
  keeper : Κ
  oracle : Ω
  journal : List Consultation := []

/-- A computation that consults the services and may fail. -/
abbrev Consulting (Λ Κ Ω α : Type) := EStateM PayoutError (World Λ Κ Ω) α

namespace World

variable {Λ Κ Ω : Type}

def settle {α : Type} (answer : Except PayoutError α) : Consulting Λ Κ Ω α := fun w =>
  match answer with
  | .ok a => .ok a w
  | .error e => .error e w

def account [Ledger Λ] (address : String) : Consulting Λ Κ Ω (Option AccountState) := fun w =>
  let (answer, ledger) := Ledger.account address w.ledger
  settle answer { w with ledger, journal := .account address answer :: w.journal }

def trustLine [Ledger Λ] (address currency issuer : String) :
    Consulting Λ Κ Ω (Option Quantity) := fun w =>
  let (answer, ledger) := Ledger.trustLine address currency issuer w.ledger
  settle answer
    { w with ledger, journal := .trustLine address currency issuer answer :: w.journal }

def allocate [SequenceKeeper Κ] (address : String) (fetched : UInt64) :
    Consulting Λ Κ Ω UInt64 := fun w =>
  let (given, keeper) := SequenceKeeper.allocate address fetched w.keeper
  .ok given { w with keeper, journal := .sequence address fetched given :: w.journal }

def sign [Oracle Ω] (request : OracleRequest) : Consulting Λ Κ Ω OracleReply := fun w =>
  let (answer, oracle) := Oracle.sign request w.oracle
  settle answer { w with oracle, journal := .signature request answer :: w.journal }

end World

def Consulting.mapError {Λ Κ Ω α : Type} (f : PayoutError → PayoutError)
    (x : Consulting Λ Κ Ω α) : Consulting Λ Κ Ω α := fun w =>
  match x w with
  | .ok a w => .ok a w
  | .error e w => .error (f e) w

end SwapPayout
