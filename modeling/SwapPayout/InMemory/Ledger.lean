import SwapPayout.Ledger.Basic

/-!
# A ledger in memory

A ledger that holds what it is told, for rehearsing payouts: accounts and trust lines by their exact
texts, and the addresses that are out of reach. Asking does not change it.
-/

namespace SwapPayout.InMemory

/-- Accounts, trust lines and unreachable addresses. -/
structure LedgerState where
  accounts : List (String × AccountState) := []
  lines : List ((String × String × String) × Quantity) := []
  unreachable : List String := []

namespace LedgerState

def fund (s : LedgerState) (address : String) (balance : UInt64) (sequence : UInt32) :
    LedgerState :=
  { s with accounts := (address, ⟨address, balance, sequence⟩) :: s.accounts }

def addLine (s : LedgerState) (address currency issuer : String) (balance : Quantity) :
    LedgerState :=
  { s with lines := ((address, currency, issuer), balance) :: s.lines }

def remove (s : LedgerState) (address : String) : LedgerState :=
  { s with accounts := s.accounts.filter (·.1 != address) }

def disconnect (s : LedgerState) (address : String) : LedgerState :=
  { s with unreachable := address :: s.unreachable }

def connect (s : LedgerState) (address : String) : LedgerState :=
  { s with unreachable := s.unreachable.filter (· != address) }

/-- An answer about an address, unless it is out of reach. -/
def answer {α : Type} (s : LedgerState) (address : String) (a : α) : Except PayoutError α :=
  if s.unreachable.contains address then .error (.nodeFailed "connection refused") else .ok a

end LedgerState

instance : Ledger LedgerState where
  account address s := (s.answer address (s.accounts.lookup address), s)
  trustLine address currency issuer s :=
    (s.answer address (s.lines.lookup (address, currency, issuer)), s)

end SwapPayout.InMemory
