import SwapPayout.Key.Private
import SwapPayout.Signing.Oracle

/-!
# A signing network in memory

A signing network that holds one private key, in text, and behaves as it is told: as agreed, or in
one of the ways in which a network can fail its users. Its rounds are numbered, failed ones too. The
key is read when a round needs it, so a network that only repeats given texts needs none.
-/

namespace SwapPayout.InMemory

/-- How the network answers. -/
inductive Behaviour where
  | honest
  | two
  | none
  | wrong
  | unavailable
  /-- Exactly these texts. -/
  | fixed (rsvs : List String)

/-- A key, a behaviour, and the number of rounds so far. -/
structure OracleState where
  key : String := ""
  behaviour : Behaviour := .honest
  rounds : Nat := 0

/-- The signature text of some bytes: as a hash for ECDSA, as a message for EdDSA. -/
def OracleState.rsvOf (s : OracleState) (scheme : SignatureScheme) (bytes : Bytes) :
    Except PayoutError String := do
  let key ← PrivateKey.ofHex s.key
  let signature ← match scheme with
    | .ecdsa => key.sign bytes []
    | .eddsa => key.sign (List.replicate 32 0) bytes
  Rsv.ofSignature signature scheme

def OracleState.rsvs (s : OracleState) (request : OracleRequest) :
    Except PayoutError (List String) := do
  let honest : Except PayoutError String := do
    s.rsvOf request.scheme (← readHex request.content)
  match s.behaviour with
  | .honest => return [← honest]
  | .two => let rsv ← honest; return [rsv, rsv]
  | .none => return []
  | .wrong => return [← s.rsvOf request.scheme (List.replicate 32 0xAB)]
  | .unavailable => throw (.oracleFailed "mpc network timeout")
  | .fixed rsvs => return rsvs

instance : Oracle OracleState where
  sign request s :=
    let rounds := s.rounds + 1
    ((s.rsvs request).map fun rsvs => ⟨s!"key-{rounds}", rsvs⟩, { s with rounds })

end SwapPayout.InMemory
