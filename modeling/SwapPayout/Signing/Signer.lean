import SwapPayout.Key.Private
import SwapPayout.Key.Verification
import SwapPayout.World

/-!
# Signers

A signer answers a task with one signature text. Which signer is used is decided once: a private key
of the process, which checks its own signature before it gives it away, or the signing network,
whose reply must hold exactly one text.
-/

namespace SwapPayout

/-- Everything a signer needs to know of a transaction. -/
structure SigningTask where
  scheme : SignatureScheme
  publicKey : Bytes
  digest : Bytes
  message : Bytes
  context : String

/-- A signature text, and the name of the round in which it was made. -/
structure Grant where
  round : String
  rsv : String
  deriving DecidableEq, Repr

/-- Makes signatures, and may change a state in doing so. -/
structure Signer (σ : Type) where
  holdsKey : Bool
  sign : SigningTask → EStateM PayoutError σ Grant

def SigningTask.toNetwork (task : SigningTask) : OracleRequest where
  scheme := task.scheme
  publicKey := task.scheme.networkKey task.publicKey
  content := task.scheme.content task.digest task.message
  context := task.context

def OracleReply.grant (reply : OracleReply) : Except PayoutError Grant :=
  match reply.rsvs with
  | [rsv] => .ok ⟨reply.round, rsv⟩
  | rsvs => .error (.signatureCount rsvs.length reply.round)

namespace PrivateKey

def round : String := "local"

/-- The text of a signature that the key itself accepts. -/
def grant (key : PrivateKey) (task : SigningTask) : Except PayoutError Grant := do
  let signature ← key.sign task.digest task.message
  (checkSignature key.publicKey task.digest task.message signature).mapError fun e =>
    .signatureRefused round e.message
  let rsv ← Rsv.ofSignature signature key.scheme
  return ⟨round, rsv⟩

end PrivateKey

namespace Signer

def ofKey {σ : Type} (key : PrivateKey) : Signer σ where
  holdsKey := true
  sign task := fun s =>
    match key.grant task with
    | .ok grant => .ok grant s
    | .error e => .error e s

def network {Λ Κ Ω : Type} [Oracle Ω] : Signer (World Λ Κ Ω) where
  holdsKey := false
  sign task := do
    let reply ← World.sign task.toNetwork
    World.settle reply.grant

end Signer

end SwapPayout
