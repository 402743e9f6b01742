import SwapPayout.Payment.Sealed
import SwapPayout.Signing.Signer

/-!
# Signing sessions

The signing of one draft. A session moves from unsigned over signed to verified, or it fails; each
operation belongs to one stage, and a call at another one changes nothing. Only a verified session
can be completed, so no signature that was not checked gets into a payment.
-/

namespace SwapPayout

/-- Where a session stands, with the signature text once there is one. -/
inductive Stage where
  | unsigned
  | signed (grant : Grant)
  | verified (grant : Grant)
  | failed
  deriving DecidableEq, Repr

def Stage.name : Stage → String
  | unsigned => "unsigned"
  | signed _ => "signed"
  | verified _ => "verified"
  | failed => "failed"

/-- The signing of a draft. -/
structure Session where
  draft : Draft
  stage : Stage := .unsigned
  deriving DecidableEq, Repr

namespace Session

/-- The cause that says that a call came at the wrong stage. -/
def outOfTurn (s : Session) (expected : String) : PayoutError := .outOfTurn expected s.stage.name

def task (s : Session) (context : String) : SigningTask where
  scheme := s.draft.scheme
  publicKey := s.draft.publicKey
  digest := s.draft.digest
  message := s.draft.message
  context := context

def ask {σ : Type} (s : Session) (signer : Signer σ) (context : String) (w : σ) :
    Except PayoutError Unit × Session × σ :=
  match s.stage with
  | .unsigned =>
    match signer.sign (s.task context) w with
    | .ok grant w => (.ok (), { s with stage := .signed grant }, w)
    | .error e w => (.error e, { s with stage := .failed }, w)
  | _ => (.error (s.outOfTurn "unsigned"), s, w)

def checkRsv (d : Draft) (rsv : String) : Except PayoutError Unit := do
  let signature ← Rsv.toSignature rsv d.scheme
  checkSignature d.publicKey d.digest d.message signature

def verify (s : Session) : Except PayoutError Unit × Session :=
  match s.stage with
  | .signed grant =>
    match checkRsv s.draft grant.rsv with
    | .ok () => (.ok (), { s with stage := .verified grant })
    | .error e => (.error (.signatureRefused grant.round e.message), { s with stage := .failed })
  | _ => (.error (s.outOfTurn "signed"), s)

def complete (s : Session) : Except PayoutError (SealedPayment × Grant) :=
  match s.stage with
  | .verified grant => (s.draft.seal s.draft.publicKey grant.rsv).map (·, grant)
  | _ => .error (s.outOfTurn "verified")

def run {σ : Type} (d : Draft) (signer : Signer σ) (context : String) :
    EStateM PayoutError σ SealedPayment := fun w =>
  match ask { draft := d } signer context w with
  | (.error e, _, w) => .error e w
  | (.ok (), s, w) =>
    match s.verify with
    | (.error e, _) => .error e w
    | (.ok (), s) =>
      match s.complete with
      | .ok (payment, _) => .ok payment w
      | .error e => .error e w

end Session

end SwapPayout
