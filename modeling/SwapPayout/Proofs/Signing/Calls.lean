import SwapPayout.Proofs.Bridge.Signing
import SwapPayout.Proofs.Key.Rsv

/-!
# Calls on a session

Who holds a session may call it in any order and as often as he likes, and bring another signer with
each request. `disciplined` says what holds behind every sequence of calls: a signer was asked at
most once; a call that is not due changes nothing and says so; a session that failed or is verified
stays as it is; and the session is verified only with a text that passed the check, and then, and
only then, it can be completed.

That a verified session can be completed is more than the check says, for the signature has still to
be put into the payment. It can be: a draft's payment has a binary form without a signature
(`Draft.exists_seal`), and no signature is too long for one.
-/

namespace SwapPayout

/-! ## Completing -/

/-- A draft that was made of an order can be sealed with every text that is read as a signature. -/
theorem Draft.exists_seal {o : PaymentOrder} {d : Draft} {rsv : String} {signature : Bytes}
    (made : Draft.ofOrder o = .ok d) (read : Rsv.toSignature rsv d.scheme = .ok signature) :
    ∃ payment, d.seal d.publicKey rsv = .ok payment := by
  obtain ⟨-, payload, -⟩ := Draft.ofOrder_eq_ok.mp made
  rw [Payment.signedForm_eq_wireForm] at payload
  obtain ⟨fee, amount, key, -, memos, paths⟩ := Payment.exists_wireForm_eq_ok.mp ⟨_, payload⟩
  have short : ∀ s ∈ some signature, s.length ≤ Wire.maxLength := by
    rintro _ ⟨⟩
    exact Nat.le_trans (Rsv.length_toSignature_le read) (by decide)
  obtain ⟨blob, wire⟩ : ∃ blob,
      ({ d.payment with txnSignature := some signature } : Payment).wireForm = .ok blob :=
    Payment.exists_wireForm_eq_ok.mpr ⟨fee, amount, key, short, memos, paths⟩
  exact ⟨⟨_, blob, sha512Half (transactionMarker ++ blob)⟩,
    Draft.seal_eq_ok.mpr ⟨rfl, signature, read, rfl, wire, rfl⟩⟩

/-! ## Calls -/

/-- The signer, with a count of how often it is asked. -/
def Signer.counting {σ : Type} (signer : Signer σ) : Signer (σ × Nat) where
  holdsKey := signer.holdsKey
  sign task := fun (w, count) =>
    match signer.sign task w with
    | .ok grant w => .ok grant (w, count + 1)
    | .error e w => .error e (w, count + 1)

/-- Is this the end of a session? -/
def Stage.isFinal : Stage → Bool
  | verified _ | failed => true
  | unsigned | signed _ => false

/-- How often a session may still ask a signer. -/
def Stage.chances : Stage → Nat
  | unsigned => 1
  | signed _ | verified _ | failed => 0

namespace Session

/-- A call on a session. Each request may bring a signer of its own. -/
inductive Call (σ : Type) where
  | ask (signer : Signer σ) (context : String)
  | verify

section

variable {σ : Type}

namespace Call

/-- The stage at which a call is due. -/
def expected : Call σ → String
  | ask .. => "unsigned"
  | verify => "signed"

def isDue : Call σ → Stage → Bool
  | ask .., .unsigned => true
  | verify, .signed _ => true
  | _, _ => false

def run : Call σ → Session → σ → Except PayoutError Unit × Session × σ
  | ask signer context, s, w => s.ask signer context w
  | verify, s, w => (s.verify.1, s.verify.2, w)

/-- The call with a count of how often its signer is asked. -/
def counting : Call σ → Call (σ × Nat)
  | ask signer context => ask signer.counting context
  | verify => verify

end Call

/-- A session, and the state of the signers, behind some calls. -/
def after : List (Call σ) → Session → σ → Session × σ
  | [], s, w => (s, w)
  | c :: calls, s, w => after calls (c.run s w).2.1 (c.run s w).2.2

theorem after_append (calls more : List (Call σ)) (s : Session) (w : σ) :
    after (calls ++ more) s w = after more (after calls s w).1 (after calls s w).2 := by
  induction calls generalizing s w with
  | nil => rfl
  | cons c calls ih => exact ih _ _

/-! ### One call -/

/-- **A call that is not due changes nothing**, and says what it waits for. -/
theorem run_of_not_due {c : Call σ} {s : Session} (early : c.isDue s.stage = false) (w : σ) :
    c.run s w = (.error (.outOfTurn c.expected s.stage.name), s, w) := by
  obtain ⟨d, stage⟩ := s
  cases c with
  | ask signer context =>
    cases stage with
    | unsigned => cases early
    | signed | verified | failed => rfl
  | verify =>
    cases stage with
    | signed grant => cases early
    | unsigned | verified | failed => rfl

/-- The text of a verified stage passes the check. -/
def Passed (d : Draft) : Stage → Prop
  | .verified grant => checkRsv d grant.rsv = .ok ()
  | .unsigned | .signed _ | .failed => True

/-- What a session has come to: it is over its draft, and verified only with a text that passed
the check. -/
structure Sound (d : Draft) (s : Session) : Prop where
  draft : s.draft = d
  passed : Passed d s.stage

theorem Sound.checked {d : Draft} {s : Session} (h : Sound d s) {grant : Grant}
    (verified : s.stage = .verified grant) : checkRsv d grant.rsv = .ok () := by
  have passed := h.passed
  rw [verified] at passed
  exact passed

theorem Sound.run {d : Draft} {s : Session} (h : Sound d s) (c : Call σ) (w : σ) :
    Sound d (c.run s w).2.1 := by
  by_cases due : c.isDue s.stage = true
  · obtain ⟨_, stage⟩ := s
    obtain rfl := h.draft
    cases c with
    | ask signer context =>
      cases stage with
      | unsigned =>
        simp only [Call.run, ask]
        split
        · exact ⟨rfl, trivial⟩
        · exact ⟨rfl, trivial⟩
      | signed | verified | failed => cases due
    | verify =>
      cases stage with
      | signed grant =>
        simp only [Call.run, verify]
        split
        · next checked => exact ⟨rfl, checked⟩
        · exact ⟨rfl, trivial⟩
      | unsigned | verified | failed => cases due
  · rw [run_of_not_due (Bool.eq_false_iff.mpr due)]
    exact h

/-- At the end nothing is due any more. -/
theorem run_of_final {c : Call σ} {s : Session} (final : s.stage.isFinal = true) (w : σ) :
    (c.run s w).2 = (s, w) := by
  have early : c.isDue s.stage = false := by
    revert final
    cases c <;> cases s.stage <;> simp [Call.isDue, Stage.isFinal]
  rw [run_of_not_due early]

/-! ### Any calls -/

theorem Sound.after {d : Draft} {s : Session} (h : Sound d s) (calls : List (Call σ)) (w : σ) :
    Sound d (after calls s w).1 := by
  induction calls generalizing s w with
  | nil => exact h
  | cons c calls ih => exact ih (h.run c w) _

theorem after_of_final {s : Session} (final : s.stage.isFinal = true) (calls : List (Call σ))
    (w : σ) : Session.after calls s w = (s, w) := by
  induction calls with
  | nil => rfl
  | cons c calls ih =>
    have same := run_of_final (c := c) final w
    rw [Session.after, same]
    exact ih

/-! ### Counting -/

/-- How often a call asks its signer. -/
def Call.asks : Call σ → Stage → Nat
  | ask .., .unsigned => 1
  | _, _ => 0

/-- Counting changes nothing but the count. -/
theorem run_counting (c : Call σ) (s : Session) (w : σ) (count : Nat) :
    c.counting.run s (w, count) =
      ((c.run s w).1, (c.run s w).2.1, (c.run s w).2.2, count + c.asks s.stage) := by
  obtain ⟨d, stage⟩ := s
  cases c with
  | ask signer context =>
    cases stage with
    | unsigned =>
      simp only [Call.counting, Call.run, ask, Signer.counting, task]
      cases signer.sign _ w <;> rfl
    | signed | verified | failed => rfl
  | verify => rfl

/-- No call makes a session unsigned, and none that asks its signer leaves it so. -/
theorem asks_le_of_run (c : Call σ) (s : Session) (w : σ) :
    c.asks s.stage + (c.run s w).2.1.stage.chances ≤ s.stage.chances := by
  obtain ⟨d, stage⟩ := s
  cases c with
  | ask signer context =>
    cases stage with
    | unsigned =>
      cases asked : signer.sign (task { draft := d } context) w <;>
        simp [Call.run, ask, asked, Call.asks, Stage.chances]
    | signed | verified | failed => exact Nat.le_refl 0
  | verify =>
    cases stage with
    | signed grant =>
      cases checked : checkRsv d grant.rsv <;>
        simp [Call.run, verify, checked, Call.asks, Stage.chances]
    | unsigned => exact Nat.le_refl 1
    | verified | failed => exact Nat.le_refl 0

/-- **Signers are asked at most once**, and only by a session that is unsigned. -/
theorem after_counting (calls : List (Call σ)) (s : Session) (w : σ) (count : Nat) :
    ∃ asked ≤ s.stage.chances,
      after (calls.map Call.counting) s (w, count) =
        ((after calls s w).1, (after calls s w).2, count + asked) := by
  induction calls generalizing s w count with
  | nil => exact ⟨0, Nat.zero_le _, rfl⟩
  | cons c calls ih =>
    have first := asks_le_of_run c s w
    obtain ⟨asked, few, counted⟩ := ih (c.run s w).2.1 (c.run s w).2.2 (count + c.asks s.stage)
    refine ⟨c.asks s.stage + asked, Nat.le_trans (Nat.add_le_add_left few _) first, ?_⟩
    rw [List.map_cons, after, run_counting, after, ← Nat.add_assoc]
    exact counted

/-! ### Discipline -/

/-- What holds behind calls on a new session over a draft. -/
structure Disciplined (d : Draft) (calls : List (Call σ)) (w : σ) (s : Session) (v : σ) :
    Prop where
  /-- Signers are asked at most once: counting shows it and changes nothing else. -/
  once : ∃ count ≤ 1, after (calls.map Call.counting) { draft := d } (w, 0) = (s, v, count)
  /-- A call that is not due changes nothing. -/
  inTurn : ∀ c : Call σ, c.isDue s.stage = false →
    c.run s v = (.error (.outOfTurn c.expected s.stage.name), s, v)
  /-- A session that failed or is verified stays as it is. -/
  final : s.stage.isFinal = true → ∀ more, after (calls ++ more) { draft := d } w = (s, v)
  /-- A session is verified only with a text that is read as an acceptable signature. -/
  checked : ∀ grant, s.stage = .verified grant → ∃ signature,
    Rsv.toSignature grant.rsv (SignatureScheme.ofKey d.publicKey) = .ok signature ∧
      checkSignature d.publicKey d.digest d.message signature = .ok ()
  /-- A verified session can be completed, with the draft sealed by its text. -/
  completes : ∀ grant, s.stage = .verified grant → ∃ payment,
    d.seal d.publicKey grant.rsv = .ok payment ∧ s.complete = .ok (payment, grant)
  /-- No other session can. -/
  waits : (∀ grant, s.stage ≠ .verified grant) →
    s.complete = .error (.outOfTurn "verified" s.stage.name)

/-- **A session over the draft of an order is disciplined**, whatever it is called for and whoever
signs. -/
theorem disciplined {o : PaymentOrder} {d : Draft} (made : Draft.ofOrder o = .ok d)
    (calls : List (Call σ)) (w : σ) :
    Disciplined d calls w (after calls { draft := d } w).1 (after calls { draft := d } w).2 := by
  have sound : Sound d (after calls { draft := d } w).1 :=
    Sound.after (s := { draft := d }) ⟨rfl, trivial⟩ calls w
  have once := after_counting calls { draft := d } w 0
  have split := after_append calls (s := { draft := d }) (w := w)
  generalize after calls { draft := d } w = reached at sound once split
  obtain ⟨s, v⟩ := reached
  refine ⟨?once, ?inTurn, ?final, ?checked, ?completes, ?waits⟩
  case once =>
    obtain ⟨asked, few, counted⟩ := once
    exact ⟨asked, few, by rw [counted, Nat.zero_add]⟩
  case inTurn => exact fun c early => run_of_not_due early v
  case final =>
    intro final more
    rw [split more]
    exact after_of_final final more v
  case checked =>
    intro grant verified
    exact checkRsv_eq_ok.mp (sound.checked verified)
  case completes =>
    intro grant verified
    obtain ⟨signature, read, -⟩ := checkRsv_eq_ok.mp (sound.checked verified)
    obtain ⟨payment, sealed⟩ := Draft.exists_seal made read
    refine ⟨payment, sealed, ?_⟩
    rw [complete, verified, sound.draft]
    show (d.seal d.publicKey grant.rsv).map (·, grant) = _
    rw [sealed]
    rfl
  case waits =>
    intro unverified
    unfold complete
    split
    · next grant verified => exact absurd verified (unverified grant)
    · rfl

end

/-! ### A rehearsal -/

open Bridge (rehearsalOrder signingWorld)

/-- Calls in and out of turn, with the network of the rehearsal. -/
def rehearsedCalls :
    List (Call (World InMemory.LedgerState SequenceBook InMemory.OracleState)) :=
  [.verify, .ask Signer.network "", .ask Signer.network "again", .verify, .verify]

theorem rehearsal_disciplined :
    ∃ d grant payment, Draft.ofOrder rehearsalOrder = .ok d ∧
      (after rehearsedCalls { draft := d } signingWorld).1.stage = .verified grant ∧
      (after rehearsedCalls { draft := d } signingWorld).1.complete = .ok (payment, grant) ∧
      ∃ count ≤ 1, (after (rehearsedCalls.map Call.counting) { draft := d }
        (signingWorld, 0)).2.2 = count := by
  obtain ⟨⟨sealed, granted⟩, h⟩ : ∃ completed, (do
      let d ← Draft.ofOrder rehearsalOrder
      (after rehearsedCalls { draft := d } signingWorld).1.complete) = .ok completed :=
    exists_eq_ok (by decide +kernel)
  obtain ⟨d, made, completed⟩ := bind_eq_ok.mp h
  have orderly := disciplined made rehearsedCalls signingWorld
  obtain ⟨count, few, counted⟩ := orderly.once
  cases stage : (after rehearsedCalls { draft := d } signingWorld).1.stage with
  | verified grant =>
    obtain ⟨payment, -, completes⟩ := orderly.completes grant stage
    exact ⟨d, grant, payment, made, stage, completes, count, few, by rw [counted]⟩
  | unsigned | signed | failed =>
    have waits := orderly.waits fun grant verified => by rw [stage] at verified; cases verified
    cases completed.symm.trans waits

end Session

end SwapPayout
