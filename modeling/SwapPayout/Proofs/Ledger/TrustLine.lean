import Mathlib.Logic.Relation
import SwapPayout.Ledger.Reply
import SwapPayout.Proofs.Currency
import SwapPayout.Proofs.Outcome

/-!
# Finding a trust line

A node lists all trust lines of an account, and one of them is looked for: the first one of an
issuer's currency. Whether a line is of the currency is a question of the twenty bytes that its code
stands for, in whatever notation, and a line whose code stands for nothing is of no currency; the
issuer is compared as text. Only the line that is found has its balance read.

So the answer depends on the balances of the currency's own lines and on nothing else
(`LinesReply.holding_eq`). Lines beside them may come, go and change places, be they ever so
malformed, and every line may name its currency anew: none of these changes reaches the balances
(`Beside.balances_eq`), so no sequence of them reaches the answer. `LinesReply.lookup` puts this
together.
-/

namespace SwapPayout

variable {currency : Currency} {issuer code : String} {line : TrustLine}
  {lines lines' : List TrustLine} {reply : LinesReply}

/-! ## Lines of a currency -/

namespace TrustLine

/-- A line is of an issuer's currency: its code stands for the currency's bytes, and the issuer is
on its other side. -/
structure IsOf (currency : Currency) (issuer : String) (line : TrustLine) : Prop where
  code : ∃ named, Currency.ofCode line.currency = .ok named ∧ named.bytes = currency.bytes
  issuer : line.counterparty = issuer

theorem holds_iff : line.holds currency issuer = true ↔ line.IsOf currency issuer := by
  have parts : line.IsOf currency issuer ↔
      (∃ named, Currency.ofCode line.currency = .ok named ∧ named.bytes = currency.bytes) ∧
        line.counterparty = issuer :=
    ⟨fun h => ⟨h.code, h.issuer⟩, fun h => ⟨h.1, h.2⟩⟩
  rw [parts, holds]
  cases Currency.ofCode line.currency with
  | error e => simp
  | ok named => simp [Currency.bytes_inj]

/-- A line is the first one of an issuer's currency. -/
def IsFirst (currency : Currency) (issuer : String) (line : TrustLine) (lines : List TrustLine) :
    Prop :=
  ∃ before after, lines = before ++ line :: after ∧ line.IsOf currency issuer ∧
    ∀ other ∈ before, ¬ other.IsOf currency issuer

theorem find?_holds_eq_some :
    lines.find? (·.holds currency issuer) = some line ↔ line.IsFirst currency issuer lines := by
  simp only [List.find?_eq_some_iff_append, Bool.not_eq_true', ← Bool.not_eq_true, holds_iff,
    IsFirst]
  exact ⟨fun ⟨own, before, after, cut, others⟩ => ⟨before, after, cut, own, others⟩,
    fun ⟨before, after, cut, own, others⟩ => ⟨own, before, after, cut, others⟩⟩

/-- The balances of the lines of an issuer's currency, in their order. -/
def balancesOf (currency : Currency) (issuer : String) (lines : List TrustLine) : List String :=
  (lines.filter (·.holds currency issuer)).map (·.balance)

/-- A change that is beside the lines of an issuer's currency: a line of another one comes, goes or
changes places, or a line names its currency in another notation. -/
inductive Beside (currency : Currency) (issuer : String) :
    List TrustLine → List TrustLine → Prop where
  | inserted {before after : List TrustLine} {line : TrustLine}
      (other : ¬ line.IsOf currency issuer) :
      Beside currency issuer (before ++ after) (before ++ line :: after)
  | removed {before after : List TrustLine} {line : TrustLine}
      (other : ¬ line.IsOf currency issuer) :
      Beside currency issuer (before ++ line :: after) (before ++ after)
  | exchanged {before after : List TrustLine} {line next : TrustLine}
      (other : ¬ line.IsOf currency issuer ∨ ¬ next.IsOf currency issuer) :
      Beside currency issuer (before ++ line :: next :: after) (before ++ next :: line :: after)
  | respelled {before after : List TrustLine} {line : TrustLine} {code : String} {named : Currency}
      (old : Currency.ofCode line.currency = .ok named) (new : Currency.ofCode code = .ok named) :
      Beside currency issuer (before ++ line :: after)
        (before ++ { line with currency := code } :: after)

/-- A line of another currency has no say in the balances. -/
theorem filter_cons_of_other (other : ¬ line.IsOf currency issuer) (after : List TrustLine) :
    (line :: after).filter (·.holds currency issuer) = after.filter (·.holds currency issuer) :=
  List.filter_cons_of_neg (mt holds_iff.mp other)

/-- **A change beside the lines of a currency leaves their balances alone**, -/
theorem Beside.balances_eq (h : Beside currency issuer lines lines') :
    balancesOf currency issuer lines' = balancesOf currency issuer lines := by
  cases h with
  | inserted other =>
    simp only [balancesOf, List.filter_append, filter_cons_of_other other]
  | removed other =>
    simp only [balancesOf, List.filter_append, filter_cons_of_other other]
  | @exchanged before after line next other =>
    have swapped : (next :: line :: after).filter (·.holds currency issuer) =
        (line :: next :: after).filter (·.holds currency issuer) := by
      rcases other with other | other
      · rw [filter_cons_of_other other, List.filter_cons, List.filter_cons (x := next),
          filter_cons_of_other other]
      · rw [filter_cons_of_other other, List.filter_cons, List.filter_cons (x := line),
          filter_cons_of_other other]
    simp only [balancesOf, List.filter_append, swapped]
  | @respelled before after line code named old new =>
    have same : ({ line with currency := code } : TrustLine).holds currency issuer =
        line.holds currency issuer := by
      simp only [holds, old, new]
    simp only [balancesOf, List.filter_append, List.filter_cons, same]
    split <;> simp

/-- and so does any number of such changes. -/
theorem balances_eq_of_beside (h : Relation.ReflTransGen (Beside currency issuer) lines lines') :
    balancesOf currency issuer lines' = balancesOf currency issuer lines := by
  induction h with
  | refl => rfl
  | tail _ change ih => exact change.balances_eq.trans ih

end TrustLine

/-! ## The answer -/

open TrustLine (Beside balancesOf)

namespace LinesReply

/-- What is read of a balance. -/
def holdingOf (balance : String) : Except PayoutError (Option Quantity) :=
  ((Quantity.parse balance).mapError PayoutError.ofFormat).map some

theorem holdingOf_eq_error {balance : String} {e : PayoutError} :
    holdingOf balance = .error e ↔
      ∃ cause, Quantity.parse balance = .error cause ∧ e = PayoutError.ofFormat cause := by
  unfold holdingOf
  cases Quantity.parse balance <;> simp [Except.map, Except.mapError, eq_comm]

theorem holding_of_ofCode (intact : reply.error = none) (named : Currency.ofCode code = .ok currency) :
    reply.holding code issuer =
      (reply.lines.find? (·.holds currency issuer)).elim (.ok none) (holdingOf ·.balance) := by
  unfold holding
  simp only [intact, named, Except.mapError, bind, Except.bind]
  cases reply.lines.find? (·.holds currency issuer) <;> rfl

/-- **The answer depends on the balances of the currency's own lines**, of which it is the first
one's. -/
theorem holding_eq (intact : reply.error = none) (named : Currency.ofCode code = .ok currency) :
    reply.holding code issuer =
      (balancesOf currency issuer reply.lines).head?.elim (.ok none) holdingOf := by
  rw [holding_of_ofCode intact named, balancesOf, List.head?_map, List.head?_filter]
  cases reply.lines.find? (·.holds currency issuer) <;> rfl

/-- What is answered to the question for an issuer's currency. -/
structure Lookup (reply : LinesReply) (currency : Currency) (issuer code : String) : Prop where
  /-- The balance of the first line of the currency is read, -/
  first : ∀ line : TrustLine, line.IsFirst currency issuer reply.lines →
    reply.holding code issuer =
      ((Quantity.parse line.balance).mapError PayoutError.ofFormat).map some
  /-- and without such a line there is none. -/
  missing : (∀ line ∈ reply.lines, ¬ line.IsOf currency issuer) →
    reply.holding code issuer = .ok none
  /-- It fails only on the balance of that one line. -/
  malformed : ∀ e, reply.holding code issuer = .error e → ∃ line : TrustLine,
    line.IsFirst currency issuer reply.lines ∧
      ∃ cause, Quantity.parse line.balance = .error cause ∧ e = PayoutError.ofFormat cause
  /-- Every other code of the currency gives the same answer, also after any changes beside the
  lines of the currency. -/
  unmoved : ∀ (code' : String) (lines : List TrustLine), Currency.ofCode code' = .ok currency →
    Relation.ReflTransGen (Beside currency issuer) reply.lines lines →
    ({ reply with lines } : LinesReply).holding code' issuer = reply.holding code issuer
  /-- The digits of the currency, in either case, are such a code. -/
  digits : ∀ digits : String, digits.toUpper = Hex.upper currency.bytes →
    reply.holding digits issuer = reply.holding code issuer

/-- **The first line of an issuer's currency is found**, by whatever code the currency is asked for
and named in the lines, and whatever else the reply holds. -/
theorem lookup (intact : reply.error = none) (named : Currency.ofCode code = .ok currency) :
    Lookup reply currency issuer code := by
  have answer (code' : String) (lines : List TrustLine)
      (named' : Currency.ofCode code' = .ok currency)
      (changed : Relation.ReflTransGen (Beside currency issuer) reply.lines lines) :
      ({ reply with lines } : LinesReply).holding code' issuer = reply.holding code issuer := by
    have after : ({ reply with lines } : LinesReply).holding code' issuer = _ :=
      holding_eq intact named'
    rw [after, holding_eq intact named, TrustLine.balances_eq_of_beside changed]
  have found : reply.holding code issuer = _ := holding_of_ofCode intact named
  refine ⟨?first, ?missing, ?malformed, answer, ?digits⟩
  case first =>
    intro line own
    rw [found, TrustLine.find?_holds_eq_some.mpr own]
    rfl
  case missing =>
    intro others
    have nothing : reply.lines.find? (·.holds currency issuer) = none :=
      List.find?_eq_none.mpr fun line member => mt TrustLine.holds_iff.mp (others line member)
    rw [found, nothing]
    rfl
  case malformed =>
    intro e failed
    rw [found] at failed
    cases searched : reply.lines.find? (·.holds currency issuer) with
    | none =>
      rw [searched] at failed
      cases failed
    | some line =>
      rw [searched] at failed
      exact ⟨line, TrustLine.find?_holds_eq_some.mp searched, holdingOf_eq_error.mp failed⟩
  case digits =>
    intro digits same
    exact answer digits reply.lines
      (Currency.ofCode_eq_ok.mpr (.inr (.inr (Hex.decode_eq_ok.mpr same)))) .refl

/-- The yen, by its code. -/
def yen : Currency := .standard 0x4A 0x50 0x59

/-- The yen in digits, of the case that is not printed. -/
def yenDigits : String := "0000000000000000000000004a50590000000000"

/-- A line of the yen with a balance that can be read, under the given code. -/
def yenLine (code : String) : TrustLine := ⟨"issuer", "-12.5", code⟩

/-- A line whose code stands for nothing. -/
def strangeLine : TrustLine := ⟨"issuer", "7", "no currency"⟩

/-- A line of another issuer's yen. -/
def foreignLine : TrustLine := ⟨"another", "a lot", "JPY"⟩

/-- A second line of the yen, with a balance that cannot be read. -/
def laterLine : TrustLine := ⟨"issuer", "a lot", "JPY"⟩

def mixedReply : LinesReply where
  lines := [strangeLine, foreignLine, yenLine yenDigits, laterLine]
  error := none

/-- The balance is found by code and by digits; also when the line is named anew, and what stood
before it is gone or stands behind it. -/
theorem mixedReply_found :
    mixedReply.error = none ∧ Currency.ofCode "JPY" = .ok yen ∧
      ∃ held, Quantity.parse "-12.5" = .ok held ∧
        mixedReply.holding "JPY" "issuer" = .ok (some held) ∧
        mixedReply.holding (Hex.upper yen.bytes) "issuer" = .ok (some held) ∧
        ({ mixedReply with lines := [yenLine "JPY", foreignLine, laterLine] } : LinesReply).holding
          yenDigits "issuer" = .ok (some held) := by
  have named : Currency.ofCode "JPY" = .ok yen := rfl
  have digits : Currency.ofCode yenDigits = .ok yen :=
    Currency.ofCode_eq_ok.mpr (.inr (.inr (Hex.decode_eq_ok.mpr (by decide +kernel))))
  obtain ⟨held, read⟩ : ∃ held, Quantity.parse "-12.5" = .ok held := exists_eq_ok (by decide +kernel)
  have strange : ¬ strangeLine.IsOf yen "issuer" := mt TrustLine.holds_iff.mpr (by decide +kernel)
  have foreign : ¬ foreignLine.IsOf yen "issuer" := mt TrustLine.holds_iff.mpr (by decide +kernel)
  have own : (yenLine yenDigits).IsFirst yen "issuer" mixedReply.lines :=
    ⟨[strangeLine, foreignLine], [laterLine], rfl, ⟨⟨yen, digits, rfl⟩, rfl⟩,
      by simp [strange, foreign]⟩
  have looked : Lookup mixedReply yen "issuer" "JPY" := lookup rfl named
  have answer : mixedReply.holding "JPY" "issuer" = .ok (some held) := by
    rw [looked.first _ own, show (yenLine yenDigits).balance = "-12.5" from rfl, read]
    rfl
  have changed : Relation.ReflTransGen (Beside yen "issuer") mixedReply.lines
      [yenLine "JPY", foreignLine, laterLine] :=
    Relation.ReflTransGen.single (@Beside.removed yen "issuer" [] _ _ strange)
      |>.tail (@Beside.exchanged yen "issuer" [] _ _ _ (.inl foreign))
      |>.tail (@Beside.respelled yen "issuer" [] _ (yenLine yenDigits) "JPY" yen digits named)
  refine ⟨rfl, named, held, read, answer, ?_, ?_⟩
  · rw [looked.digits _ (by decide +kernel), answer]
  · exact (looked.unmoved _ _ digits changed).trans answer

end LinesReply

end SwapPayout
