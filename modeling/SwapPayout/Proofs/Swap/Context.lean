import SwapPayout.Proofs.Json.Reading
import SwapPayout.Swap.Request

/-!
# Contexts

A context is read by the operators of the signing network, who find with it the swap that a
signature pays out. The texts in it come from outside, from whoever asked for the swap. Were there
two swaps with one context, an operator could be shown a swap that is not the one to be paid.

The context of a swap is a compact form of JSON, which is read back whatever the texts are
(`SwapRequest.read?_context`). So the context tells all that is put into it: the swap's name, its
chains, its token, and whether a sequence number and a fee are pinned, and which
(`SwapRequest.context_identifies`).
-/

namespace SwapPayout

open Json (Value)

namespace Json.Value

/-! ## Values that are written -/

theorem Printable.ofString (s : String) : (Value.ofString s).Printable := .string s

theorem Printable.ofInt (n : Int) : (Value.ofInt n).Printable := .number (Token.isLiteral_toString n)

theorem Printable.ofMembers {members : List (String × Value)} (each : ∀ m ∈ members, m.2.Printable) :
    (Value.ofMembers members).Printable := by
  refine .object ?_ ?_
  all_goals
    intro m member
    obtain ⟨⟨key, v⟩, given, rfl⟩ := List.mem_map.mp member
  · rfl
  · exact each _ given

theorem ofString_inj {s t : String} : ofString s = ofString t ↔ s = t := by
  simp only [ofString, string.injEq, Option.some.injEq]

theorem ofInt_natCast_inj {m n : Nat} : ofInt m = ofInt n ↔ m = n := by
  refine ⟨fun same => ?_, fun same => by rw [same]⟩
  have digits : Nat.toDigits 10 m = Nat.toDigits 10 n := by
    rw [← Nat.toList_repr, ← Nat.toList_repr]
    exact congrArg String.toList (number.inj same)
  have number := Nat.ofDigitChars_toDigits (b := 10) (n := m) (by decide) (by decide)
  rw [digits, Nat.ofDigitChars_toDigits (by decide) (by decide)] at number
  exact number.symm

theorem ofMembers_inj {members members' : List (String × Value)} :
    ofMembers members = ofMembers members' ↔ members = members' := by
  rw [ofMembers, ofMembers, object.injEq]
  refine (List.map_injective_iff.mpr ?_).eq_iff
  rintro ⟨key, v⟩ ⟨key', v'⟩ same
  simpa using same

end Json.Value

namespace SwapRequest

/-! ## What a context says -/

/-- The members of a context that say what is pinned. -/
def pinnedMembers : Option Pinned → List (String × Value)
  | none => []
  | some p => [("sequence", .ofInt p.sequence.toNat), ("fee", .ofString p.fee)]

theorem contextMembers_eq (r : SwapRequest) :
    r.contextMembers =
      [("swap_id", .ofString r.id), ("from_chain_id", .ofString r.fromChain),
        ("to_chain_id", .ofString r.toChain), ("token_id", .ofString r.tokenId)]
        ++ pinnedMembers r.pinned := by
  rw [contextMembers]
  cases r.pinned <;> rfl

theorem pinnedMembers_inj {a b : Option Pinned} (same : pinnedMembers a = pinnedMembers b) :
    a = b := by
  rcases a with _ | ⟨sequence, fee⟩ <;> rcases b with _ | ⟨sequence', fee'⟩
  · rfl
  · cases same
  · cases same
  · simp only [pinnedMembers, List.cons.injEq, Prod.mk.injEq, Value.ofInt_natCast_inj,
      Value.ofString_inj, UInt64.toNat_inj, true_and, and_true] at same
    obtain ⟨rfl, rfl⟩ := same
    rfl

theorem printable_contextMembers (r : SwapRequest) : ∀ m ∈ r.contextMembers, m.2.Printable := by
  rw [contextMembers_eq]
  refine List.forall_mem_append.mpr ⟨?_, ?_⟩
  · simp [Value.Printable.ofString]
  · cases r.pinned with
    | none => nofun
    | some p => simp [pinnedMembers, Value.Printable.ofString, Value.Printable.ofInt]

/-- **A context is read back**, whatever the texts of the swap are. -/
theorem read?_context (r : SwapRequest) :
    Value.read? r.context = some (.ofMembers r.contextMembers) :=
  (Value.Printable.ofMembers r.printable_contextMembers).read?_render

/-- **A context identifies the swap**: swaps with one context have the same name, chains and token,
and the same sequence number and fee, if any are pinned. -/
theorem context_identifies (r r' : SwapRequest) :
    r.context = r'.context ↔
      r.id = r'.id ∧ r.fromChain = r'.fromChain ∧ r.toChain = r'.toChain ∧
        r.tokenId = r'.tokenId ∧ r.pinned = r'.pinned := by
  constructor
  · intro same
    have read := r.read?_context
    rw [same, r'.read?_context] at read
    have members := Value.ofMembers_inj.mp (Option.some.inj read).symm
    rw [contextMembers_eq, contextMembers_eq] at members
    obtain ⟨texts, pinned⟩ := List.append_inj members rfl
    simp only [List.cons.injEq, Prod.mk.injEq, Value.ofString_inj, true_and, and_true] at texts
    obtain ⟨id, fromChain, toChain, tokenId⟩ := texts
    exact ⟨id, fromChain, toChain, tokenId, pinnedMembers_inj pinned⟩
  · rintro ⟨id, fromChain, toChain, tokenId, pinned⟩
    rw [context, context, contextMembers_eq, contextMembers_eq, id, fromChain, toChain, tokenId,
      pinned]

end SwapRequest

end SwapPayout
