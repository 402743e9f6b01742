import SwapPayout.AccountId
import SwapPayout.Proofs.Base58

/-!
# Classic addresses

An account has one classic address, and no other text is read as that account:
`AccountId.ofAddress_eq_ok`. A text in another case, with blanks or with letters more or fewer is the
address of another account or of none (`AccountId.address_canonical`).

Which account a text is the address of is a question of its bytes and not of their checksum alone:
the version and the twenty bytes are read off, and the four bytes behind them are then determined.

The version is a zero byte, so an address starts with the letter for zero, and its twenty-five bytes
take as many letters at least.
-/

namespace SwapPayout.AccountId

theorem length_checksum (content : Bytes) : (checksum content).length = 4 := by
  simp [checksum]

/-- The bytes of an address are determined by the account. -/
theorem ofAddressBytes_eq_ok {bytes : Bytes} {id : AccountId} :
    ofAddressBytes bytes = .ok id ↔
      bytes = addressVersion :: id.bytes ++ checksum (addressVersion :: id.bytes) := by
  unfold ofAddressBytes
  constructor
  · intro h
    split at h
    · next full =>
      obtain ⟨version, h⟩ := ite_error_eq_ok.mp h
      obtain ⟨checked, h⟩ := ite_error_eq_ok.mp h
      obtain rfl := Except.ok.inj h
      obtain ⟨_, rest, rfl⟩ := List.exists_cons_of_length_eq_add_one full
      obtain rfl := Option.some.inj (not_not.mp version)
      have sum : checksum (addressVersion :: rest.take 20) = rest.drop 20 := not_not.mp checked
      show addressVersion :: rest =
        addressVersion :: rest.take 20 ++ checksum (addressVersion :: rest.take 20)
      rw [sum, List.cons_append, List.take_append_drop]
    · cases h
  · rintro rfl
    have length : id.bytes.length = 20 := id.length_bytes
    have full : (addressVersion :: id.bytes ++
        checksum (addressVersion :: id.bytes)).length = 25 := by
      simp [length, length_checksum]
    rw [dif_pos full]
    have content : (addressVersion :: id.bytes).length = 21 := congrArg (· + 1) length
    refine ite_error_eq_ok.mpr ⟨not_not.mpr rfl, ite_error_eq_ok.mpr ⟨not_not.mpr ?_, ?_⟩⟩
    · rw [List.take_left' content, List.drop_left' content]
    · apply congrArg Except.ok
      ext1
      exact List.take_left' length

/-- **An account is read from its own address, and from no other text.** -/
theorem ofAddress_eq_ok {text : String} {id : AccountId} :
    ofAddress text = .ok id ↔ text = id.address := by
  have read : readAddress text = .ok id ↔ text = id.address := by
    unfold readAddress
    cases decoded : Base58.decode text with
    | error e =>
      refine iff_of_false nofun ?_
      rintro rfl
      cases decoded.symm.trans (Base58.decode_eq_ok.mpr rfl)
    | ok bytes =>
      obtain rfl := Base58.decode_eq_ok.mp decoded
      refine ofAddressBytes_eq_ok.trans ⟨?_, ?_⟩
      · rintro rfl
        rfl
      · intro same
        exact Except.ok.inj (decoded.symm.trans (Base58.decode_eq_ok.mpr same))
  exact mapError_eq_ok.trans read

theorem ofAddress_address (id : AccountId) : ofAddress id.address = .ok id :=
  ofAddress_eq_ok.mpr rfl

/-- Accounts with one address are one. -/
theorem address_inj {a b : AccountId} : a.address = b.address ↔ a = b := by
  constructor
  · intro same
    have read := ofAddress_eq_ok.mpr same
    rw [ofAddress_address] at read
    exact Except.ok.inj read
  · rintro rfl
    rfl

theorem isAddress_iff {text : String} : isAddress text = true ↔ ∃ id, ofAddress text = .ok id := by
  unfold isAddress
  cases ofAddress text with
  | error cause => exact iff_of_false nofun nofun
  | ok id => exact iff_of_true rfl ⟨id, rfl⟩

/-- **Addresses are canonical**: the one text that is read as an account is its address, zero bytes
in front included, and a text that is accepted is the address of one account. -/
theorem address_canonical (text : String) :
    (∀ id : AccountId, ofAddress text = .ok id ↔ text = id.address) ∧
      (isAddress text = true ↔ ∃! id : AccountId, text = id.address) := by
  refine ⟨fun id => ofAddress_eq_ok, isAddress_iff.trans ⟨?_, ?_⟩⟩
  · rintro ⟨id, read⟩
    obtain rfl := ofAddress_eq_ok.mp read
    exact ⟨id, rfl, fun other same => (address_inj.mp same).symm⟩
  · rintro ⟨id, written, -⟩
    exact ⟨id, ofAddress_eq_ok.mpr written⟩

example : address ⟨List.replicate 20 0, rfl⟩ = "rrrrrrrrrrrrrrrrrrrrrhoLvTp" := by decide +kernel

/-! ## The letters of an address -/

/-- The letter for the version comes first. -/
theorem head?_address (id : AccountId) : id.address.toList.head? = some 'r' :=
  Base58.head?_encode_zero _

theorem le_length_address (id : AccountId) : 25 ≤ id.address.toList.length := by
  have letters := Base58.length_le_length_encode
    (addressVersion :: id.bytes ++ checksum (addressVersion :: id.bytes))
  rw [List.length_append, List.length_cons, id.length_bytes, length_checksum] at letters
  exact letters

theorem mem_alphabet_of_mem_address {id : AccountId} {c : Char} (h : c ∈ id.address.toList) :
    c ∈ Base58.alphabet :=
  Base58.mem_alphabet_of_mem_encode h

end SwapPayout.AccountId
