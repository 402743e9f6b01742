import SwapPayout.Proofs.AccountId
import SwapPayout.Proofs.Currency
import SwapPayout.Proofs.PathSet.Reading
import SwapPayout.Proofs.Text.Blank
import SwapPayout.Proofs.Text.Cut

/-!
# Path notation

What a text of paths may look like, and what it denotes: `PathStep.Spells` for a step, between
blanks (`PathStep.Denotes`), with arrows between the steps of a path (`PathSet.PathDenotes`) and
commas between paths (`PathSet.Denotes`). Reading agrees with it in both directions
(`PathSet.parse_eq_ok`): what is written in this notation is read as what it denotes, and nothing
else is read, but a blank text, as no paths.

The notation is unambiguous because codes and addresses are made of characters that have no other
use in it (`PathStep.isPlain`), and because a code is no longer than three characters or starts with
a digit, while an address has the letter `r` in front and at least twenty-five letters.

No text denotes an empty path or a step without a component, so all that is read can be encoded
(`PathSet.exists_encode_of_parse`).
-/

namespace SwapPayout

/-! ## The characters of codes and addresses -/

namespace Currency

/-- In each of its notations a currency is written with the characters of codes. -/
theorem isCodeChar_of_ofCode {code : String} {c : Currency} (read : ofCode code = .ok c) :
    ∀ a ∈ code.toList, isCodeChar a = true := by
  rcases ofCode_eq_ok.mp read with ⟨rfl, -⟩ | ⟨isCode, -⟩ | digits
  · exact List.all_eq_true.mp (by decide)
  · exact isCode.all
  · intro a member
    obtain ⟨all, -, -⟩ := Hex.digits_of_decode digits
    have digit : Hex.isDigit a = true := all a member
    exact Bytes.forall_ascii (p := fun a => Hex.isDigit a = true → isCodeChar a = true)
      (by decide +kernel) (Hex.toNat_lt_of_isDigit digit) digit

end Currency

theorem AccountId.isCodeChar_of_mem_address {id : AccountId} {a : Char}
    (h : a ∈ id.address.toList) : Currency.isCodeChar a = true :=
  List.all_eq_true (p := Currency.isCodeChar).mp (by decide) a (mem_alphabet_of_mem_address h)

namespace PathStep

/-- A character that is no blank and separates nothing. -/
def isPlain (c : Char) : Bool := !Text.isBlank c && c != '=' && c != ',' && c != '/'

theorem isPlain_of_isCodeChar {c : Char} (h : Currency.isCodeChar c = true) : isPlain c = true :=
  Bytes.forall_ascii (p := fun c => Currency.isCodeChar c = true → isPlain c = true)
    (by decide +kernel) (Currency.toNat_lt_of_isCodeChar h) h

/-! ## Steps -/

/-- What a step is written as: an address, a currency code, or a code, a slash and an address. -/
inductive Spells : List Char → PathStep → Prop where
  | account (id : AccountId) : Spells id.address.toList { account := some id }
  | currency {code : String} {c : Currency} (read : Currency.ofCode code = .ok c) :
      Spells code.toList { currency := some c }
  | issued {code : String} {c : Currency} (read : Currency.ofCode code = .ok c)
      (issuer : AccountId) :
      Spells (code.toList ++ '/' :: issuer.address.toList)
        { currency := some c, issuer := some issuer }

/-- A text denotes a step when it spells it between blanks. -/
def Denotes (text : List Char) (s : PathStep) : Prop :=
  ∃ core, Text.Surrounded text core ∧ Spells core s

variable {text core : List Char} {code : String} {c : Currency} {s : PathStep}

theorem isPlain_of_ofCode (read : Currency.ofCode code = .ok c) :
    ∀ a ∈ code.toList, isPlain a = true :=
  fun a member => isPlain_of_isCodeChar (Currency.isCodeChar_of_ofCode read a member)

theorem isPlain_of_mem_address (id : AccountId) : ∀ a ∈ id.address.toList, isPlain a = true :=
  fun _ member => isPlain_of_isCodeChar (AccountId.isCodeChar_of_mem_address member)

theorem ne_slash_of_isPlain {a : Char} (h : isPlain a = true) : a ≠ '/' := by
  rintro rfl
  exact absurd h (by decide)

namespace Spells

theorem ne_empty (h : Spells core s) : s ≠ {} := by
  cases h <;> simp

/-- Nothing but a slash can stand between plain characters. -/
theorem isPlain_or_slash (h : Spells core s) : ∀ a ∈ core, isPlain a = true ∨ a = '/' := by
  cases h with
  | account id => exact fun a member => .inl (isPlain_of_mem_address id a member)
  | currency read => exact fun a member => .inl (isPlain_of_ofCode read a member)
  | issued read issuer =>
    refine List.forall_mem_append.mpr ⟨?_, List.forall_mem_cons.mpr ⟨.inr rfl, ?_⟩⟩
    · exact fun a member => .inl (isPlain_of_ofCode read a member)
    · exact fun a member => .inl (isPlain_of_mem_address issuer a member)

theorem isBlank_eq_false (h : Spells core s) : ∀ a ∈ core, Text.isBlank a = false := by
  intro a member
  rcases h.isPlain_or_slash a member with plain | rfl
  · simp only [isPlain, Bool.and_eq_true, Bool.not_eq_true'] at plain
    exact plain.1.1.1
  · rfl

theorem ne_nil (h : Spells core s) : core ≠ [] := by
  cases h with
  | account id =>
    intro empty
    have letters := id.le_length_address
    rw [empty] at letters
    cases letters
  | currency read =>
    intro empty
    obtain rfl := String.toList_eq_nil_iff.mp empty
    cases read
  | issued read issuer => exact List.append_ne_nil_of_right_ne_nil _ (List.cons_ne_nil _ _)

end Spells

/-! ### An address or a code? -/

theorem looksLikeAddress_address (id : AccountId) : looksLikeAddress id.address = true := by
  have ascii : ∀ a ∈ id.address.toList, a.toNat < 128 :=
    fun a member => Currency.toNat_lt_of_isCodeChar (AccountId.isCodeChar_of_mem_address member)
  have letters := id.le_length_address
  have long : 20 < id.address.utf8ByteSize := by
    rw [Bytes.utf8ByteSize_of_ascii ascii]
    omega
  rw [looksLikeAddress, id.head?_address, decide_eq_true long]
  rfl

/-- A code that is long enough for an address consists of digits, and no digit is an `r`. -/
theorem looksLikeAddress_code (read : Currency.ofCode code = .ok c) :
    looksLikeAddress code = false := by
  rw [looksLikeAddress, Bool.and_eq_false_iff, beq_eq_false_iff_ne, decide_eq_false_iff_not]
  rcases Currency.ofCode_eq_ok.mp read with ⟨rfl, -⟩ | ⟨-, holds⟩ | digits
  · exact .inr (by decide)
  · rw [holds.utf8ByteSize]
    exact .inr (by decide)
  · obtain ⟨all, -, -⟩ := Hex.digits_of_decode digits
    refine .inl fun first => ?_
    exact absurd (all 'r' (List.mem_of_head? first)) (by decide)

/-! ### Reading -/

theorem ofCurrencyAndIssuer_eq_ok {currency issuer : List Char} :
    ofCurrencyAndIssuer currency issuer = .ok s ↔
      ∃ c id, Currency.ofCode (String.ofList currency) = .ok c ∧
        AccountId.ofAddress (String.ofList issuer) = .ok id ∧
          s = { currency := some c, issuer := some id } := by
  unfold ofCurrencyAndIssuer
  constructor
  · intro h
    obtain ⟨c, read, h⟩ := bind_eq_ok.mp h
    obtain ⟨id, known, h⟩ := bind_eq_ok.mp h
    exact ⟨c, id, read, known, (pure_eq_ok.mp h).symm⟩
  · rintro ⟨c, id, read, known, rfl⟩
    exact bind_eq_ok.mpr ⟨c, read, bind_eq_ok.mpr ⟨id, known, rfl⟩⟩

variable {step : String}

/-- What has a slash is cut at its first one. -/
theorem parse_joint {currency issuer : List Char}
    (trimmed : Text.trimChars step.toList = currency ++ '/' :: issuer)
    (plain : ∀ a ∈ currency, a ≠ '/') : parse step = ofCurrencyAndIssuer currency issuer := by
  have front : (currency ++ '/' :: issuer).takeWhile (· != '/') = currency :=
    Text.takeWhile_cut plain
  have behind : (currency ++ '/' :: issuer).drop (currency.length + 1) = issuer := by
    rw [← List.drop_drop, List.drop_left, List.drop_one, List.tail_cons]
  have slash : (currency ++ '/' :: issuer).contains '/' = true :=
    List.contains_iff_mem.mpr (List.mem_append_right _ List.mem_cons_self)
  have filled : ¬ (currency ++ '/' :: issuer).isEmpty = true := by simp
  unfold parse
  simp only [trimmed, if_neg filled, if_pos slash, front, behind]

/-- What has no slash is an address or a code. -/
theorem parse_single (trimmed : Text.trimChars step.toList = core) (filled : core ≠ [])
    (plain : ∀ a ∈ core, a ≠ '/') :
    parse step = if looksLikeAddress (String.ofList core) then
        (AccountId.ofAddress (String.ofList core)).map fun account => { account := some account }
      else (Currency.ofCode (String.ofList core)).map fun currency => { currency := some currency } := by
  have slash : ¬ core.contains '/' = true :=
    fun found => plain '/' (List.contains_iff_mem.mp found) rfl
  have filled : ¬ core.isEmpty = true := mt List.isEmpty_iff.mp filled
  unfold parse
  simp only [trimmed, if_neg filled, if_neg slash]

/-- **What spells a step is read as it.** -/
theorem parse_of_spells (trimmed : Text.trimChars step.toList = core) (h : Spells core s) :
    parse step = .ok s := by
  have filled := h.ne_nil
  cases h with
  | account id =>
    have plain := fun a member => ne_slash_of_isPlain (isPlain_of_mem_address id a member)
    rw [parse_single trimmed filled plain, String.ofList_toList, if_pos (looksLikeAddress_address id),
      AccountId.ofAddress_address]
    rfl
  | currency read =>
    have plain := fun a member => ne_slash_of_isPlain (isPlain_of_ofCode read a member)
    rw [parse_single trimmed filled plain, String.ofList_toList, looksLikeAddress_code read, read]
    rfl
  | issued read issuer =>
    have plain := fun a member => ne_slash_of_isPlain (isPlain_of_ofCode read a member)
    rw [parse_joint trimmed plain]
    refine ofCurrencyAndIssuer_eq_ok.mpr ⟨_, issuer, ?_, ?_, rfl⟩
    · rw [String.ofList_toList, read]
    · rw [String.ofList_toList, AccountId.ofAddress_address]

/-- **What is read as a step spells it.** -/
theorem spells_of_parse (h : parse step = .ok s) : Spells (Text.trimChars step.toList) s := by
  obtain ⟨core, trimmed⟩ : ∃ core, Text.trimChars step.toList = core := ⟨_, rfl⟩
  rw [trimmed]
  rcases Text.exists_cut '/' core with plain | ⟨currency, issuer, rfl, plain⟩
  · by_cases empty : core = []
    · rw [parse, trimmed, empty] at h
      cases h
    · rw [parse_single trimmed empty plain] at h
      split at h
      · obtain ⟨id, read, rfl⟩ := map_eq_ok.mp h
        have written := AccountId.ofAddress_eq_ok.mp read
        rw [← String.toList_ofList (l := core), written]
        exact .account id
      · obtain ⟨c, read, rfl⟩ := map_eq_ok.mp h
        rw [← String.toList_ofList (l := core)]
        exact .currency read
  · rw [parse_joint trimmed plain] at h
    obtain ⟨c, id, read, known, rfl⟩ := ofCurrencyAndIssuer_eq_ok.mp h
    have written := AccountId.ofAddress_eq_ok.mp known
    rw [← String.toList_ofList (l := currency), ← String.toList_ofList (l := issuer), written]
    exact .issued read id

/-- **A text is read as a step when it denotes it.** -/
theorem parse_eq_ok : parse (String.ofList text) = .ok s ↔ Denotes text s := by
  constructor
  · intro h
    have spelled := spells_of_parse h
    rw [String.toList_ofList] at spelled
    exact ⟨_, Text.surrounded_trimChars text, spelled⟩
  · rintro ⟨core, between, spelled⟩
    refine parse_of_spells ?_ spelled
    rw [String.toList_ofList, between.trimChars_eq spelled.isBlank_eq_false]

namespace Denotes

/-- No step has an arrow or a comma. -/
theorem apart (h : Denotes text s) : ∀ a ∈ text, a ≠ '=' ∧ a ≠ ',' := by
  obtain ⟨core, ⟨front, back, before, behind, rfl⟩, spelled⟩ := h
  have blank {a : Char} (h : Text.isBlank a = true) : a ≠ '=' ∧ a ≠ ',' := by
    constructor <;> (rintro rfl; cases h)
  intro a member
  rcases List.mem_append.mp member with member | member
  · rcases List.mem_append.mp member with member | member
    · exact blank (before a member)
    · rcases spelled.isPlain_or_slash a member with plain | rfl
      · simp only [isPlain, Bool.and_eq_true, bne_iff_ne] at plain
        exact ⟨plain.1.1.2, plain.1.2⟩
      · decide
  · exact blank (behind a member)

theorem exists_not_blank (h : Denotes text s) : ∃ a ∈ text, Text.isBlank a = false := by
  obtain ⟨core, ⟨front, back, -, -, rfl⟩, spelled⟩ := h
  obtain ⟨a, rest, rfl⟩ := List.exists_cons_of_ne_nil spelled.ne_nil
  exact ⟨a, by simp, spelled.isBlank_eq_false a List.mem_cons_self⟩

theorem ne_empty (h : Denotes text s) : s ≠ {} := by
  obtain ⟨_, _, spelled⟩ := h
  exact spelled.ne_empty

end Denotes

end PathStep

namespace PathSet

/-! ## Items with a separator between them -/

section

variable {α : Type} {sep : List Char} {mark : Char} {split : List Char → List (List Char)}
  {Shown : List Char → α → Prop} {text : List Char} {items : List α} {pieces : List (List Char)}

/-- A text shows items, at least one, with a separator between them. -/
def Joined (sep : List Char) (Shown : List Char → α → Prop) (text : List Char) (items : List α) :
    Prop :=
  items ≠ [] ∧ ∃ pieces, List.Forall₂ Shown pieces items ∧ text = sep.intercalate pieces

/-- What stands in one of two related lists is related to something. -/
theorem exists_of_forall₂ {β γ : Type} {R : β → γ → Prop} {xs : List β} {ys : List γ}
    (related : List.Forall₂ R xs ys) : ∀ x ∈ xs, ∃ y, R x y :=
  ((List.forall₂_and_left (p := fun x => ∃ y, R x y) xs ys).mp
    (related.imp fun _ y h => ⟨⟨y, h⟩, h⟩)).1

namespace Joined

/-- What is found in every item is found in the text. -/
theorem exists_mem (h : Joined sep Shown text items) {p : Char → Prop}
    (each : ∀ piece item, Shown piece item → ∃ a ∈ piece, p a) : ∃ a ∈ text, p a := by
  obtain ⟨filled, pieces, shown, rfl⟩ := h
  cases shown with
  | nil => exact absurd rfl filled
  | cons first _ =>
    obtain ⟨a, member, holds⟩ := each _ _ first
    rw [intercalate_cons]
    exact ⟨a, List.mem_append_left _ member, holds⟩

/-- What holds in the separator and in every item holds in the text. -/
theorem forall_mem (h : Joined sep Shown text items) {p : Char → Prop} (between : ∀ a ∈ sep, p a)
    (each : ∀ piece item, Shown piece item → ∀ a ∈ piece, p a) : ∀ a ∈ text, p a := by
  obtain ⟨-, pieces, shown, rfl⟩ := h
  cases shown with
  | nil => exact fun a member => nomatch member
  | @cons _ _ others _ first shown =>
    rw [intercalate_cons, List.forall_mem_append]
    refine ⟨each _ _ first, fun a member => ?_⟩
    obtain ⟨_, behind, member⟩ := List.mem_flatten.mp member
    obtain ⟨piece, here, rfl⟩ := List.mem_map.mp behind
    obtain ⟨item, shows⟩ := exists_of_forall₂ shown piece here
    exact (List.mem_append.mp member).elim (between a) (each _ _ shows a)

/-- What holds of everything that is shown holds of the items. -/
theorem forall_items (h : Joined sep Shown text items) {p : α → Prop}
    (each : ∀ piece item, Shown piece item → p item) : ∀ item ∈ items, p item := by
  obtain ⟨-, pieces, shown, -⟩ := h
  intro item member
  obtain ⟨piece, shows⟩ := exists_of_forall₂ shown.flip item member
  exact each piece item shows

end Joined

/-! ### Splitting -/

/-- A function splits texts at a separator: it loses nothing of a text, and it finds the pieces of
which a text was made, when none of them has the character with which the separator starts. -/
structure Splits (split : List Char → List (List Char)) (sep : List Char) (mark : Char) : Prop where
  nonempty : ∀ text, split text ≠ []
  join : ∀ text, sep.intercalate (split text) = text
  cut : ∀ pieces, pieces ≠ [] → (∀ piece ∈ pieces, ∀ a ∈ piece, a ≠ mark) →
    split (sep.intercalate pieces) = pieces

/-- **Items are read off a text piece by piece** when it shows them: when each piece is read as what
it shows, and the items have no character at which the text is split. -/
theorem Splits.mapM_eq_ok_iff (h : Splits split sep mark) {read : List Char → Except FormatError α}
    (each : ∀ piece item, read piece = .ok item ↔ Shown piece item)
    (apart : ∀ piece item, Shown piece item → ∀ a ∈ piece, a ≠ mark) :
    (split text).mapM read = .ok items ↔ Joined sep Shown text items := by
  rw [mapM_eq_ok]
  constructor
  · intro shown
    refine ⟨?_, split text, shown.imp fun piece item => (each piece item).mp, (h.join text).symm⟩
    rintro rfl
    exact h.nonempty text (List.forall₂_nil_right_iff.mp shown)
  · rintro ⟨filled, pieces, shown, rfl⟩
    have some : pieces ≠ [] := by
      rintro rfl
      exact filled (List.forall₂_nil_left_iff.mp shown)
    rw [h.cut pieces some]
    · exact shown.imp fun piece item => (each piece item).mpr
    · intro piece here
      obtain ⟨item, shows⟩ := exists_of_forall₂ shown piece here
      exact apart piece item shows

end

/-- Splitting at commas is splitting as the library splits. -/
theorem splitCommas_eq (piece text : List Char) :
    splitCommas piece text = (text.splitOn ',').modifyHead (piece.reverse ++ ·) := by
  induction text generalizing piece with
  | nil => rw [splitCommas, List.splitOn_nil, List.modifyHead_cons, List.append_nil]
  | cons c rest ih =>
    rw [splitCommas, List.splitOn_cons_eq_if_modifyHead]
    by_cases comma : c = ','
    · rw [if_pos comma, if_pos (beq_iff_eq.mpr comma), ih, List.modifyHead_cons, List.append_nil]
      exact congrArg (piece.reverse :: ·) (congrFun List.modifyHead_id _)
    · rw [if_neg comma, if_neg (mt beq_iff_eq.mp comma), ih, List.modifyHead_modifyHead]
      refine congrArg (fun f => List.modifyHead f _) (funext fun head => ?_)
      simp

theorem splits_commas : Splits (splitCommas []) [','] ',' := by
  have same : splitCommas [] = List.splitOn ',' := by
    funext text
    exact (splitCommas_eq [] text).trans (congrFun List.modifyHead_id _)
  rw [same]
  refine ⟨List.splitOn_ne_nil ',', fun text => List.intercalate_splitOn ',', ?_⟩
  intro pieces filled plain
  exact List.splitOn_intercalate ',' (fun piece here found => plain piece here ',' found rfl) filled

def arrow : List Char := ['=', '>']

/-- An arrow ends a piece. -/
theorem splitArrows_arrow (piece rest : List Char) :
    splitArrows piece (arrow ++ rest) = piece.reverse :: splitArrows [] rest :=
  rfl

/-- What has no arrow is read on. -/
theorem splitArrows_append {front : List Char} (plain : ∀ a ∈ front, a ≠ '=')
    (piece rest : List Char) :
    splitArrows piece (front ++ rest) = splitArrows (front.reverse ++ piece) rest := by
  induction front generalizing piece with
  | nil => rfl
  | cons a front ih =>
    obtain ⟨first, others⟩ := List.forall_mem_cons.mp plain
    rw [List.cons_append, splitArrows, ih others, List.reverse_cons, List.append_assoc]
    · rfl
    · exact fun _ same => absurd same first

theorem splitArrows_ne_nil (piece text : List Char) : splitArrows piece text ≠ [] := by
  fun_induction splitArrows piece text with
  | case1 piece rest ih => exact List.cons_ne_nil _ _
  | case2 piece a rest _ ih => exact ih
  | case3 piece => exact List.cons_ne_nil _ _

theorem intercalate_splitArrows (piece text : List Char) :
    arrow.intercalate (splitArrows piece text) = piece.reverse ++ text := by
  fun_induction splitArrows piece text with
  | case1 piece rest ih =>
    rw [List.intercalate_cons_of_ne_nil (splitArrows_ne_nil [] rest), ih, List.append_assoc]
    rfl
  | case2 piece a rest _ ih => rw [ih, List.reverse_cons, List.append_assoc, List.singleton_append]
  | case3 piece => rw [List.intercalate_singleton, List.append_nil]

theorem splits_arrows : Splits (splitArrows []) arrow '=' := by
  refine ⟨splitArrows_ne_nil [], intercalate_splitArrows [], fun pieces filled plain => ?_⟩
  induction pieces with
  | nil => exact absurd rfl filled
  | cons piece pieces ih =>
    obtain ⟨first, others⟩ := List.forall_mem_cons.mp plain
    cases pieces with
    | nil =>
      have alone := splitArrows_append first [] []
      rw [List.append_nil, List.append_nil, splitArrows, List.reverse_reverse] at alone
      rwa [List.intercalate_singleton]
    | cons next pieces =>
      have here := splitArrows_append first [] (arrow ++ arrow.intercalate (next :: pieces))
      rw [List.append_nil, splitArrows_arrow, List.reverse_reverse,
        ih (List.cons_ne_nil _ _) others] at here
      rwa [List.intercalate_cons_cons, List.append_assoc]

/-! ## Paths and sets of paths -/

/-- A text denotes a path: steps with arrows between them. -/
def PathDenotes : List Char → List PathStep → Prop := Joined arrow PathStep.Denotes

/-- A text denotes a set of paths: paths with commas between them. -/
def Denotes : List Char → PathSet → Prop := Joined [','] PathDenotes

theorem parsePath_eq_ok {text : List Char} {path : List PathStep} :
    parsePath text = .ok path ↔ PathDenotes text path :=
  splits_arrows.mapM_eq_ok_iff (fun _ _ => PathStep.parse_eq_ok)
    fun _ _ denotes a member => (denotes.apart a member).1

theorem PathDenotes.ne_comma {text : List Char} {path : List PathStep} (h : PathDenotes text path) :
    ∀ a ∈ text, a ≠ ',' :=
  h.forall_mem (List.forall_mem_cons.mpr ⟨by decide, List.forall_mem_singleton.mpr (by decide)⟩)
    fun _ _ denotes a member => (denotes.apart a member).2

theorem Denotes.exists_not_blank {text : List Char} {paths : PathSet} (h : Denotes text paths) :
    ∃ a ∈ text, Text.isBlank a = false :=
  h.exists_mem fun _ _ path => path.exists_mem fun _ _ step => step.exists_not_blank

/-- **A text is read as the paths that it denotes**, and a blank text as none. -/
theorem parse_eq_ok {text : String} {paths : PathSet} :
    parse text = .ok paths ↔
      Denotes text.toList paths ∨ paths = [] ∧ ∀ a ∈ text.toList, Text.isBlank a = true := by
  have denotes : (splitCommas [] text.toList).mapM parsePath = .ok paths ↔
      Denotes text.toList paths :=
    splits_commas.mapM_eq_ok_iff (fun _ _ => parsePath_eq_ok) fun _ _ path => path.ne_comma
  have empty : (Text.trimChars text.toList).isEmpty = true ↔
      ∀ a ∈ text.toList, Text.isBlank a = true :=
    List.isEmpty_iff.trans Text.trimChars_eq_nil_iff
  unfold parse
  split
  · next blank =>
    constructor
    · intro h
      exact .inr ⟨(Except.ok.inj h).symm, empty.mp blank⟩
    · rintro (shown | ⟨rfl, -⟩)
      · obtain ⟨a, member, inked⟩ := shown.exists_not_blank
        rw [empty.mp blank a member] at inked
        cases inked
      · rfl
  · next inked =>
    rw [denotes]
    constructor
    · exact .inl
    · rintro (shown | ⟨-, blank⟩)
      · exact shown
      · exact absurd (empty.mpr blank) inked

/-- **What is read can be encoded.** -/
theorem exists_encode_of_parse {text : String} {paths : PathSet} (h : parse text = .ok paths) :
    ∃ bytes, encode paths = .ok bytes := by
  rw [exists_encode_eq_ok]
  rcases parse_eq_ok.mp h with denotes | ⟨rfl, -⟩
  · exact denotes.forall_items fun _ _ path =>
      ⟨path.1, path.forall_items fun _ _ step => step.ne_empty⟩
  · nofun

/-- **Path notation is read as what it denotes**: a text is accepted when it denotes paths or is
blank, and then as these paths or as none; and whatever is accepted can be encoded. -/
theorem accepted_as_denoted (text : String) :
    (∀ paths, parse text = .ok paths ↔
      Denotes text.toList paths ∨ paths = [] ∧ ∀ a ∈ text.toList, Text.isBlank a = true) ∧
    ∀ paths, parse text = .ok paths → ∃ bytes, encode paths = .ok bytes :=
  ⟨fun _ => parse_eq_ok, fun _ => exists_encode_of_parse⟩

/-- The account without a key: its address is all zero letters but for the checksum. -/
def nobody : AccountId := ⟨Bytes.ofNat 20 0, Bytes.length_ofNat 20 0⟩

/-- A path with blanks around an address and a code made of arrow heads, and a path through the
ledger's own asset at an issuer. -/
def winding : String := "\u3000rrrrrrrrrrrrrrrrrrrrrhoLvTp\t=>>>>,\nXRP/rrrrrrrrrrrrrrrrrrrrrhoLvTp"

theorem winding_accepted :
    ∃ bytes, encode [[{ account := some nobody }, { currency := some (.standard 0x3E 0x3E 0x3E) }],
        [{ currency := some .native, issuer := some nobody }]] = .ok bytes ∧
      parse winding = .ok [[{ account := some nobody },
          { currency := some (.standard 0x3E 0x3E 0x3E) }],
        [{ currency := some .native, issuer := some nobody }]] := by
  have address : nobody.address.toList = "rrrrrrrrrrrrrrrrrrrrrhoLvTp".toList := by decide +kernel
  have heads : Currency.ofCode ">>>" = .ok (.standard 0x3E 0x3E 0x3E) := by decide
  have own : Currency.ofCode "XRP" = .ok .native := by decide
  have blank {c : Char} (h : Text.isBlank c = true) : ∀ a ∈ [c], Text.isBlank a = true :=
    List.forall_mem_singleton.mpr h
  have first : PathStep.Denotes "\u3000rrrrrrrrrrrrrrrrrrrrrhoLvTp\t".toList
      { account := some nobody } := by
    refine ⟨_, ⟨['\u3000'], ['\t'], blank rfl, blank rfl, ?_⟩, .account nobody⟩
    rw [address]
    decide +kernel
  have second : PathStep.Denotes ">>>".toList { currency := some (.standard 0x3E 0x3E 0x3E) } :=
    ⟨_, Text.surrounded_trimChars _, .currency heads⟩
  have third : PathStep.Denotes "\nXRP/rrrrrrrrrrrrrrrrrrrrrhoLvTp".toList
      { currency := some .native, issuer := some nobody } := by
    refine ⟨_, ⟨['\n'], [], blank rfl, nofun, ?_⟩, .issued own nobody⟩
    rw [address]
    decide +kernel
  have joined : winding.toList = [','].intercalate
      [arrow.intercalate ["\u3000rrrrrrrrrrrrrrrrrrrrrhoLvTp\t".toList, ">>>".toList],
        arrow.intercalate ["\nXRP/rrrrrrrrrrrrrrrrrrrrrhoLvTp".toList]] := by decide +kernel
  have read := ((accepted_as_denoted winding).1 _).mpr <| .inl ⟨by decide, _,
    .cons ⟨by decide, _, .cons first (.cons second .nil), rfl⟩
      (.cons ⟨by decide, _, .cons third .nil, rfl⟩ .nil), joined⟩
  obtain ⟨bytes, form⟩ := (accepted_as_denoted winding).2 _ read
  exact ⟨bytes, form, read⟩

end PathSet

end SwapPayout
