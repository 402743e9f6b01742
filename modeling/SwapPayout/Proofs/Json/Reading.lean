import SwapPayout.Json.Reader
import SwapPayout.Proofs.Json.Scanning

/-!
# The compact form, read back

Reading keeps a stack of open brackets, and a value is read on top of whatever is open: its tokens
lead to the state in which it has been put into the innermost bracket (`Reader.Reads`). Arrays and
objects differ in what they hold and in what may come next, and are alike in all else
(`Reader.Bracket`): what they hold is read entry by entry, with commas between.

A value is thus read from its tokens, by recursion over the value (`Value.reads_tokens`), and one
that has a compact form is read back from it (`Value.Printable.read?_render`).
-/

namespace SwapPayout.Json

namespace Reader

/-- May a value come next? -/
def Awaiting.takesValue : Awaiting → Bool
  | .value | .firstItem => true
  | _ => false

/-- The tokens are read as the value, whatever is open around it. -/
def Reads (tokens : List Token) (v : Value) : Prop :=
  ∀ frames awaiting, awaiting.takesValue = true →
    tokens.foldlM step ⟨frames, awaiting⟩ = settle v frames

variable {frames : List Frame} {awaiting : Awaiting}

theorem step_eq_begin (h : awaiting.takesValue = true) {t : Token} (other : t ≠ .closeArray) :
    step ⟨frames, awaiting⟩ t = begin frames t := by
  cases awaiting with
  | value => rfl
  | firstItem =>
    cases t with
    | closeArray => exact absurd rfl other
    | _ => rfl
  | _ => cases h

theorem reads_leaf (v : Value) : Reads [.leaf v] v := by
  intro frames awaiting h
  have begun : step ⟨frames, awaiting⟩ (.leaf v) = settle v frames :=
    step_eq_begin h (by rintro ⟨⟩)
  rw [List.foldlM_cons, begun]
  exact bind_pure (settle v frames)

/-! ## Brackets -/

/-- A kind of bracket around entries. -/
structure Bracket (α : Type) where
  frame : List α → Frame
  value : List α → Value
  opening : Token
  closing : Token
  /-- What may come next behind the opening bracket, -/
  first : Awaiting
  /-- and behind a comma. -/
  next : Awaiting
  ne_closeArray : opening ≠ .closeArray
  opens : ∀ frames, begin frames opening = some ⟨frame [] :: frames, first⟩
  goesOn : ∀ read frames,
    step ⟨frame read :: frames, .separator⟩ .comma = some ⟨frame read :: frames, next⟩
  closes : ∀ read frames,
    step ⟨frame read :: frames, .separator⟩ closing = settle (value read.reverse) frames
  closesEmpty : ∀ frames, step ⟨frame [] :: frames, first⟩ closing = settle (value []) frames

namespace Bracket

def array : Bracket Value where
  frame := .array
  value := .array
  opening := .openArray
  closing := .closeArray
  first := .firstItem
  next := .value
  ne_closeArray := by rintro ⟨⟩
  opens _ := rfl
  goesOn _ _ := rfl
  closes _ _ := rfl
  closesEmpty _ := rfl

def object : Bracket (Option String × Value) where
  frame := .object
  value := .object
  opening := .openObject
  closing := .closeObject
  first := .firstKey
  next := .key
  ne_closeArray := by rintro ⟨⟩
  opens _ := rfl
  goesOn _ _ := rfl
  closes _ _ := rfl
  closesEmpty _ := rfl

variable {α : Type} (b : Bracket α)

/-- The tokens put the entry into the bracket, as the first one or behind a comma. -/
def Takes (tokens : List Token) (entry : α) : Prop :=
  ∀ read frames awaiting, awaiting = b.first ∨ awaiting = b.next →
    tokens.foldlM step ⟨b.frame read :: frames, awaiting⟩ =
      some ⟨b.frame (entry :: read) :: frames, .separator⟩

/-- Entries are read one after another. -/
theorem foldlM_entries {tokens : α → List Token} {a : α} {rest : List α}
    (each : ∀ entry ∈ a :: rest, b.Takes (tokens entry) entry) (read : List α)
    (h : awaiting = b.first ∨ awaiting = b.next) :
    ([.comma].intercalate ((a :: rest).map tokens)).foldlM step ⟨b.frame read :: frames, awaiting⟩ =
      some ⟨b.frame ((a :: rest).reverse ++ read) :: frames, .separator⟩ := by
  induction rest generalizing a read awaiting with
  | nil =>
    rw [List.map_singleton, List.intercalate_singleton]
    exact each a List.mem_cons_self read frames awaiting h
  | cons a' rest ih =>
    obtain ⟨first, others⟩ := List.forall_mem_cons.mp each
    have begun := first read frames awaiting h
    have separated := b.goesOn (a :: read) frames
    rw [List.map_cons, List.map_cons, List.intercalate_cons_cons, List.append_assoc,
      List.foldlM_append, begun, List.singleton_append, Option.bind_eq_bind, Option.bind_some,
      List.foldlM_cons, separated, List.reverse_cons, List.append_assoc]
    exact ih others (a :: read) (.inr rfl)

/-- **Entries between brackets are read as the value that holds them.** -/
theorem reads {tokens : α → List Token} {entries : List α}
    (each : ∀ entry ∈ entries, b.Takes (tokens entry) entry) :
    Reads (b.opening :: ([.comma].intercalate (entries.map tokens) ++ [b.closing]))
      (b.value entries) := by
  intro frames awaiting h
  rw [List.foldlM_cons, step_eq_begin h b.ne_closeArray, b.opens, Option.bind_eq_bind,
    Option.bind_some, List.foldlM_append]
  cases entries with
  | nil =>
    rw [List.map_nil, List.intercalate_nil, List.foldlM_nil, pure_bind, List.foldlM_cons,
      b.closesEmpty]
    exact bind_pure (settle (b.value []) frames)
  | cons a rest =>
    rw [b.foldlM_entries each [] (.inl rfl), Option.bind_eq_bind, Option.bind_some,
      List.foldlM_cons, b.closes, List.append_nil, List.reverse_reverse]
    exact bind_pure (settle (b.value (a :: rest)) frames)

/-- A value is an item of an array, -/
theorem takes_item {v : Value} (read : Reads v.tokens v) : array.Takes v.tokens v := by
  rintro others frames _ (rfl | rfl)
  · exact read (.array others :: frames) .firstItem rfl
  · exact read (.array others :: frames) .value rfl

/-- and behind a key and a colon a member of an object. -/
theorem takes_member {m : Option String × Value} (read : Reads m.2.tokens m.2) :
    object.Takes (tokensOfMember m) m := by
  rintro others frames _ (rfl | rfl)
  all_goals exact read (.member m.1 others :: frames) .value rfl

end Bracket

end Reader

/-! ## Values -/

open Reader (Reads Bracket reads_leaf)

theorem Value.reads_array {items : List Value} (each : ∀ v ∈ items, Reads v.tokens v) :
    Reads (array items).tokens (array items) := by
  rw [tokens, itemTokens_eq_map]
  exact Bracket.array.reads fun v member => Bracket.takes_item (each v member)

theorem Value.reads_object {members : List (Option String × Value)}
    (each : ∀ m ∈ members, Reads m.2.tokens m.2) :
    Reads (object members).tokens (object members) := by
  rw [tokens, memberTokens_eq_map]
  exact Bracket.object.reads fun m member => Bracket.takes_member (each m member)

mutual

/-- **Every value is read from its tokens.** -/
theorem Value.reads_tokens : ∀ v : Value, Reads v.tokens v
  | .null => reads_leaf _
  | .bool _ => reads_leaf _
  | .number _ => reads_leaf _
  | .string _ => reads_leaf _
  | .array items => reads_array (reads_items items)
  | .object members => reads_object (reads_members members)

theorem Value.reads_items : ∀ items : List Value, ∀ v ∈ items, Reads v.tokens v
  | [] => nofun
  | v :: rest => List.forall_mem_cons.mpr ⟨v.reads_tokens, reads_items rest⟩

theorem Value.reads_members :
    ∀ members : List (Option String × Value), ∀ m ∈ members, Reads m.2.tokens m.2
  | [] => nofun
  | (_, v) :: rest => List.forall_mem_cons.mpr ⟨v.reads_tokens, reads_members rest⟩

end

/-- **A value is read back from its compact form.** -/
theorem Value.Printable.read?_render {v : Value} (printable : v.Printable) :
    Value.read? v.render = some v := by
  have read : v.tokens.foldlM Reader.step {} = some ⟨[], .nothing v⟩ := v.reads_tokens [] .value rfl
  rw [Value.read?, printable.scan_render, Option.bind_some, Value.ofTokens?, read]

end SwapPayout.Json
