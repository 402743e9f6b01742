import SwapPayout.PathSet
import SwapPayout.Proofs.Amount.Reading

/-!
# Path sets read back

The byte in front of a step is neither the separator nor the terminator, whatever components the
step has, and the components have fixed lengths; so no content of an account or a currency is taken
for the end of a path. That is the whole of why paths without a count and without lengths can be
read: `PathStep.readsBack`, then `PathSet.readsBefore_path` for one path and `PathSet.readsBack` for
a set.

Not every set has a form: an empty path and a step without a component have none, and nothing else
stands in the way (`PathSet.exists_encode_eq_ok`). `PathSet.encoding_reversible` joins both halves.
-/

namespace SwapPayout

/-! ## Steps -/

namespace PathStep

theorem encode_eq_ok {s : PathStep} {bytes : Bytes} :
    s.encode = .ok bytes ↔ ¬ s.isEmpty = true ∧ bytes = s.kind :: s.components := by
  refine ite_error_eq_ok.trans (and_congr_right' ?_)
  rw [Except.ok.injEq, eq_comm]

theorem isEmpty_iff {s : PathStep} : s.isEmpty = true ↔ s = {} := by
  obtain ⟨account, currency, issuer⟩ := s
  cases account <;> cases currency <;> cases issuer <;> simp [isEmpty]

theorem exists_encode_eq_ok {s : PathStep} : (∃ bytes, s.encode = .ok bytes) ↔ s ≠ {} := by
  simp only [encode_eq_ok, exists_and_left, exists_eq, and_true, isEmpty_iff, ne_eq]

/-- Takes a component, if it is there. -/
def componentReader {α : Type} (there : Bool) (read : Wire.Reader α) : Wire.Reader (Option α) :=
  if there then do return some (← read) else return none

/-- Takes a step: the byte that says which components it has, and these. -/
def reader : Wire.Reader PathStep := do
  let kind ← Wire.number 1
  let account ← componentReader (kind.testBit 0) AccountId.reader
  let currency ← componentReader (kind.testBit 4) Currency.reader
  let issuer ← componentReader (kind.testBit 5) AccountId.reader
  return { account, currency, issuer }

/-- Does a byte announce a step? -/
def announces (b : UInt8) : Bool := b != PathSet.separator && b != PathSet.terminator

/-- **The byte in front of a step announces it**: no step with a component starts like the end of a
path. -/
theorem announces_kind {s : PathStep} (h : ¬ s.isEmpty = true) : announces s.kind = true := by
  obtain ⟨account, currency, issuer⟩ := s
  cases account <;> cases currency <;> cases issuer <;> first | rfl | exact absurd rfl h

theorem announced {s : PathStep} {bytes : Bytes} (h : s.encode = .ok bytes) :
    bytes.head?.any announces = true := by
  obtain ⟨nonempty, rfl⟩ := encode_eq_ok.mp h
  exact announces_kind nonempty

/-- The bits of the byte say which components follow. -/
theorem testBit_kind (s : PathStep) :
    s.kind.toNat.testBit 0 = s.account.isSome ∧ s.kind.toNat.testBit 4 = s.currency.isSome ∧
      s.kind.toNat.testBit 5 = s.issuer.isSome := by
  obtain ⟨account, currency, issuer⟩ := s
  cases account <;> cases currency <;> cases issuer <;> simp [kind] <;> decide

theorem componentReader_append {α : Type} {read : Wire.Reader α} {bytes : α → Bytes}
    (h : ∀ a rest, read (bytes a ++ rest) = some (a, rest)) (o : Option α) (rest : Bytes) :
    componentReader o.isSome read ((o.map bytes).getD [] ++ rest) = some (o, rest) := by
  cases o with
  | none => rfl
  | some a =>
    show (read >>= fun a => pure (some a)) (bytes a ++ rest) = _
    rw [Wire.bind_run (h a rest)]
    rfl

/-- **A step reads back**, whatever bytes its components hold. -/
theorem readsBack (s : PathStep) : Wire.ReadsBack reader s.encode s := by
  intro rest bytes h
  obtain ⟨-, rfl⟩ := encode_eq_ok.mp h
  obtain ⟨account, currency, issuer⟩ := s.testBit_kind
  rw [reader, List.cons_append, Wire.bind_run (Wire.number_one _ _), account, currency, issuer]
  simp only [components, List.append_assoc]
  rw [Wire.bind_run (componentReader_append AccountId.reader_append _ _),
    Wire.bind_run (componentReader_append Currency.reader_append _ _),
    Wire.bind_run (componentReader_append AccountId.reader_append _ _)]
  rfl

end PathStep

namespace PathSet

/-! ## Paths -/

theorem encodePath_eq_ok {path : List PathStep} {bytes : Bytes} :
    encodePath path = .ok bytes ↔
      ¬ path.isEmpty = true ∧ ∃ forms, path.mapM PathStep.encode = .ok forms ∧
        forms.flatten = bytes := by
  unfold encodePath
  rw [ite_error_eq_ok, map_eq_ok]

theorem exists_encodePath_eq_ok {path : List PathStep} :
    (∃ bytes, encodePath path = .ok bytes) ↔ path ≠ [] ∧ ∀ s ∈ path, s ≠ {} := by
  unfold encodePath
  simp only [ite_error_eq_ok, exists_and_left, exists_map_eq_ok, exists_mapM_eq_ok,
    PathStep.exists_encode_eq_ok, List.isEmpty_iff, ne_eq]

/-- Takes the steps of a path. -/
def pathReader : Wire.Reader (List PathStep) :=
  Wire.repeatWhile PathStep.announces PathStep.reader

/-- **A path reads back** in front of a byte that announces no step. -/
theorem readsBefore_path (path : List PathStep) {rest : Bytes}
    (stop : rest.head?.any PathStep.announces = false) :
    Wire.ReadsBefore rest pathReader (encodePath path) path := by
  intro bytes h
  obtain ⟨-, forms, hforms, rfl⟩ := encodePath_eq_ok.mp h
  refine Wire.repeatWhile_flatten (fun _ => True)
    ((mapM_eq_ok.mp hforms).imp fun s form hs => ?_) stop trivial
  exact ⟨PathStep.announced hs, fun _ => trivial, fun rest _ => s.readsBack rest _ hs⟩

/-- A path starts with a byte that announces its first step. -/
theorem announced_path {path : List PathStep} {bytes : Bytes} (h : encodePath path = .ok bytes) :
    bytes.head?.any PathStep.announces = true := by
  obtain ⟨nonempty, forms, hforms, rfl⟩ := encodePath_eq_ok.mp h
  cases mapM_eq_ok.mp hforms with
  | nil => exact absurd rfl nonempty
  | cons first _ =>
    obtain ⟨nonempty, rfl⟩ := PathStep.encode_eq_ok.mp first
    exact PathStep.announces_kind nonempty

/-! ## Sets of paths -/

/-- Takes the paths of a set that has any. -/
def pathsReader : Wire.Reader PathSet := do
  let first ← pathReader
  let others ← Wire.repeatWhile (· == separator) (do Wire.expect [separator]; pathReader)
  Wire.expect [terminator]
  return first :: others

/-- Takes a set of paths. The set without paths is its terminator alone. -/
def reader : Wire.Reader PathSet := do
  match ← Wire.behind? [terminator] (pure ()) with
  | some () => return []
  | none => pathsReader

/-- A first item, and the others each behind the separator. -/
theorem intercalate_cons {α : Type} (sep first : List α) (others : List (List α)) :
    sep.intercalate (first :: others) = first ++ (others.map (sep ++ ·)).flatten := by
  induction others generalizing first with
  | nil => rw [List.intercalate_singleton, List.map_nil, List.flatten_nil, List.append_nil]
  | cons second others ih =>
    rw [List.intercalate_cons_cons, ih, List.map_cons, List.flatten_cons]
    simp only [List.append_assoc]

theorem encode_eq_ok {paths : PathSet} {bytes : Bytes} :
    encode paths = .ok bytes ↔
      ∃ forms, paths.mapM encodePath = .ok forms ∧
        [separator].intercalate forms ++ [terminator] = bytes :=
  map_eq_ok

/-- **A set of paths has a form** when no path is empty and no step is without a component. -/
theorem exists_encode_eq_ok {paths : PathSet} :
    (∃ bytes, encode paths = .ok bytes) ↔
      ∀ path ∈ paths, path ≠ [] ∧ ∀ s ∈ path, s ≠ {} := by
  refine exists_map_eq_ok.trans (exists_mapM_eq_ok.trans (forall₂_congr fun path _ => ?_))
  exact exists_encodePath_eq_ok

/-- Behind a path stands a byte that announces no step. -/
theorem stop_behind_path (forms : List Bytes) (rest : Bytes) :
    ((forms.map (separator :: ·)).flatten ++ (terminator :: rest)).head?.any PathStep.announces
      = false := by
  cases forms <;> rfl

/-- **A set of paths reads back**, whatever bytes its steps hold and whatever follows it. -/
theorem readsBack (paths : PathSet) : Wire.ReadsBack reader (encode paths) paths := by
  intro rest bytes h
  obtain ⟨forms, hforms, rfl⟩ := encode_eq_ok.mp h
  cases mapM_eq_ok.mp hforms with
  | nil =>
    have taken : Wire.behind? [terminator] (pure ()) ([terminator] ++ ([] ++ rest))
        = some (some (), rest) := Wire.behind?_append rfl
    exact Wire.bind_run taken
  | @cons first form others forms hfirst hothers =>
    -- The first path announces a step, so it is not taken for the terminator of the empty set.
    have here : ¬ [terminator] <+: form ++ ((forms.map (separator :: ·)).flatten
        ++ terminator :: rest) := by
      have announced := announced_path hfirst
      cases form with
      | nil => cases announced
      | cons b tail =>
        intro taken
        obtain rfl := (List.cons_prefix_cons.mp taken).1
        cases announced
    -- A path is only read to its end in front of a byte that announces no step; the separator of the
    -- next path and the terminator are such bytes.
    have each : List.Forall₂ (fun path form => form.head?.any (· == separator) = true ∧
        (∀ more, (form ++ more).head?.any PathStep.announces = false) ∧
        ∀ more, more.head?.any PathStep.announces = false →
          (do Wire.expect [separator]; pathReader : Wire.Reader _) (form ++ more)
            = some (path, more)) others (forms.map (separator :: ·)) := by
      rw [List.forall₂_map_right_iff]
      refine hothers.imp fun path form hpath => ⟨rfl, fun _ => rfl, fun more stop => ?_⟩
      exact (Wire.bind_run (Wire.expect_append [separator] _)).trans
        (readsBefore_path path stop form hpath)
    rw [intercalate_cons, List.append_assoc, List.append_assoc]
    show reader (form ++ ((forms.map (separator :: ·)).flatten ++ terminator :: rest)) = _
    rw [reader, Wire.bind_run (Wire.behind?_of_absent here _)]
    show pathsReader _ = _
    rw [pathsReader, Wire.bind_run (readsBefore_path first (stop_behind_path forms rest) form hfirst),
      Wire.bind_run (Wire.repeatWhile_flatten
        (fun more => more.head?.any PathStep.announces = false) each rfl rfl)]
    exact Wire.bind_run (Wire.expect_append [terminator] rest)

/-- **The encoding of path sets is reversible**: it fails when a path is empty or a step has no
component, and for no other reason, and the reader finds the set again in front of whatever
bytes. -/
theorem encoding_reversible :
    (∀ paths : PathSet, (∃ cause, encode paths = .error cause) ↔
      ∃ path ∈ paths, path = [] ∨
        ∃ s ∈ path, s = { account := none, currency := none, issuer := none }) ∧
    ∀ (paths : PathSet) (bytes : Bytes), encode paths = .ok bytes →
      ∀ rest, reader (bytes ++ rest) = some (paths, rest) := by
  refine ⟨fun paths => ?_, fun paths bytes form rest => readsBack paths rest bytes form⟩
  rw [exists_eq_error_iff, exists_encode_eq_ok]
  simp only [not_forall, not_and_or, not_not, exists_prop, ne_eq]

/-- Steps through an account and a currency made of the bytes that end paths and sets. -/
def treacherous : PathSet :=
  [[{ account := some ⟨List.replicate 20 separator, rfl⟩,
      issuer := some ⟨List.replicate 20 terminator, rfl⟩ },
    { currency := some .native }],
   [{ currency := some ⟨List.replicate 20 separator, rfl⟩ }]]

theorem treacherous_reversible :
    ∃ bytes, encode treacherous = .ok bytes ∧
      ∀ rest, reader (bytes ++ rest) = some (treacherous, rest) := by
  obtain ⟨bytes, form⟩ : ∃ bytes, encode treacherous = .ok bytes := exists_eq_ok (by decide)
  exact ⟨bytes, form, encoding_reversible.2 treacherous bytes form⟩

end PathSet

end SwapPayout
