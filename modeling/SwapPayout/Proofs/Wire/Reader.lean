import SwapPayout.Proofs.Wire.Entries

/-!
# Reading binary forms

The library writes objects and never reads them. The readers here are the other side of the laws
about what is written: a reader takes a value off the front of a byte string and leaves the rest, so
readers are put together in the order in which values are written.

`ReadsBack` is the one notion: the form of a value, in front of whatever bytes, reads as the value
and leaves these bytes. So forms of different values differ, and none is the beginning of another
(`told_apart_of_readsBack`); for byte strings behind their length this is `frames_told_apart`.

Reading back passes from the values of entries to the entries of an object
(`ReadsBefore.field_bind`), also where an entry may be missing (`ReadsBefore.field?_bind`): there
the header that comes next must not be taken for the missing one.
-/

namespace SwapPayout.Wire

/-- Takes a value off the front of a byte string and leaves the rest. -/
abbrev Reader (α : Type) := StateT Bytes Option α

section

variable {α β : Type}

theorem bind_run {read : Reader α} {next : α → Reader β} {bytes rest : Bytes} {a : α}
    (h : read bytes = some (a, rest)) : (read >>= next) bytes = next a rest := by
  show (read bytes >>= fun p => next p.1 p.2) = _
  rw [h]
  rfl

/-! ## Readers -/

/-- Goes on with a value, if there is one. -/
def accept (value : Option α) : Reader α := fun input => value.map (·, input)

/-- Takes these very bytes. -/
def expect (bytes : Bytes) : Reader Unit := fun input =>
  if bytes <+: input then some ((), input.drop bytes.length) else none

/-- Takes so many bytes. -/
def chunk (count : Nat) : Reader Bytes := fun input =>
  if count ≤ input.length then some (input.take count, input.drop count) else none

/-- Takes a number of so many bytes. -/
def number (width : Nat) : Reader Nat := do return Bytes.toNat (← chunk width)

/-- Takes a 32-bit number. -/
def uint32 : Reader UInt32 := do return UInt32.ofNat (← number 4)

/-- Takes the length of a value of variable length. -/
def frameLength : Reader Nat := do
  let first ← number 1
  if first ≤ maxShort then return first
  else if first ≤ 240 then return maxShort + 1 + (first - 193) * 256 + (← number 1)
  else return maxMiddle + 1 + (first - 241) * 65536 + (← number 2)

/-- Takes a byte string behind its length. -/
def frame : Reader Bytes := do chunk (← frameLength)

/-- Takes a value behind a marker, if the marker comes next. -/
def behind? (marker : Bytes) (read : Reader α) : Reader (Option α) := fun input =>
  if marker <+: input then (do expect marker; return some (← read) : Reader (Option α)) input
  else some (none, input)

/-- Takes the value of a field behind its header. -/
def field (f : Field) (read : Reader α) : Reader α := do expect f.header; read

/-- Takes the value of a field that may be missing. -/
def field? (f : Field) (read : Reader α) : Reader (Option α) := behind? f.header read

/-- Takes values as long as the next byte announces one. A value takes at least one byte. -/
def repeatWhile (announces : UInt8 → Bool) (read : Reader α) : Reader (List α) := fun input =>
  if input.head?.any announces then
    match read input with
    | none => none
    | some (a, rest) =>
      if rest.length < input.length then
        (repeatWhile announces read rest).map fun (as, rest) => (a :: as, rest)
      else none
  else some ([], input)
termination_by input => input.length

/-! ## What readers take -/

theorem expect_append (bytes rest : Bytes) : expect bytes (bytes ++ rest) = some ((), rest) := by
  rw [expect, if_pos (List.prefix_append bytes rest), List.drop_left]

theorem chunk_append {count : Nat} {bytes : Bytes} (h : bytes.length = count) (rest : Bytes) :
    chunk count (bytes ++ rest) = some (bytes, rest) := by
  subst h
  rw [chunk, if_pos (by simp), List.take_left, List.drop_left]

theorem number_append {width : Nat} {bytes : Bytes} (h : bytes.length = width) (rest : Bytes) :
    number width (bytes ++ rest) = some (Bytes.toNat bytes, rest) := by
  rw [number, bind_run (chunk_append h rest)]
  rfl

/-- A number reads back modulo its width. -/
theorem number_ofNat (width n : Nat) (rest : Bytes) :
    number width (Bytes.ofNat width n ++ rest) = some (n % 256 ^ width, rest) := by
  rw [number_append (Bytes.length_ofNat width n), Bytes.toNat_ofNat]

theorem number_one (b : UInt8) (rest : Bytes) : number 1 (b :: rest) = some (b.toNat, rest) := by
  rw [← List.singleton_append, number_append (show [b].length = 1 from rfl), Bytes.toNat_cons,
    List.length_nil, Nat.pow_zero, Nat.mul_one]
  rfl

theorem behind?_append {marker : Bytes} {read : Reader α} {bytes rest : Bytes} {a : α}
    (h : read (bytes ++ rest) = some (a, rest)) :
    behind? marker read (marker ++ (bytes ++ rest)) = some (some a, rest) := by
  rw [behind?, if_pos (List.prefix_append _ _), bind_run (expect_append _ _), bind_run h]
  rfl

theorem behind?_of_absent {marker : Bytes} {input : Bytes} (h : ¬ marker <+: input)
    (read : Reader α) : behind? marker read input = some (none, input) := by
  rw [behind?, if_neg h]

/-- **Values that are announced are taken one by one**, up to the first byte that announces none. A
value may need to know that what follows it is `fit`, as every form and the end are. -/
theorem repeatWhile_flatten (fit : Bytes → Prop) {announces : UInt8 → Bool} {read : Reader α}
    {as : List α} {forms : List Bytes} {rest : Bytes}
    (each : List.Forall₂ (fun a form => form.head?.any announces = true ∧
      (∀ more, fit (form ++ more)) ∧
      ∀ more, fit more → read (form ++ more) = some (a, more)) as forms)
    (stop : rest.head?.any announces = false) (last : fit rest) :
    repeatWhile announces read (forms.flatten ++ rest) = some (as, rest) := by
  -- Every form starts with a byte that announces a value, so no step is taken on an empty form.
  induction each with
  | nil =>
    rw [List.flatten_nil, List.nil_append, repeatWhile, if_neg (by simp [stop])]
  | @cons a form as forms here others ih =>
    obtain ⟨announced, -, reads⟩ := here
    obtain ⟨b, tail, rfl⟩ : ∃ b tail, form = b :: tail := by
      cases form with
      | nil => cases announced
      | cons b tail => exact ⟨b, tail, rfl⟩
    have next : fit (forms.flatten ++ rest) := by
      cases others with
      | nil => exact last
      | cons second _ =>
        rw [List.flatten_cons, List.append_assoc]
        exact second.2.1 _
    have shorter : (forms.flatten ++ rest).length < (b :: tail ++ (forms.flatten ++ rest)).length := by
      simp only [List.length_append, List.length_cons]
      omega
    rw [List.flatten_cons, List.append_assoc, repeatWhile, if_pos (by exact announced),
      reads _ next]
    simp only [if_pos shorter, ih, Option.map_some]

/-! ## Reading back -/

/-- In front of these bytes, the form reads as the value. -/
def ReadsBefore (rest : Bytes) (read : Reader α) (form : Except FormatError Bytes) (a : α) :
    Prop :=
  ∀ bytes, form = .ok bytes → read (bytes ++ rest) = some (a, rest)

/-- In front of whatever bytes, the form reads as the value. -/
def ReadsBack (read : Reader α) (form : Except FormatError Bytes) (a : α) : Prop :=
  ∀ rest, ReadsBefore rest read form a

theorem readsBack_ok {read : Reader α} {bytes : Bytes} {a : α}
    (h : ∀ rest, read (bytes ++ rest) = some (a, rest)) : ReadsBack read (.ok bytes) a := by
  rintro rest _ ⟨⟩
  exact h rest

/-- **What reads back is told apart**: forms are equal, with all that follows them, only when they are
of one value and the same follows. -/
theorem told_apart_of_readsBack {read : Reader α} {write : α → Except FormatError Bytes}
    (back : ∀ a, ReadsBack read (write a) a) {a b : α} {form form' : Bytes}
    (h : write a = .ok form) (h' : write b = .ok form') (x y : Bytes) :
    form ++ x = form' ++ y ↔ a = b ∧ x = y := by
  constructor
  · intro same
    have found := back a x form h
    rw [same, back b y form' h'] at found
    exact Prod.mk.inj (Option.some.inj found.symm)
  · rintro ⟨rfl, rfl⟩
    obtain rfl := Except.ok.inj (h.symm.trans h')
    rfl

theorem readsBack_expect (bytes : Bytes) : ReadsBack (expect bytes) (.ok bytes) () :=
  readsBack_ok (expect_append bytes)

theorem readsBack_uint32 (n : UInt32) : ReadsBack uint32 (.ok (Bytes.ofNat 4 n.toNat)) n := by
  refine readsBack_ok fun rest => ?_
  have fits : n.toNat < 256 ^ 4 := n.toNat_lt
  rw [uint32, bind_run (number_ofNat 4 n.toNat rest), Nat.mod_eq_of_lt fits, UInt32.ofNat_toNat]
  rfl

/-! ## Frames -/

/-- A length reads back, whichever of the three ranges it is in. -/
theorem readsBack_frameLength (length : Nat) :
    ReadsBack frameLength (lengthHeader length) length := by
  intro rest bytes h
  unfold frameLength maxShort maxMiddle
  cases announces_of_lengthHeader h with
  | short high itself =>
    rw [List.cons_append, bind_run (number_one _ _), itself, if_pos high]
    rfl
  | middle low high range upper lower =>
    rw [Nat.shiftRight_eq_div_pow] at upper
    rw [and_byte] at lower
    rw [List.cons_append, bind_run (number_one _ _), if_neg (by omega), if_pos range.2]
    simp only [List.cons_append, List.nil_append]
    rw [bind_run (number_one _ _)]
    refine congrArg (fun n => some (n, rest)) ?_
    omega
  | @long first second third low high range upper middle lower =>
    have pair : Bytes.toNat [second, third] = second.toNat * 256 + third.toNat := by
      simp [Bytes.toNat]
    rw [Nat.shiftRight_eq_div_pow] at upper
    rw [Nat.shiftRight_eq_div_pow, and_byte] at middle
    rw [and_byte] at lower
    rw [List.cons_append, bind_run (number_one _ _), if_neg (by omega), if_neg (by omega),
      bind_run (number_append (show [second, third].length = 2 from rfl) rest), pair]
    refine congrArg (fun n => some (n, rest)) ?_
    omega

/-- **A framed byte string reads back**, whatever follows it. -/
theorem readsBack_frame (bytes : Bytes) : ReadsBack frame (framed bytes) bytes := by
  intro rest out h
  obtain ⟨length, hlength, rfl⟩ := map_eq_ok.mp h
  rw [List.append_assoc, frame, bind_run (readsBack_frameLength _ _ _ hlength)]
  exact chunk_append rfl rest

/-- **Frames are told apart**, whatever follows them. There is a header for every length that is not
too large, whose bytes are the numbers they are meant to be; and byte strings behind their headers
are equal, with all that follows, only when they are the same string with the same behind it. -/
theorem frames_told_apart :
    (∀ (length : Nat) (cause : FormatError), lengthHeader length = .error cause ↔
      918744 < length ∧ cause = .binary s!"variable length {length} exceeds {maxLength}") ∧
    (∀ length ≤ 918744, ∃ header, lengthHeader length = .ok header ∧ Announces length header) ∧
    ∀ u v : Bytes, u.length ≤ 918744 → v.length ≤ 918744 →
      ∃ header header',
        lengthHeader u.length = .ok header ∧ lengthHeader v.length = .ok header' ∧
        ∀ x y : Bytes, header ++ u ++ x = header' ++ v ++ y ↔ u = v ∧ x = y := by
  refine ⟨fun length cause => lengthHeader_eq_error, fun length fits => ?_, fun u v hu hv => ?_⟩
  · obtain ⟨header, made⟩ := exists_lengthHeader_eq_ok.mpr fits
    exact ⟨header, made, announces_of_lengthHeader made⟩
  · obtain ⟨header, made⟩ := exists_lengthHeader_eq_ok.mpr hu
    obtain ⟨header', made'⟩ := exists_lengthHeader_eq_ok.mpr hv
    have frame : framed u = .ok (header ++ u) := map_eq_ok.mpr ⟨header, made, rfl⟩
    have frame' : framed v = .ok (header' ++ v) := map_eq_ok.mpr ⟨header', made', rfl⟩
    exact ⟨header, header', made, made', told_apart_of_readsBack readsBack_frame frame frame'⟩

/-- The longest frame with a header of one byte is no beginning of one with two, and there is a
header for the least length that takes three. -/
theorem neighbours_told_apart :
    (List.replicate 192 0 : Bytes).length ≤ 918744 ∧
    (List.replicate 193 0 : Bytes).length ≤ 918744 ∧
    (∃ header header', lengthHeader 192 = .ok header ∧ lengthHeader 193 = .ok header' ∧
      ∀ x y, header ++ List.replicate 192 0 ++ x ≠ header' ++ List.replicate 193 0 ++ y) ∧
    ∃ header, lengthHeader 12481 = .ok header ∧ Announces 12481 header := by
  have short : (List.replicate 192 0 : Bytes).length ≤ 918744 := by
    rw [List.length_replicate]
    decide
  have middle : (List.replicate 193 0 : Bytes).length ≤ 918744 := by
    rw [List.length_replicate]
    decide
  obtain ⟨header, header', made, made', apart⟩ :=
    frames_told_apart.2.2 (List.replicate 192 0) (List.replicate 193 0) short middle
  rw [List.length_replicate] at made made'
  refine ⟨short, middle, ⟨header, header', made, made', fun x y same => ?_⟩,
    frames_told_apart.2.1 12481 (by decide)⟩
  have lengths := congrArg List.length ((apart x y).mp same).1
  rw [List.length_replicate, List.length_replicate] at lengths
  omega

/-! ## Objects read back -/

theorem readsBefore_pure (rest : Bytes) (a : α) :
    ReadsBefore rest (pure a) (encodeEntries []) a := by
  rintro _ ⟨⟩
  rfl

/-- **An entry and what follows it read back when each does.** -/
theorem ReadsBefore.field_bind {rest : Bytes} {read : Reader α} {next : α → Reader β} {e : Entry}
    {es : List Entry} {a : α} {b : β} (head : ReadsBack read e.value a)
    (tail : ReadsBefore rest (next a) (encodeEntries es) b) :
    ReadsBefore rest (field e.field read >>= next) (encodeEntries (e :: es)) b := by
  intro bytes h
  obtain ⟨value, more, hvalue, hmore, rfl⟩ := encodeEntries_cons_eq_ok.mp h
  have here : field e.field read (e.field.header ++ (value ++ (more ++ rest)))
      = some (a, more ++ rest) := by
    rw [field, bind_run (expect_append _ _)]
    exact head _ _ hvalue
  simp only [List.append_assoc]
  rw [bind_run here]
  exact tail _ hmore

/-- **An entry that may be missing reads back**, given that what follows it does not start with its
header. -/
theorem ReadsBefore.field?_bind {rest : Bytes} {read : Reader α} {next : Option α → Reader β}
    {f : Field} {entry : α → Entry} {es : List Entry} {o : Option α} {b : β}
    (same : ∀ a, (entry a).field = f) (head : ∀ a, ReadsBack read (entry a).value a)
    (apart : ∀ bytes, encodeEntries es = .ok bytes → ¬ f.header <+: bytes ++ rest)
    (tail : ReadsBefore rest (next o) (encodeEntries es) b) :
    ReadsBefore rest (field? f read >>= next) (encodeEntries ((o.map entry).toList ++ es)) b := by
  intro bytes h
  cases o with
  | none =>
    rw [field?, bind_run (behind?_of_absent (apart bytes h) read)]
    exact tail bytes h
  | some a =>
    obtain ⟨value, more, hvalue, hmore, rfl⟩ := encodeEntries_cons_eq_ok.mp h
    simp only [List.append_assoc, same]
    rw [field?, bind_run (behind?_append (head a _ _ hvalue))]
    exact tail more hmore

theorem header_ne_nil (f : Field) : f.header ≠ [] := by
  unfold Field.header
  dsimp only
  split <;> split <;> exact List.cons_ne_nil _ _

/-- Headers that start with different bytes are not taken for each other. -/
theorem not_prefix_of_encodeEntries {f g : Field} (h : f.header.head? ≠ g.header.head?)
    {value : Except FormatError Bytes} {es : List Entry} {bytes : Bytes}
    (forms : encodeEntries (⟨g, value⟩ :: es) = .ok bytes) (rest : Bytes) :
    ¬ f.header <+: bytes ++ rest := by
  obtain ⟨value, more, -, -, rfl⟩ := encodeEntries_cons_eq_ok.mp forms
  obtain ⟨a, as, ha⟩ := List.exists_cons_of_ne_nil (header_ne_nil f)
  obtain ⟨b, bs, hb⟩ := List.exists_cons_of_ne_nil (header_ne_nil g)
  rw [ha, hb] at h ⊢
  intro taken
  exact h (congrArg some (List.cons_prefix_cons.mp taken).1)

end

end SwapPayout.Wire
