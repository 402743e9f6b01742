import SwapPayout.Json.Printer
import SwapPayout.Json.Token
import SwapPayout.Proofs.Bytes.Hex

/-!
# The compact form, in tokens

The compact form of a value falls into the tokens that one expects of it
(`Value.Printable.scans_render`). Three things shape the work. Every escape is undone where it
stands, whatever comes next, so a quoted text ends at the quote behind it and nowhere else
(`Token.foldlM_quote`). A number, on the other hand, ends only with the character behind it, so
scanning is told of with that character present (`Token.Scans`): a comma, a colon or a bracket,
which no number goes on with (`Token.Marks`). And what has no compact form of its own is left out,
which is a text that could not be read and a number that is none (`Value.Printable`).
-/

namespace SwapPayout.Json

namespace Token

variable {before : List Token}

/-! ## Texts -/

theorem step_unit {p : Unfinished} {left value d : Nat} {c : Char}
    (digit : Hex.digitValue? c = some d) :
    step ⟨before, .unit p (left + 1) value⟩ c = some ⟨before, .unit p left (value * 16 + d)⟩ := by
  show (Hex.digitValue? c).map _ = _
  rw [digit]
  rfl

theorem step_unit_last {p : Unfinished} {value d : Nat} {c : Char}
    (digit : Hex.digitValue? c = some d) :
    step ⟨before, .unit p 0 value⟩ c = some ⟨before, .text (p.pushUnit (value * 16 + d))⟩ := by
  show (Hex.digitValue? c).map _ = _
  rw [digit]
  rfl

theorem Unfinished.pushUnit_toNat (p : Unfinished) {c : Char} (control : c.toNat < 0x20) :
    p.pushUnit c.toNat = p.push c := by
  rw [pushUnit, if_neg (by simp; omega), if_neg (by simp; omega), Char.ofNat_toNat]

/-- An escape is undone. -/
theorem foldlM_escapeChar (p : Unfinished) (c : Char) :
    (escapeChar c).foldlM step ⟨before, .text p⟩ = some ⟨before, .text (p.push c)⟩ := by
  unfold escapeChar
  split_ifs with quote backslash _ _ _ _ _ control
  -- Escapes of two characters run through by themselves; left are the numbered and the plain ones.
  all_goals try (subst_vars; rfl)
  case pos =>
    have high := Hex.writesDigits_lowerDigit (c.toNat / 16) (by omega)
    have low := Hex.writesDigits_lowerDigit (c.toNat % 16) (by omega)
    have code : (0 * 16 + c.toNat / 16) * 16 + c.toNat % 16 = c.toNat := by omega
    have opened : ['\\', 'u', '0', '0'].foldlM step ⟨before, .text p⟩ =
        some ⟨before, .unit p 1 0⟩ := rfl
    show (['\\', 'u', '0', '0'] ++ [_, _]).foldlM step _ = _
    rw [List.foldlM_append, opened, Option.bind_eq_bind, Option.bind_some, List.foldlM_cons,
      step_unit high, Option.bind_eq_bind, Option.bind_some, List.foldlM_cons, step_unit_last low,
      code, p.pushUnit_toNat control]
    rfl
  case neg =>
    have plain : step ⟨before, .text p⟩ c = some ⟨before, .text (p.push c)⟩ :=
      (if_neg quote).trans ((if_neg backslash).trans (if_neg control))
    rw [List.foldlM_cons, plain]
    rfl

theorem foldlM_escaped (chars read : List Char) :
    (chars.flatMap escapeChar).foldlM step ⟨before, .text ⟨read, none, false⟩⟩ =
      some ⟨before, .text ⟨chars.reverse ++ read, none, false⟩⟩ := by
  induction chars generalizing read with
  | nil => rfl
  | cons c chars ih =>
    rw [List.flatMap_cons, List.foldlM_append, foldlM_escapeChar, List.reverse_cons,
      List.append_assoc]
    exact ih (c :: read)

/-- A quoted text is read to its end, and no further. -/
theorem foldlM_quote (s : String) :
    (quote s).toList.foldlM step ⟨before, .between⟩ =
      some ⟨leaf (.string (some s)) :: before, .between⟩ := by
  have read : Unfinished.close ⟨s.toList.reverse ++ [], none, false⟩ = some s := by
    rw [List.append_nil, Unfinished.close]
    show some (String.ofList s.toList.reverse.reverse) = _
    rw [List.reverse_reverse, String.ofList_toList]
  rw [quote, String.toList_ofList, List.foldlM_append, List.foldlM_cons]
  show ((s.toList.flatMap escapeChar).foldlM step ⟨before, .text ⟨[], none, false⟩⟩ >>= _) = _
  rw [foldlM_escaped]
  show some (Scan.mk (leaf (.string _) :: before) .between) = _
  rw [read]

/-! ## Marks -/

/-- No number goes on with the character. -/
def NumberPart.EndsAt (c : Char) : Prop := ∀ part : NumberPart, part.next? c = none

/-- A character that is a token in itself. -/
structure Marks (c : Char) (token : Token) : Prop where
  ends : NumberPart.EndsAt c
  start : ∀ before, start before c = some ⟨token :: before, .between⟩

/-- The character of a bracket or a separator. -/
def mark? : Token → Option Char
  | openArray => '['
  | closeArray => ']'
  | openObject => '\x7b'
  | closeObject => '\x7d'
  | comma => ','
  | colon => ':'
  | leaf _ => none

theorem marks_of_mark? {token : Token} {c : Char} (h : token.mark? = some c) : Marks c token := by
  cases token <;> cases h
  all_goals
    refine ⟨fun part => ?_, fun _ => rfl⟩
    cases part <;> rfl

/-! ## Scanning -/

/-- The text falls into the tokens, if something follows that ends a number. -/
def Scans (text : List Char) (tokens : List Token) : Prop :=
  ∀ before c rest, NumberPart.EndsAt c →
    (text ++ c :: rest).foldlM step ⟨before, .between⟩ =
      (c :: rest).foldlM step ⟨tokens.reverse ++ before, .between⟩

namespace Scans

variable {text text' : List Char} {tokens tokens' : List Token} {c : Char} {token : Token}

theorem of_foldlM (h : ∀ before, text.foldlM step ⟨before, .between⟩ =
    some ⟨tokens.reverse ++ before, .between⟩) : Scans text tokens := by
  intro before c rest _
  rw [List.foldlM_append, h before]
  rfl

theorem nil : Scans [] [] := fun _ _ _ _ => rfl

theorem mark (h : Marks c token) (after : Scans text tokens) :
    Scans (c :: text) (token :: tokens) := by
  intro before d rest ends
  rw [List.cons_append, List.foldlM_cons]
  show start before c >>= _ = _
  rw [h.start before]
  show (text ++ d :: rest).foldlM step _ = _
  rw [after _ d rest ends, List.reverse_cons, List.append_assoc]
  rfl

theorem append_mark (first : Scans text tokens) (h : Marks c token)
    (after : Scans text' tokens') : Scans (text ++ c :: text') (tokens ++ token :: tokens') := by
  intro before d rest ends
  rw [List.append_assoc, List.cons_append, first before c _ h.ends, ← List.cons_append,
    (mark h after) _ d rest ends, List.reverse_append, List.append_assoc]

/-- Texts with commas between them. -/
theorem intercalate {texts : List (List Char)} {tokens : List (List Token)}
    (h : List.Forall₂ Scans texts tokens) :
    Scans ([','].intercalate texts) ([comma].intercalate tokens) := by
  induction h with
  | nil => exact nil
  | @cons text tokens texts others first rest ih =>
    cases rest with
    | nil => simpa using first
    | cons =>
      rw [List.intercalate_cons_cons, List.intercalate_cons_cons, List.append_assoc,
        List.append_assoc]
      exact first.append_mark (marks_of_mark? rfl) ih

end Scans

/-! ## Numbers -/

/-- The digits of a number, and what goes with them, behind a sign or not. -/
def IsLiteral (literal : String) : Prop :=
  ∃ sign digits part, literal.toList = sign ++ digits ∧ (sign = [] ∨ sign = ['-']) ∧
    digits.foldlM NumberPart.next? .sign = some part ∧ part.isComplete = true

/-- What starts a number starts no other token. -/
theorem start_of_next? {c : Char} {part : NumberPart}
    (h : NumberPart.next? .sign c = some part) : start before c = some ⟨before, .number part [c]⟩ := by
  have word : isSpace c = false := by
    by_contra blank
    simp only [isSpace, Bool.not_eq_false, Bool.or_eq_true, beq_iff_eq] at blank
    obtain ((rfl | rfl) | rfl) | rfl := blank <;> cases h
  rw [start, word, h]
  · rfl
  all_goals
    rintro rfl
    cases h

theorem foldlM_number {digits read : List Char} {part part' : NumberPart}
    (h : digits.foldlM NumberPart.next? part = some part') :
    digits.foldlM step ⟨before, .number part read⟩ =
      some ⟨before, .number part' (digits.reverse ++ read)⟩ := by
  induction digits generalizing part read with
  | nil =>
    cases h
    rfl
  | cons c digits ih =>
    rw [List.foldlM_cons] at h
    obtain ⟨next, first, others⟩ := Option.bind_eq_some_iff.mp h
    have stepped : step ⟨before, .number part read⟩ c = some ⟨before, .number next (c :: read)⟩ := by
      rw [step]
      simp only [first]
    rw [List.foldlM_cons, stepped, List.reverse_cons, List.append_assoc]
    exact ih others

theorem Scans.of_isLiteral {literal : String} (h : IsLiteral literal) :
    Scans literal.toList [leaf (.number literal)] := by
  obtain ⟨sign, digits, part, text, marked, read, complete⟩ := h
  intro before d rest ends
  have inside : literal.toList.foldlM step ⟨before, .between⟩ =
      some ⟨before, .number part literal.toList.reverse⟩ := by
    rw [text]
    rcases marked with rfl | rfl
    · cases digits with
      | nil => cases read; cases complete
      | cons c digits =>
        rw [List.foldlM_cons] at read
        obtain ⟨next, first, others⟩ := Option.bind_eq_some_iff.mp read
        rw [List.nil_append, List.foldlM_cons, List.reverse_cons]
        show start before c >>= _ = _
        rw [start_of_next? first]
        exact foldlM_number others
    · rw [List.singleton_append, List.foldlM_cons, List.reverse_cons]
      exact foldlM_number read
  have ended : step ⟨before, .number part literal.toList.reverse⟩ d =
      start (leaf (.number literal) :: before) d := by
    rw [step]
    simp only [ends part, complete, List.reverse_reverse, String.ofList_toList, if_true]
  rw [List.foldlM_append, inside, Option.bind_eq_bind, Option.bind_some, List.foldlM_cons, ended]
  rfl

theorem NumberPart.next?_whole {c : Char} (digit : c.isDigit = true) :
    next? .whole c = some .whole := by
  have point : c ≠ '.' := by
    rintro rfl
    cases digit
  have mark : ¬ (c = 'e' ∨ c = 'E') := by
    rintro (rfl | rfl) <;> cases digit
  simp only [next?, if_neg point, if_neg mark, if_pos digit]

/-- The digits of a number are a literal, since no zero stands in front. -/
theorem foldlM_toDigits {n : Nat} (positive : 0 < n) :
    (Nat.toDigits 10 n).foldlM NumberPart.next? .sign = some .whole := by
  have digit (d : Nat) (small : d < 10) : d.digitChar.isDigit = true := by
    rw [Nat.isDigit_digitChar, decide_eq_true small]
  have nonzero : ∀ d < 10, 0 < d → d.digitChar ≠ '0' := by decide
  induction n using Nat.strongRecOn with
  | ind n ih =>
    rcases Nat.lt_or_ge n 10 with small | large
    · have first : NumberPart.next? .sign n.digitChar = some .whole :=
        (if_neg (nonzero n small positive)).trans (if_pos (digit n small))
      rw [Nat.toDigits_of_lt_base small, List.foldlM_cons, first]
      rfl
    · have last := NumberPart.next?_whole (digit (n % 10) (by omega))
      rw [Nat.toDigits_of_base_le (by decide) large, List.foldlM_append,
        ih (n / 10) (by omega) (by omega), Option.bind_eq_bind, Option.bind_some, List.foldlM_cons,
        last]
      rfl

theorem isLiteral_toString (n : Int) : IsLiteral (toString n) := by
  have positive (n : Nat) (h : 0 < n) :
      n.repr.toList.foldlM NumberPart.next? .sign = some .whole := by
    rw [Nat.toList_repr]
    exact foldlM_toDigits h
  cases n with
  | ofNat n =>
    rcases Nat.eq_zero_or_pos n with rfl | h
    · exact ⟨[], ['0'], .zero, rfl, .inl rfl, rfl, rfl⟩
    · exact ⟨[], n.repr.toList, .whole, rfl, .inl rfl, positive n h, rfl⟩
  | negSucc n =>
    refine ⟨['-'], (n + 1).repr.toList, .whole, ?_, .inr rfl, positive _ n.succ_pos, rfl⟩
    show ("-" ++ (n + 1).repr).toList = _
    rw [String.toList_append]
    rfl

end Token

/-! ## Values -/

open Json.Token (Scans IsLiteral marks_of_mark?)

mutual

/-- The tokens of the compact form. -/
def Value.tokens : Value → List Token
  | .array items => .openArray :: ([.comma].intercalate (itemTokens items) ++ [.closeArray])
  | .object members => .openObject :: ([.comma].intercalate (memberTokens members) ++ [.closeObject])
  | v => [.leaf v]

def itemTokens : List Value → List (List Token)
  | [] => []
  | v :: rest => v.tokens :: itemTokens rest

/-- The tokens of the members of an object. -/
def memberTokens : List (Option String × Value) → List (List Token)
  | [] => []
  | (key, v) :: rest => (.leaf (.string key) :: .colon :: v.tokens) :: memberTokens rest

end

theorem itemTokens_eq_map (items : List Value) : itemTokens items = items.map Value.tokens := by
  induction items with
  | nil => rfl
  | cons v rest ih => rw [itemTokens, ih, List.map_cons]

/-- A member is a key, a colon and a value. -/
def tokensOfMember (m : Option String × Value) : List Token :=
  .leaf (.string m.1) :: .colon :: m.2.tokens

theorem memberTokens_eq_map (members : List (Option String × Value)) :
    memberTokens members = members.map tokensOfMember := by
  induction members with
  | nil => rfl
  | cons m rest ih => rw [memberTokens, ih, List.map_cons, tokensOfMember]

/-- The compact form says all there is: every text in it was read, and every number is one. -/
inductive Value.Printable : Value → Prop
  | null : Printable .null
  | bool (b : Bool) : Printable (.bool b)
  | number {literal : String} (written : IsLiteral literal) : Printable (.number literal)
  | string (s : String) : Printable (.string (some s))
  | array {items : List Value} (each : ∀ v ∈ items, v.Printable) : Printable (.array items)
  | object {members : List (Option String × Value)} (keys : ∀ m ∈ members, m.1.isSome)
      (each : ∀ m ∈ members, m.2.Printable) : Printable (.object members)

theorem Token.Scans.items {items : List Value}
    (each : ∀ v ∈ items, Scans v.render.toList v.tokens) :
    List.Forall₂ Scans ((renderItems items).map String.toList) (itemTokens items) := by
  induction items with
  | nil => exact .nil
  | cons v rest ih =>
    obtain ⟨first, others⟩ := List.forall_mem_cons.mp each
    exact .cons first (ih others)

theorem Token.Scans.members {members : List (Option String × Value)}
    (keys : ∀ m ∈ members, m.1.isSome) (each : ∀ m ∈ members, Scans m.2.render.toList m.2.tokens) :
    List.Forall₂ Scans ((renderMembers members).map String.toList) (memberTokens members) := by
  induction members with
  | nil => exact .nil
  | cons m rest ih =>
    obtain ⟨_ | key, v⟩ := m
    · cases keys _ List.mem_cons_self
    obtain ⟨-, otherKeys⟩ := List.forall_mem_cons.mp keys
    obtain ⟨first, others⟩ := List.forall_mem_cons.mp each
    refine .cons ?_ (ih otherKeys others)
    have quoted : Scans (quote key).toList [.leaf (.string (some key))] :=
      .of_foldlM fun _ => foldlM_quote key
    show Scans ((quote key ++ ":" ++ v.render).toList) _
    rw [String.toList_append, String.toList_append, List.append_assoc]
    exact quoted.append_mark (marks_of_mark? rfl) first

/-- **The compact form falls into its tokens.** -/
theorem Value.Printable.scans_render {v : Value} (printable : v.Printable) :
    Scans v.render.toList v.tokens := by
  induction printable with
  | null => exact .of_foldlM fun _ => rfl
  | bool b => cases b <;> exact .of_foldlM fun _ => rfl
  | number written => exact .of_isLiteral written
  | string s => exact .of_foldlM fun _ => Token.foldlM_quote s
  | @array items _ each =>
    have inside := Scans.intercalate (Scans.items each)
    rw [render, String.toList_append, String.toList_append, String.toList_intercalate, tokens]
    exact .mark (marks_of_mark? rfl) (inside.append_mark (marks_of_mark? rfl) .nil)
  | @object members keys _ each =>
    have inside := Scans.intercalate (Scans.members keys each)
    rw [render, String.toList_append, String.toList_append, String.toList_intercalate, tokens]
    exact .mark (marks_of_mark? rfl) (inside.append_mark (marks_of_mark? rfl) .nil)

/-- A whole text is scanned with a blank behind it. -/
theorem Value.Printable.scan_render {v : Value} (printable : v.Printable) :
    Token.scan v.render = some v.tokens := by
  have scanned := printable.scans_render [] ' ' [] (by rintro (_ | _) <;> rfl)
  have ended : (v.render.toList.foldlM Token.step {}).bind (Token.step · ' ') =
      some ⟨v.tokens.reverse ++ [], .between⟩ := by
    simp only [List.foldlM_append, List.foldlM_cons, List.foldlM_nil, bind_pure] at scanned
    exact scanned
  rw [Token.scan, ended]
  simp only [List.append_nil, List.reverse_reverse]

end SwapPayout.Json
