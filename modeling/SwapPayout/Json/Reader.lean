import SwapPayout.Json.Token

/-!
# Reading JSON

From tokens to a tree, one step a token, on a stack of the brackets that are still open. Reading is
strict: exactly one value, separators only between items, nothing after the value but blanks.
-/

namespace SwapPayout.Json

namespace Reader

/-- A bracket that is still open, with what it holds so far, last first. -/
inductive Frame where
  | array (items : List Value)
  | object (members : List (Option String × Value))
  /-- An object in which a key has been read and its value is being read. -/
  | member (key : Option String) (members : List (Option String × Value))

/-- What may come next. -/
inductive Awaiting where
  | value
  /-- The first item of an array, or its end. -/
  | firstItem
  /-- The first key of an object, or its end. -/
  | firstKey
  | key
  | colon
  /-- A comma, or the end of the innermost bracket. -/
  | separator
  | nothing (result : Value)

/-- The open brackets, innermost first, and what may come next. -/
structure State where
  frames : List Frame := []
  awaiting : Awaiting := .value

def settle (v : Value) : List Frame → Option State
  | [] => some ⟨[], .nothing v⟩
  | .array items :: frames => some ⟨.array (v :: items) :: frames, .separator⟩
  | .member key members :: frames => some ⟨.object ((key, v) :: members) :: frames, .separator⟩
  | .object _ :: _ => none

def begin (frames : List Frame) : Token → Option State
  | .leaf v => settle v frames
  | .openArray => some ⟨.array [] :: frames, .firstItem⟩
  | .openObject => some ⟨.object [] :: frames, .firstKey⟩
  | _ => none

def beginMember (key : Option String) : List Frame → Option State
  | .object members :: frames => some ⟨.member key members :: frames, .colon⟩
  | _ => none

def step (s : State) (t : Token) : Option State :=
  match s.awaiting, t, s.frames with
  | .value, t, frames => begin frames t
  | .firstItem, .closeArray, .array _ :: frames => settle (.array []) frames
  | .firstItem, t, frames => begin frames t
  | .firstKey, .closeObject, .object _ :: frames => settle (.object []) frames
  | .firstKey, .leaf (.string key), frames => beginMember key frames
  | .key, .leaf (.string key), frames => beginMember key frames
  | .colon, .colon, frames => some ⟨frames, .value⟩
  | .separator, .comma, .array items :: frames => some ⟨.array items :: frames, .value⟩
  | .separator, .comma, .object members :: frames => some ⟨.object members :: frames, .key⟩
  | .separator, .closeArray, .array items :: frames => settle (.array items.reverse) frames
  | .separator, .closeObject, .object members :: frames => settle (.object members.reverse) frames
  | _, _, _ => none

end Reader

def Value.ofTokens? (tokens : List Token) : Option Value :=
  match tokens.foldlM Reader.step {} with
  | some ⟨_, .nothing v⟩ => some v
  | _ => none

def Value.read? (text : String) : Option Value := (Token.scan text).bind Value.ofTokens?

end SwapPayout.Json
