/-!
# JSON values

A tree as it was written: numbers keep their literal, members keep their order and their
repetitions, and a text that no sequence of characters can stand for is remembered as missing. What
a literal or a repetition means is decided by whoever reads the tree, see `SwapPayout.Json.Record`.
-/

namespace SwapPayout.Json

/-- A JSON value. -/
inductive Value where
  | null
  | bool (value : Bool)
  /-- A number, by its literal. -/
  | number (literal : String)
  /-- A text, or `none` when its escapes hold half of a surrogate pair. -/
  | string (text : Option String)
  | array (items : List Value)
  | object (members : List (Option String × Value))
  deriving Repr, Inhabited

namespace Value

def text? : Value → Option String
  | string text => text
  | _ => none

def bool? : Value → Option Bool
  | bool b => some b
  | _ => none

/-- A natural number, when it is written in plain digits and lies below the bound. -/
def natBelow? (bound : Nat) : Value → Option Nat
  | number literal => literal.toNat?.filter (· < bound)
  | _ => none

def items? : Value → Option (List Value)
  | array items => some items
  | _ => none

/-- The members of an object, when every key is a text. -/
def members? : Value → Option (List (String × Value))
  | object members => members.mapM fun (key, value) => key.map (·, value)
  | _ => none

/-- The value of a key in an object; of a repeated key, the last. -/
def get? (key : String) : Value → Option Value
  | object members => (members.reverse.find? (·.1 == some key)).map (·.2)
  | _ => none

def ofString (s : String) : Value := string (some s)

def ofInt (n : Int) : Value := number (toString n)

def ofMembers (members : List (String × Value)) : Value :=
  object (members.map fun (key, value) => (some key, value))

end Value

end SwapPayout.Json
