import StoryExports.Text.Basic

/-!
# JSON values

Values are told apart as far as anything here depends on it.
-/
namespace StoryExports

/-- A number in JSON. -/
inductive JsonNumber
  /-- An integer from zero on, in 64 bits, written without sign, point and exponent. -/
  | natural (n : Nat)
  | real
  /-- Beyond the largest double. -/
  | tooLarge
deriving DecidableEq, Repr

/-- A JSON value. A string has no text if it holds half of a surrogate pair. The fields of an
object are in the order of the text and may repeat. -/
inductive Json
  | null
  | bool (value : Bool)
  | number (value : JsonNumber)
  | string (value : Option Text)
  | array (items : List Json)
  | object (fields : List (Option Text × Json))
deriving Repr, Inhabited

namespace Json

mutual

/-- Whether a value can be held in memory: every string has a text, every number is in the range
of doubles, and arrays and objects are nested at most `depth` deep. -/
def isKept (depth : Nat) : Json → Bool
  | .null | .bool _ => true
  | .number n => n != .tooLarge
  | .string s => s.isSome
  | .array items => depth != 0 && areItemsKept (depth - 1) items
  | .object fields => depth != 0 && areFieldsKept (depth - 1) fields

def areItemsKept (depth : Nat) : List Json → Bool
  | [] => true
  | item :: items => item.isKept depth && areItemsKept depth items

def areFieldsKept (depth : Nat) : List (Option Text × Json) → Bool
  | [] => true
  | (key, value) :: fields => key.isSome && value.isKept depth && areFieldsKept depth fields

end

/-- The field that a key stands for: the last one of that name. -/
def get? (key : String) : Json → Option Json
  | .object fields => (fields.reverse.find? fun f => f.1 == some key.toList).map (·.2)
  | _ => none

def text? : Json → Option Text
  | .string s => s
  | _ => none

def items? : Json → Option (List Json)
  | .array items => some items
  | _ => none

end Json

end StoryExports
