import StoryExports.Json.Value

/-!
# Records in JSON

A record is an object with fields in any order, or an array of its fields in their order.
-/
namespace StoryExports.Json

/-- The value of a field, if it is there once; `none` if it repeats. -/
def single? (name : Text) (fields : List (Option Text × Json)) : Option (Option Json) :=
  match fields.filter fun f => f.1 == some name with
  | [] => some none
  | [f] => some (some f.2)
  | _ => none

/-- The fields of a record in the order of their names. `strict` refuses other fields. -/
def record? (names : List Text) (strict : Bool) : Json → Option (List (Option Json))
  | .object fields =>
    if fields.all (fun f => match f.1 with
      | some key => !strict || names.contains key
      | none => false) then names.mapM fun name => single? name fields
    else none
  | .array items =>
    if items.length ≤ names.length then
      some (items.map some ++ List.replicate (names.length - items.length) none)
    else none
  | _ => none

/-- The tag of a tagged record and the record without it. The tag is the field `type`, or the first
item of an array. -/
def tagged? : Json → Option (Text × Json)
  | .object fields =>
    match single? "type".toList fields with
    | some (some (.string (some tag))) =>
      some (tag, .object (fields.filter fun f => f.1 != some "type".toList))
    | _ => none
  | .array (.string (some tag) :: items) => some (tag, .array items)
  | _ => none

/-- A field that has to be there. -/
def required {α : Type} (decode : Json → Option α) (field : Option Json) : Option α :=
  field.bind decode

/-- A field that has a value if it is missing. -/
def defaulted {α : Type} (fallback : α) (decode : Json → Option α) : Option Json → Option α
  | none => some fallback
  | some j => decode j

/-- A field that may be missing or `null`. -/
def nullable {α : Type} (decode : Json → Option α) : Option Json → Option (Option α)
  | none | some .null => some none
  | some j => (decode j).map some

def natural? : Json → Option Nat
  | .number (.natural n) => some n
  | _ => none

def listOf {α : Type} (decode : Json → Option α) : Json → Option (List α)
  | .array items => items.mapM decode
  | _ => none

end StoryExports.Json
