import ExecutionHandoff.Library.Json
import ExecutionHandoff.Library.NumberConversion

/-!
# Numbers converted from JSON values

`Number(value)` of what came out of a JSON text.  An array or an object is
converted by way of its text.  No field of such an object can be called, so one
with a `toString` of its own has no text at all and the conversion throws.
-/

namespace ExecutionHandoff.Library

namespace JsonValue

mutual

/-- The conversion to a text throws. -/
def textless {ν : Type*} : JsonValue ν → Bool
  | .array items => anyTextless items
  | .object fields => fields.any fun field => field.1 == JsString.ascii "toString"
  | _ => false

def anyTextless {ν : Type*} : List (JsonValue ν) → Bool
  | [] => false
  | item :: items => textless item || anyTextless items

end

/-- The number of a value that has a text, unless it is not finite.  An array is written as its
items between commas, null as nothing: one item stands for itself, but `true` and `false` are words,
and several make no number. -/
def toNumber : JsonValue (Option ℚ) → Option ℚ
  | .null => some 0
  | .boolean value => some (if value then 1 else 0)
  | .number value => value
  | .string text => stringToNumber text
  | .array [] => some 0
  | .array [.boolean _] => none
  | .array [item] => toNumber item
  | .array _ => none
  | .object _ => none

/-- `Number(value)`, of a field that may be missing. -/
def numberOf : Option (JsonValue (Option ℚ)) → Except String (Option ℚ)
  | none => .ok none
  | some value =>
      if textless value then .error "Cannot convert object to primitive value"
      else .ok (toNumber value)

end JsonValue

end ExecutionHandoff.Library
