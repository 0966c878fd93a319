import Mathlib.Algebra.GroupWithZero.Nat
import Mathlib.Data.List.DropRight

/-!
# Text as ECMAScript sees it

Strings are compared by content and measured in UTF-16 code units.  `trim`
removes the white space and line terminators of the language from both ends.
-/

namespace ExecutionHandoff.Library

/-- White space and line terminators, as `String.prototype.trim` removes them. -/
def whiteSpace (c : Char) : Bool :=
  let code := c.toNat
  (9 ≤ code && code ≤ 13) || code == 0x20 || code == 0xA0 || code == 0x1680
    || (0x2000 ≤ code && code ≤ 0x200A) || code == 0x2028 || code == 0x2029
    || code == 0x202F || code == 0x205F || code == 0x3000 || code == 0xFEFF

def trim (text : String) : String :=
  String.ofList ((text.toList.dropWhile whiteSpace).rdropWhile whiteSpace)

/-- The length in UTF-16 code units. -/
def codeUnits (text : String) : Nat :=
  (text.toList.map fun c => if 0x10000 ≤ c.toNat then 2 else 1).sum

/-- Some character of the text is one of the listed ones. -/
def containsAny (listed : List Char) (text : String) : Bool :=
  text.toList.any fun c => listed.contains c

/-- `Number.isSafeInteger` on an integer. -/
def isSafeInteger (value : Int) : Bool :=
  decide (-9007199254740991 ≤ value) && decide (value ≤ 9007199254740991)

end ExecutionHandoff.Library
