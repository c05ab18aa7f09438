import SocAnalyst.Builtins
import SocAnalyst.Doubles

/-!
# Python values

The values `json.loads` returns, with the built-in operations that take a value
of any type: truth, `dict.get`, iteration, `str` and `repr`.
-/
namespace SocAnalyst.Values
open SocAnalyst.Builtins SocAnalyst.Doubles

/-- A value read from JSON. A dictionary keeps its keys in insertion order. -/
inductive Value where
  | null
  | bool (value : Bool)
  | int (value : Int)
  | float (value : PyFloat)
  | str (text : Text)
  | list (items : List Value)
  | dict (entries : List (Text × Value))

/-- An interpreter that also prints floats; which digits it prints is its own business. -/
class Printer extends Interpreter where
  /-- `repr` of a float. -/
  float : PyFloat → Text

/-- The ASCII interpreter, printing floats as whole numbers. -/
@[reducible] def asciiPrinter : Printer :=
  { ascii with float := fun
      | .finite double => lit (toString double.value)
      | .negativeZero => lit "-0.0"
      | .infinite negative => lit (if negative then "-inf" else "inf")
      | .nan => lit "nan" }

/-- The value as a condition reads it. -/
def Value.truthy : Value → Bool
  | .null => false
  | .bool value => value
  | .int value => value ≠ 0
  | .float value => value ≠ .finite 0 ∧ value ≠ .negativeZero
  | .str text => text ≠ []
  | .list items => !items.isEmpty
  | .dict entries => !entries.isEmpty

/-- `dict.get` with no default. -/
def lookup (entries : List (Text × Value)) (key : Text) : Option Value :=
  (entries.find? fun entry => entry.1 = key).map (·.2)

/-- `(value or {}).get(key, default)`. -/
def Value.getOr (value : Value) (key : Text) (default : Value) : Except PyError Value :=
  if !value.truthy then .ok default
  else match value with
    | .dict entries => .ok ((lookup entries key).getD default)
    | _ => .error .AttributeError

/-- What a `for` loop over the value visits. -/
def Value.iterate : Value → Except PyError (List Value)
  | .list items => .ok items
  | .dict entries => .ok (entries.map fun entry => .str entry.1)
  | .str text => .ok (text.map fun c => .str [c])
  | _ => .error .TypeError

section
variable [Printer]

mutual
/-- `repr` of a value. -/
def Value.repr : Value → Text
  | .null => lit "None"
  | .bool value => lit (if value then "True" else "False")
  | .int value => lit (toString value)
  | .float value => Printer.float value
  | .str text => Interpreter.repr text
  | .list items => lit "[" ++ joined (lit ", ") (reprItems items) ++ lit "]"
  | .dict entries => lit "\x7b" ++ joined (lit ", ") (reprEntries entries) ++ lit "\x7d"
def reprItems : List Value → List Text
  | [] => []
  | value :: rest => value.repr :: reprItems rest
def reprEntries : List (Text × Value) → List Text
  | [] => []
  | (key,value) :: rest => (Interpreter.repr key ++ lit ": " ++ value.repr) :: reprEntries rest
end

/-- `str` of a value. -/
def Value.toText : Value → Text
  | .str text => text
  | value => value.repr

@[simp] theorem toText_str (text : Text) : (Value.str text).toText = text := rfl

end
end SocAnalyst.Values
