import Guion.Program.Text
import Guion.Value.Failure

/-! Values: what expressions yield. -/

namespace Guion

/-- A scope is known by the index of its frame. -/
abbrev Scope := Nat

/-- A function value: the literal that made it, the scope where that was evaluated, and a number of
its own.
-/
structure Closure where
  number : Nat
  parameters : List String
  body : Block
  scope : Scope

namespace Closure

/-- The source text of the literal, written anew from its parts. -/
def text (closure : Closure) : String :=
  "procedimiento(" ++ String.intercalate ", " closure.parameters ++ ") "
    ++ Printing.blockText closure.body

end Closure

inductive Value where
  | integer (value : Integer)
  | boolean (value : Bool)
  | string (value : String)
  | function (closure : Closure)
  | builtin (operation : Builtin)
  | error (failure : RuntimeError)
  | null

namespace Value

instance : Inhabited Value := ⟨.null⟩

def kind : Value → Kind
  | .integer _ => .integer
  | .boolean _ => .boolean
  | .string _ => .string
  | .function _ => .function
  | .builtin _ => .builtin
  | .error _ => .error
  | .null => .null

/-- Every value counts as true but `falso` and `nulo`. -/
def isTruthy : Value → Bool
  | .boolean false | .null => false
  | _ => true

/-- Functions are equal if they come from the same evaluation of a literal, and all other values if
they look the same.
-/
def same : Value → Value → Bool
  | .integer a, .integer b => a == b
  | .boolean a, .boolean b => a == b
  | .string a, .string b => a == b
  | .function a, .function b => a.number == b.number
  | .builtin a, .builtin b => a == b
  | .error a, .error b => a == b
  | .null, .null => true
  | _, _ => false

theorem same_refl (value : Value) : same value value = true := by
  cases value <;> simp [same]

/-- The text of a value. A string is its own text. -/
def text : Value → String
  | .integer value => value.text
  | .boolean true => "verdadero"
  | .boolean false => "falso"
  | .string value => value
  | .function closure => closure.text
  | .builtin operation => "builtin " ++ operation.name
  | .error failure => "Error: " ++ failure.message
  | .null => "nulo"

/-- The text of a value in which strings are quoted. -/
def quotedText : Value → String
  | .string value => Text.Quoted.quote Text.Quoted.literal value
  | value => value.text

end Value

end Guion
