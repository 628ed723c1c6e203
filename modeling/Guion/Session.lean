import Guion.Interpreter
import Guion.Text.Blank

/-! Sessions: source texts that are run one after the other and share their variables. -/

namespace Guion

/-- The variables of a session, and its limit on nested calls. -/
structure Session where
  limit : Nat
  scope : Scope
  store : Store

namespace Session

/-- A session without variables. -/
def new (limit : Nat) : Session :=
  let (scope, store) := Store.empty.root
  ⟨limit, scope, store⟩

/-- Runs the next source text. -/
def eval (session : Session) (source : String) : Except (List ParseError) Value × Session :=
  let (result, store) := interpret session.limit source session.scope session.store
  (result, { session with store })

/-- The value of a variable of the session. -/
def get? (session : Session) (name : String) : Option Value :=
  session.store.heap.lookup session.scope name

end Session

/-- Whether a line asks to end the session. -/
def isExitCommand (line : String) : Bool :=
  Text.trim line.toList == "salir()".toList

end Guion
