import Guion.Recursion
import Guion.Program.Size
import Guion.Text.Quoted

/-! The text of a program.

Every operation stands in parentheses and every statement ends in a semicolon, so the text can be
read in one way only. Main statements: one equation for the text of each kind of node.
-/

namespace Guion

open Text

namespace Printing

open Size

/-- A part of a program to be written behind the text `out`. -/
inductive Part where
  | expression (e : Expression) (out : String)
  | statement (s : Statement) (out : String)
  | statements (ss : List Statement) (out : String)
  | arguments (es : List Expression) (out : String)

namespace Part

/-- The size of the tree that is to be written. -/
@[simp]
noncomputable def size : Part → Nat
  | expression e _ => sizeOf e
  | statement s _ => sizeOf s
  | statements ss _ => sizeOf ss
  | arguments es _ => sizeOf es

def out : Part → String
  | expression _ out | statement _ out | statements _ out | arguments _ out => out

/-- The same tree behind another text. -/
def behind (out : String) : Part → Part
  | expression e _ => expression e out
  | statement s _ => statement s out
  | statements ss _ => statements ss out
  | arguments es _ => arguments es out

end Part

/-- Parts are written from parts with smaller trees. -/
abbrev lower (a b : Part) : Prop :=
  a.size < b.size

theorem lower_wellFounded : WellFounded lower :=
  InvImage.wf Part.size Nat.lt_wfRel.wf

theorem lower_of_size {a b : Part} (smaller : a.size < b.size) : lower a b :=
  smaller

/-- A text to which a part of the program may still add. -/
abbrev Writing (allowed : Part → Prop) := Plan (fun _ : Part => String) allowed String

/-- Writes a block; `next` goes on behind it. -/
def block {allowed : Part → Prop} (ss : List Statement)
    (smaller : ∀ out, allowed (.statements ss out)) (out : String)
    (next : String → Writing allowed)
    : Writing allowed :=
  if ss.isEmpty then
    next (out ++ "\x7b \x7d")
  else
    .ask (.statements ss (out ++ "\x7b ")) (smaller _) fun out => next (out ++ " \x7d")

/-- The text of a part, from the texts of smaller parts. -/
def body (part : Part) : Writing (lower · part) :=
  match part with
  | .expression (.identifier name) out => .done (out ++ name)
  | .expression (.integer value) out => .done (out ++ value.text)
  | .expression (.boolean true) out => .done (out ++ "verdadero")
  | .expression (.boolean false) out => .done (out ++ "falso")
  | .expression (.string value) out => .done (out ++ Quoted.quote Quoted.literal value)
  | .expression (.unary operator operand) out =>
    .ask (.expression operand (out ++ "(" ++ operator.symbol))
      (lower_of_size (operand_lt_unary ..)) fun out =>
    .done (out ++ ")")
  | .expression (.binary left operator right) out =>
    .ask (.expression left (out ++ "(")) (lower_of_size (left_lt_binary ..)) fun out =>
    .ask (.expression right (out ++ " " ++ operator.symbol ++ " "))
      (lower_of_size (right_lt_binary ..)) fun out =>
    .done (out ++ ")")
  | .expression (.conditional condition consequence alternative) out =>
    .ask (.expression condition (out ++ "si ("))
      (lower_of_size (condition_lt_conditional ..)) fun out =>
    block consequence (fun _ => lower_of_size (consequence_lt_conditional ..)) (out ++ ") ")
      fun out =>
    match alternative with
    | none => .done out
    | some alternative =>
      block alternative (fun _ => lower_of_size (alternative_lt_conditional ..))
        (out ++ " si_no ") .done
  | .expression (.function parameters body) out =>
    block body (fun _ => lower_of_size (body_lt_function ..))
      (out ++ "procedimiento(" ++ String.intercalate ", " parameters ++ ") ") .done
  | .expression (.call callee arguments) out =>
    .ask (.expression callee out) (lower_of_size (callee_lt_call ..)) fun out =>
    .ask (.arguments arguments (out ++ "(")) (lower_of_size (arguments_lt_call ..)) fun out =>
    .done (out ++ ")")
  | .statement (.declare name value) out =>
    .ask (.expression value (out ++ "variable " ++ name ++ " = "))
      (lower_of_size (value_lt_declare ..)) fun out =>
    .done (out ++ ";")
  | .statement (.returning value) out =>
    .ask (.expression value (out ++ "regresa ")) (lower_of_size (value_lt_returning ..))
      fun out =>
    .done (out ++ ";")
  | .statement (.expression value) out =>
    .ask (.expression value out) (lower_of_size (value_lt_expression ..)) fun out =>
    .done (out ++ ";")
  | .statements [] out => .done out
  | .statements (s :: ss) out =>
    .ask (.statement s out) (lower_of_size (first_lt_cons ..)) fun out =>
    if ss.isEmpty then
      .done out
    else
      .ask (.statements ss (out ++ " ")) (lower_of_size (rest_lt_cons ..)) .done
  | .arguments [] out => .done out
  | .arguments (e :: es) out =>
    .ask (.expression e out) (lower_of_size (first_lt_cons ..)) fun out =>
    if es.isEmpty then
      .done out
    else
      .ask (.arguments es (out ++ ", ")) (lower_of_size (rest_lt_cons ..)) .done

/-- The text in front of a part and the text of the part. -/
def print (part : Part) : String :=
  Plan.run lower_wellFounded body part

theorem print_eq (part : Part) : print part = (body part).result print :=
  Plan.run_eq lower_wellFounded body part

end Printing

open Printing

/-- The text of an expression. -/
def Expression.text (e : Expression) : String :=
  print (.expression e "")

/-- The text of a statement. -/
def Statement.text (s : Statement) : String :=
  print (.statement s "")

namespace Program

/-- The text of a program: its statements with a space between any two. -/
def text (program : Program) : String :=
  print (.statements program "")

end Program

namespace Printing

open Size

/-- The text of argument expressions, with commas between them. -/
def argumentsText (es : List Expression) : String :=
  print (.arguments es "")

/-- The text of a block. -/
def blockText (ss : Block) : String :=
  if ss.isEmpty then "\x7b \x7d" else "\x7b " ++ Program.text ss ++ " \x7d"

/-- The text of a part by itself. -/
def Part.text : Part → String
  | expression e _ => e.text
  | statement s _ => s.text
  | statements ss _ => Program.text ss
  | arguments es _ => argumentsText es

@[simp]
theorem result_block {allowed : Part → Prop} (ss : List Statement)
    (smaller : ∀ out, allowed (.statements ss out)) (out : String)
    (next : String → Writing allowed)
    (written : ∀ out, print (.statements ss out) = out ++ Program.text ss)
    : (block ss smaller out next).result print = (next (out ++ blockText ss)).result print := by
  unfold block blockText
  split <;> simp [written, String.append_assoc]

/-- A part is written behind the text in front of it. -/
theorem print_eq_append (part : Part) : print part = part.out ++ part.text := by
  induction part using lower_wellFounded.induction with
  | _ part ih =>
    have he := fun e o h => ih (.expression e o) h
    have hs := fun s o h => ih (.statement s o) h
    have hss := fun ss o h => ih (.statements ss o) h
    have hes := fun es o h => ih (.arguments es o) h
    simp only [Part.out, Part.text] at he hs hss hes
    cases part with
    | expression e out =>
      change _ = out ++ print (.expression e "")
      rw [print_eq, print_eq (.expression e "")]
      cases e with
      | identifier | integer | string => simp [body]
      | boolean b => cases b <;> simp [body]
      | unary operator operand =>
        have ho := fun o => he operand o (operand_lt_unary ..)
        simp [body, ho, String.append_assoc]
      | binary left operator right =>
        have hl := fun o => he left o (left_lt_binary ..)
        have hr := fun o => he right o (right_lt_binary ..)
        simp [body, hl, hr, String.append_assoc]
      | conditional condition consequence alternative =>
        have hi := fun o => he condition o (condition_lt_conditional ..)
        have hc := fun o => hss consequence o (consequence_lt_conditional ..)
        cases alternative with
        | none => simp [body, hi, result_block _ _ _ _ hc, String.append_assoc]
        | some alternative =>
          have ha := fun o => hss alternative o (alternative_lt_conditional ..)
          simp [body, hi, result_block _ _ _ _ hc, result_block _ _ _ _ ha,
            String.append_assoc]
      | function parameters code =>
        have hc := fun o => hss code o (body_lt_function ..)
        simp [body, result_block _ _ _ _ hc, String.append_assoc]
      | call callee arguments =>
        have hc := fun o => he callee o (callee_lt_call ..)
        have ha := fun o => hes arguments o (arguments_lt_call ..)
        simp [body, hc, ha, String.append_assoc]
    | statement s out =>
      change _ = out ++ print (.statement s "")
      rw [print_eq, print_eq (.statement s "")]
      cases s with
      | declare name value =>
        have hv := fun o => he value o (value_lt_declare name value)
        simp [body, hv, String.append_assoc]
      | returning value =>
        have hv := fun o => he value o (value_lt_returning value)
        simp [body, hv, String.append_assoc]
      | expression value =>
        have hv := fun o => he value o (value_lt_expression value)
        simp [body, hv, String.append_assoc]
    | statements ss out =>
      change _ = out ++ print (.statements ss "")
      rw [print_eq, print_eq (.statements ss "")]
      cases ss with
      | nil => simp [body]
      | cons s ss =>
        have hf := fun o => hs s o (first_lt_cons ..)
        have hr := fun o => hss ss o (rest_lt_cons ..)
        by_cases h : ss.isEmpty <;> simp [body, hf, hr, h, String.append_assoc]
    | arguments es out =>
      change _ = out ++ print (.arguments es "")
      rw [print_eq, print_eq (.arguments es "")]
      cases es with
      | nil => simp [body]
      | cons e es =>
        have hf := fun o => he e o (first_lt_cons ..)
        have hr := fun o => hes es o (rest_lt_cons ..)
        by_cases h : es.isEmpty <;> simp [body, hf, hr, h, String.append_assoc]

@[simp]
theorem print_expression (e : Expression) (out : String)
    : print (.expression e out) = out ++ e.text :=
  print_eq_append _

@[simp]
theorem print_statement (s : Statement) (out : String)
    : print (.statement s out) = out ++ s.text :=
  print_eq_append _

@[simp]
theorem print_statements (ss : List Statement) (out : String)
    : print (.statements ss out) = out ++ Program.text ss :=
  print_eq_append _

@[simp]
theorem print_arguments (es : List Expression) (out : String)
    : print (.arguments es out) = out ++ argumentsText es :=
  print_eq_append _

private theorem text_expression (e : Expression)
    : e.text = (body (.expression e "")).result print :=
  print_eq _

private theorem text_statement (s : Statement)
    : s.text = (body (.statement s "")).result print :=
  print_eq _

private theorem text_statements (ss : List Statement)
    : Program.text ss = (body (.statements ss "")).result print :=
  print_eq _

private theorem text_arguments (es : List Expression)
    : argumentsText es = (body (.arguments es "")).result print :=
  print_eq _

@[simp]
theorem argumentsText_nil : argumentsText [] = "" := by
  simp [text_arguments, body]

@[simp]
theorem argumentsText_singleton (e : Expression) : argumentsText [e] = e.text := by
  simp [text_arguments, body]

@[simp]
theorem argumentsText_cons_cons (e next : Expression) (es : List Expression)
    : argumentsText (e :: next :: es) = e.text ++ ", " ++ argumentsText (next :: es) := by
  simp [text_arguments (e :: _), body]

end Printing

namespace Program

open Printing

@[simp]
theorem text_nil : text [] = "" := by
  simp [text_statements, body]

@[simp]
theorem text_singleton (s : Statement) : text [s] = s.text := by
  simp [text_statements, body]

@[simp]
theorem text_cons_cons (s next : Statement) (ss : List Statement)
    : text (s :: next :: ss) = s.text ++ " " ++ text (next :: ss) := by
  simp [text_statements (s :: _), body]

end Program

namespace Statement

open Printing

@[simp]
theorem text_declare (name : String) (value : Expression)
    : (declare name value).text = "variable " ++ name ++ " = " ++ value.text ++ ";" := by
  simp [text_statement, body]

@[simp]
theorem text_returning (value : Expression)
    : (returning value).text = "regresa " ++ value.text ++ ";" := by
  simp [text_statement, body]

@[simp]
theorem text_expression (value : Expression)
    : (expression value).text = value.text ++ ";" := by
  simp [text_statement, body]

end Statement

namespace Expression

open Printing

@[simp]
theorem text_identifier (name : String) : (identifier name).text = name := by
  simp [Printing.text_expression, body]

@[simp]
theorem text_integer (value : Integer) : (integer value).text = value.text := by
  simp [Printing.text_expression, body]

@[simp]
theorem text_boolean (value : Bool)
    : (boolean value).text = if value then "verdadero" else "falso" := by
  cases value <;> simp [Printing.text_expression, body]

@[simp]
theorem text_string (value : String)
    : (string value).text = Quoted.quote Quoted.literal value := by
  simp [Printing.text_expression, body]

@[simp]
theorem text_unary (operator : UnaryOperator) (operand : Expression)
    : (unary operator operand).text = "(" ++ operator.symbol ++ operand.text ++ ")" := by
  simp [Printing.text_expression (unary ..), body]

@[simp]
theorem text_binary (left : Expression) (operator : BinaryOperator) (right : Expression)
    : (binary left operator right).text
      = "(" ++ left.text ++ " " ++ operator.symbol ++ " " ++ right.text ++ ")" := by
  simp [Printing.text_expression (binary ..), body, String.append_assoc]

@[simp]
theorem text_conditional (condition : Expression) (consequence : Block)
    (alternative : Option Block)
    : (conditional condition consequence alternative).text
      = "si (" ++ condition.text ++ ") " ++ blockText consequence
        ++ (alternative.elim "" fun block => " si_no " ++ blockText block) := by
  cases alternative <;>
    simp [Printing.text_expression (conditional ..), body, String.append_assoc]

@[simp]
theorem text_function (parameters : List String) (code : Block)
    : (function parameters code).text
      = "procedimiento(" ++ String.intercalate ", " parameters ++ ") " ++ blockText code := by
  simp [Printing.text_expression (function ..), body]

@[simp]
theorem text_call (callee : Expression) (arguments : List Expression)
    : (call callee arguments).text = callee.text ++ "(" ++ argumentsText arguments ++ ")" := by
  simp [Printing.text_expression (call ..), body]

end Expression

end Guion
