import Mudline.Expr.Eval
import Mudline.Formula.Function
import Mudline.Formula.Syntax

/-!
# Evaluating formulas

The results of calls are put back into the text around them, quoted where they would not read as one
operand, and the whole is evaluated as one expression. An argument without quotes is evaluated first
when it holds calls itself.
-/

namespace Mudline

/-- The outcome of an evaluation. -/
structure Outcome where
  /-- The text that was evaluated, for diagnostics. -/
  text : Text
  /-- The result. -/
  result : Text
  /-- The groups of the matches that were made. -/
  groups : List Text := []
  deriving DecidableEq, Repr

namespace Formula

/-- The characters by which a text does not read as one operand. -/
def breaksOperand (c : Char) : Bool :=
  Text.isBlank c || c == '(' || c == ')' || c == '=' || c == '!' || c == '<' || c == '>'
    || c == '+' || c == '*' || c == '/' || c == '&' || c == '|' || c == '%'

/-- Puts quotes around a result that does not read as one operand, unless it holds a quote. -/
def quoteOperand (t : Text) : Text :=
  if (!t.isEmpty && !t.any breaksOperand) || t.contains '"' then t else '"' :: t ++ ['"']

/-- Makes an expression evaluated in one of the three ways into an outcome. -/
def evalPlain (value : Text → Text) (t : Text) : Outcome :=
  ⟨t, value t, []⟩

/-- The text that an expression yields. What is no expression yields itself, without the quotes
around it. -/
def textValue (t : Text) : Text :=
  match Expr.evaluate t with
  | .ok v => v.display
  | .error _ => Function.trimQuotes (Text.trim t)

/-- The word for whether an expression holds. -/
def boolValue (t : Text) : Text :=
  Value.boolText (Expr.evaluateLogic t)

/-- The number that an expression yields; what yields none counts as zero. -/
def numberValue (t : Text) : Text :=
  match Expr.evaluateNumber t with
  | .ok x => Number.format x
  | .error _ => "0"

/-- What an evaluation needs from outside: which shared variables are set, and what an argument
without quotes stands for, with the groups of the matches made on the way. -/
structure Context where
  /-- Whether a shared variable is set. -/
  known : Text → Bool
  /-- What an argument stands for. -/
  resolve : Text → Text × List Text

/-- How a call is shown in diagnostics. -/
def showCall (name : Text) (args : List Text) : Text :=
  name ++ '(' :: Text.join ", " (args.map fun a => '"' :: Function.trimQuotes a ++ ['"']) ++ [')']

/-- Runs a call. A call that fails yields the report as the result, without groups. -/
def evalCall (ctx : Context) (name : Text) (args : List Text) : Except Outcome Outcome :=
  let resolved := args.map fun a => if a.head? == some '"' then (a, []) else ctx.resolve a
  let args := resolved.map (·.1)
  match Function.call ctx.known name args with
  | .ok out => .ok ⟨showCall name args, out.text, resolved.flatMap (·.2) ++ out.groups⟩
  | .error e => .error ⟨name, e.message, []⟩

/-- The outcome of a call, whether it fails or not. -/
def callOutcome (ctx : Context) (name : Text) (args : List Text) : Outcome :=
  match evalCall ctx name args with
  | .ok r => r
  | .error r => r

mutual

/-- Evaluates a formula to a text. -/
def evalText (ctx : Context) : Formula → Outcome
  | plain t => evalPlain textValue t
  | call name args => callOutcome ctx name args
  | sequence parts =>
    let (joined, groups) := splice ctx parts
    { evalPlain textValue joined with groups }

/-- Puts the results of calls into the text between them, and collects the groups. -/
def splice (ctx : Context) : List Formula → Text × List Text
  | [] => ([], [])
  | plain t :: parts =>
    let (joined, groups) := splice ctx parts
    (t ++ joined, groups)
  | part :: parts =>
    let r := evalText ctx part
    let (joined, groups) := splice ctx parts
    (quoteOperand r.result ++ joined, r.groups ++ groups)

end

/-- Evaluates a formula as a condition: to the word for a truth value, or to the report of a call
that fails. -/
def evalBool (ctx : Context) : Formula → Outcome
  | plain t => evalPlain boolValue t
  | call name args =>
    match evalCall ctx name args with
    | .ok r => { r with result := Value.boolText (Value.parse r.result).truthy }
    | .error r => r
  | sequence parts =>
    let (joined, groups) := splice ctx parts
    { evalPlain boolValue joined with groups }

/-- Evaluates a formula as arithmetic. A call that stands alone yields its own text. -/
def evalNumber (ctx : Context) : Formula → Outcome
  | plain t => evalPlain numberValue t
  | call name args => callOutcome ctx name args
  | sequence parts =>
    let (joined, groups) := splice ctx parts
    { evalPlain numberValue joined with groups }

/-- What an argument without quotes stands for: the result of its calls, or itself when it holds
none. The number allows for as many calls inside one another. -/
def resolveWithin (known : Text → Bool) : Nat → Text → Text × List Text
  | 0, arg => (arg, [])
  | depth + 1, arg =>
    match parse arg with
    | plain _ => (arg, [])
    | nested =>
      let r := evalText ⟨known, resolveWithin known depth⟩ nested
      (r.result, r.groups)

/-- The context of an evaluation. Calls are nested at most as deeply as there are parentheses. -/
def context (known : Text → Bool) : Context :=
  ⟨known, fun arg => resolveWithin known (arg.count '(') arg⟩

end Formula

end Mudline
