import Mudline.Expr.Syntax

/-!
# Evaluating expressions

The connectives look at their right operand only when the left one does not decide. Arithmetic is on
numbers alone, and every comparison yields a boolean.
-/

namespace Mudline.Expr

/-- The result of an arithmetical operator on two numbers. -/
def arithmetic (op : BinaryOp) (x y : Float) : Except Error Float :=
  match op with
  | .add => .ok (x + y)
  | .sub => .ok (x - y)
  | .mul => .ok (x * y)
  | .div => if y == 0.0 then .error .divisionByZero else .ok (x / y)
  | _ => if y == 0.0 then .error .divisionByZero else .ok (Number.remainder x y)

/-- The result of an operator on two values. -/
def apply (op : BinaryOp) (a b : Value) : Except Error Value :=
  match op with
  | .eq => .ok (.bool (a.looseEq b))
  | .ne => .ok (.bool (!a.looseEq b))
  | .lt => .ok (.bool (a.order b == .lt))
  | .le => .ok (.bool (a.order b != .gt))
  | .gt => .ok (.bool (a.order b == .gt))
  | .ge => .ok (.bool (a.order b != .lt))
  | .and => .ok (.bool (a.holds && b.holds))
  | .or => .ok (.bool (a.holds || b.holds))
  | op =>
    match a.asNumber?, b.asNumber? with
    | some x, some y => (arithmetic op x y).map .number
    | _, _ => .error (.cannotApply op a b)

/-- The value of an expression. -/
def eval : Expr → Except Error Value
  | .literal v => .ok v
  | .unary .not e => do return .bool !(← e.eval).truthy
  | .unary .neg e => do
    match ← e.eval with
    | .number x => return .number (-x)
    | v => throw (.cannotNegate v)
  | .binary .and a b => do
    let left ← a.eval
    if left.holds then return .bool (← b.eval).holds else return .bool false
  | .binary .or a b => do
    let left ← a.eval
    if left.holds then return .bool true else return .bool (← b.eval).holds
  | .binary op a b => do
    let left ← a.eval
    let right ← b.eval
    apply op left right

/-- The value of the expression that a text spells. -/
def evaluate (t : Text) : Except Error Value := do
  (← parse t).eval

/-- Whether the expression holds. What cannot be evaluated does not. -/
def evaluateLogic (t : Text) : Bool :=
  match evaluate t with
  | .ok v => v.truthy
  | .error _ => false

/-- The number that the expression yields. -/
def evaluateNumber (t : Text) : Except Error Float := do
  match ← evaluate t with
  | .number x => return x
  | v => throw (.notNumber v)

end Mudline.Expr
