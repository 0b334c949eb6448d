import Mudline.Expr.Lexeme
import Mudline.Expr.Value

/-!
# Expressions

The tree of an expression, its errors, and its parser. The parser keeps a stack of what waits for an
operand to its right: an open parenthesis, a unary operator, or a binary operator with its left
operand. An operator first takes what binds at least as tightly, so all levels group to the left.
-/

namespace Mudline

namespace Expr

/-- The operators with two operands. -/
inductive BinaryOp
  | add | sub | mul | div | rem
  | eq | ne | lt | le | gt | ge
  | and | or
  deriving DecidableEq, Repr

/-- The operators with one operand. -/
inductive UnaryOp
  | neg | not
  deriving DecidableEq, Repr

/-- How tightly an operator binds. -/
def BinaryOp.level : BinaryOp → Nat
  | .or => 0
  | .and => 1
  | .eq | .ne | .lt | .le | .gt | .ge => 2
  | .add | .sub => 3
  | .mul | .div | .rem => 4

/-- The name of an operator in diagnostics. -/
def BinaryOp.name : BinaryOp → Text
  | .add => "Add"
  | .sub => "Sub"
  | .mul => "Mul"
  | .div => "Div"
  | .rem => "Rem"
  | .eq => "Eq"
  | .ne => "Ne"
  | .lt => "Lt"
  | .le => "Le"
  | .gt => "Gt"
  | .ge => "Ge"
  | .and => "And"
  | .or => "Or"

/-- The operator that a lexeme stands for between two operands. -/
def Lexeme.binaryOp? : Lexeme → Option BinaryOp
  | .plus => some .add
  | .minus => some .sub
  | .star => some .mul
  | .slash => some .div
  | .percent => some .rem
  | .eq => some .eq
  | .ne => some .ne
  | .lt => some .lt
  | .le => some .le
  | .gt => some .gt
  | .ge => some .ge
  | .and => some .and
  | .or => some .or
  | _ => none

end Expr

/-- An expression. -/
inductive Expr
  /-- A word or a quoted string. -/
  | literal (v : Value)
  /-- An operator before its operand. -/
  | unary (op : Expr.UnaryOp) (operand : Expr)
  /-- An operator between its operands. -/
  | binary (op : Expr.BinaryOp) (left right : Expr)
  deriving Inhabited

namespace Expr

/-- What can be wrong with an expression. -/
inductive Error
  /-- A character begins no lexeme. -/
  | unexpectedCharacter (c : Char)
  /-- The expression ends where an operand is due. -/
  | unexpectedEnd
  /-- A parenthesis is not closed. -/
  | expectedParen
  /-- A lexeme stands where an operand is due. -/
  | unexpected (l : Lexeme)
  /-- A lexeme follows a complete expression. -/
  | trailing (l : Lexeme)
  /-- A value other than a number is negated. -/
  | cannotNegate (v : Value)
  /-- An arithmetical operator has an operand other than a number. -/
  | cannotApply (op : BinaryOp) (a b : Value)
  /-- A divisor is zero. -/
  | divisionByZero
  /-- A number is due, and the value is none. -/
  | notNumber (v : Value)

/-- A text between single quotes. -/
def singleQuoted (t : Text) : Text :=
  '\'' :: t ++ ['\'']

/-- The report of an error. -/
def Error.message : Error → Text
  | unexpectedCharacter c => "unexpected character ".toList ++ singleQuoted [c]
  | unexpectedEnd => "unexpected end of expression"
  | expectedParen => "expected ')'"
  | unexpected l => "unexpected token ".toList ++ l.describe
  | trailing l => "unexpected trailing token ".toList ++ l.describe
  | cannotNegate v => "cannot negate ".toList ++ singleQuoted v.display
  | cannotApply op a b =>
    "cannot apply ".toList ++ op.name ++ " to ".toList ++ singleQuoted a.display ++ " and ".toList
      ++ singleQuoted b.display
  | divisionByZero => "division by zero"
  | notNumber v => singleQuoted v.display ++ " is not a number".toList

/-- What waits for an operand to its right. -/
inductive Pending
  /-- An open parenthesis. -/
  | paren
  /-- An operator before its operand. -/
  | unary (op : UnaryOp)
  /-- An operator with its left operand. -/
  | binary (op : BinaryOp) (left : Expr)

/-- What the parser has just read. -/
inductive Place
  /-- Nothing that could be an operand: one is due. -/
  | operand
  /-- Words, which are one operand together. -/
  | words (ws : List Text)
  /-- A complete operand. -/
  | operator (e : Expr)

/-- Gives an operand to all that waits for it and binds at least as tightly as `level`. -/
def reduce (level : Nat) (e : Expr) : List Pending → Expr × List Pending
  | .unary op :: stack => reduce level (.unary op e) stack
  | .binary op left :: stack =>
    if level ≤ op.level then reduce level (.binary op left e) stack
    else (e, .binary op left :: stack)
  | stack => (e, stack)

/-- The operand that words stand for: one word is read as a value, several are a text. -/
def ofWords : List Text → Expr
  | [word] => .literal (Value.parse word)
  | ws => .literal (.text (Text.join [' '] ws))

/-- Reads a lexeme after a complete operand. -/
def afterOperand (e : Expr) (stack : List Pending) (l : Lexeme) :
    Except Error (List Pending × Place) :=
  match l.binaryOp? with
  | some op =>
    let (e, stack) := reduce op.level e stack
    .ok (.binary op e :: stack, .operand)
  | none =>
    match reduce 0 e stack with
    | (e, .paren :: stack) =>
      if l == .rparen then .ok (stack, .operator e) else .error .expectedParen
    | _ => .error (.trailing l)

/-- Reads one lexeme. -/
def advance (stack : List Pending) (place : Place) (l : Lexeme) :
    Except Error (List Pending × Place) :=
  match place with
  | .operand =>
    match l with
    | .bang => .ok (.unary .not :: stack, .operand)
    | .minus => .ok (.unary .neg :: stack, .operand)
    | .plus => .ok (stack, .operand)
    | .lparen => .ok (.paren :: stack, .operand)
    | .str t => .ok (stack, .operator (.literal (.text t)))
    | .word w => .ok (stack, .words [w])
    | .eof => .error .unexpectedEnd
    | l => .error (.unexpected l)
  | .words ws =>
    match l with
    | .word w => .ok (stack, .words (ws ++ [w]))
    | l => afterOperand (ofWords ws) stack l
  | .operator e => afterOperand e stack l

/-- Ends the expression after a complete operand. -/
def finishWith (e : Expr) (stack : List Pending) : Except Error Expr :=
  match reduce 0 e stack with
  | (e, []) => .ok e
  | _ => .error .expectedParen

/-- Ends the expression. -/
def finish (stack : List Pending) : Place → Except Error Expr
  | .operand => .error .unexpectedEnd
  | .words ws => finishWith (ofWords ws) stack
  | .operator e => finishWith e stack

/-- Reads lexemes up to the end of the expression. -/
def parseFrom (stack : List Pending) (place : Place) : List Lexeme → Except Error Expr
  | [] => finish stack place
  | .eof :: _ => finish stack place
  | l :: rest => do
    let (stack, place) ← advance stack place l
    parseFrom stack place rest

/-- The expression that lexemes spell. -/
def ofLexemes (ls : List Lexeme) : Except Error Expr :=
  parseFrom [] .operand ls

/-- The expression that a text spells. -/
def parse (t : Text) : Except Error Expr :=
  match lex t with
  | .ok placed => ofLexemes (placed.map (·.lexeme))
  | .error c => .error (.unexpectedCharacter c)

end Expr

end Mudline
