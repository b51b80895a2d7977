import SymbolSearch.Json.Basic
import SymbolSearch.Number

namespace SymbolSearch

/-- What a value is to arithmetic: a number, a sequence, which can only be repeated, or neither. The
name of its type is kept for what is said when an operation makes no sense. -/
inductive Operand
  | number (type : String) (n : Number)
  | sequence (type : String)
  | other (type : String)

namespace Operand

/-- The name of an operand's type. -/
def typeName : Operand → String
  | .number type _ | .sequence type | .other type => type

/-- A number as an operand. -/
def ofNumber : Number → Operand
  | .int n => .number "int" (.int n)
  | .real x => .number "float" (.real x)
  | .nonreal => .number "complex" .nonreal

/-- A structured value as an operand. Truth values count as zero and one. -/
def ofJson : Json → Operand
  | .bool b => .number "bool" (.int (if b then 1 else 0))
  | .int n => .number "int" (.int n)
  | .real x => .number "float" (.real x)
  | .string s => .sequence (Json.string s).typeName
  | .array items => .sequence (Json.array items).typeName
  | value => .other value.typeName

/-- The number that an operand is. -/
def number? : Operand → Option Number
  | .number _ n => some n
  | _ => none

/-- An operation that the types of its operands do not support. -/
def unsupported (sign : String) (a b : Operand) : ArithmeticError :=
  .wrongType
    ("unsupported operand type(s) for " ++ sign ++ ": '" ++ a.typeName ++ "' and '" ++
      b.typeName ++ "'")

/-- A sequence repeated a number of times that is no integer. -/
def unrepeatable (times : Operand) : ArithmeticError :=
  .wrongType ("can't multiply sequence by non-int of type '" ++ times.typeName ++ "'")

/-- A comparison that the types of its operands do not support. -/
def incomparable (sign : String) (a b : Operand) : ArithmeticError :=
  .wrongType
    ("'" ++ sign ++ "' not supported between instances of '" ++ a.typeName ++ "' and '" ++
      b.typeName ++ "'")

/-- Applies an operation on numbers. -/
def onNumbers (sign : String) (f : Number → Number → Except ArithmeticError Number)
    (a b : Operand) : Except ArithmeticError Operand :=
  match a, b with
  | .number _ m, .number _ n => do return ofNumber (← f m n)
  | _, _ => .error (unsupported sign a b)

/-- Addition. -/
def add : Operand → Operand → Except ArithmeticError Operand :=
  onNumbers "+" Number.add

/-- Subtraction. -/
def sub : Operand → Operand → Except ArithmeticError Operand :=
  onNumbers "-" Number.sub

/-- Division. -/
def div : Operand → Operand → Except ArithmeticError Operand :=
  onNumbers "/" Number.div

/-- Power. -/
def power : Operand → Operand → Except ArithmeticError Operand :=
  onNumbers "** or pow()" Number.power

/-- A sequence repeated. -/
def repeated (type : String) : Operand → Except ArithmeticError Operand
  | .number _ (.int _) => .ok (.sequence type)
  | times => .error (unrepeatable times)

/-- Multiplication. An integer times a sequence repeats the sequence. -/
def mul (a b : Operand) : Except ArithmeticError Operand :=
  match a, b with
  | .sequence type, times => repeated type times
  | times, .sequence type => repeated type times
  | _, _ => onNumbers "*" Number.mul a b

/-- Compares two numbers by their values. -/
def compareWith (sign : String) (holds : Number → Number → Bool) (a b : Operand) :
    Except ArithmeticError Bool :=
  match a, b with
  | .number _ .nonreal, _ | _, .number _ .nonreal => .error (incomparable sign a b)
  | .number _ m, .number _ n => .ok (holds m n)
  | _, _ => .error (incomparable sign a b)

/-- Whether one operand is less than another. -/
def less : Operand → Operand → Except ArithmeticError Bool :=
  compareWith "<" Number.less

/-- Whether one operand is at most another. -/
def atMost : Operand → Operand → Except ArithmeticError Bool :=
  compareWith "<=" Number.atMost

/-- Whether one operand is greater than another. -/
def greater : Operand → Operand → Except ArithmeticError Bool :=
  compareWith ">" fun m n => n.less m

theorem greater_int (a b : Int) :
    greater (.ofJson (.int a)) (.ofJson (.int b)) = .ok (decide (b < a)) := by
  rw [← Number.less_int]
  rfl

/-- Rounds to decimal places. -/
def round (places : Nat) : Operand → Except ArithmeticError Operand
  | .number _ n => do return ofNumber (← n.round places)
  | a => .error (.wrongType ("type " ++ a.typeName ++ " doesn't define __round__ method"))

/-- The double that an operand stands for. -/
def toFloat (a : Operand) : Float :=
  match a with
  | .number _ n => n.toFloat
  | _ => Decimal.notANumber

end Operand

/-- A number as a structured value; off the real line there is none. -/
def Json.ofNumber : Number → Json
  | .int n => .int n
  | .real x => .real x
  | .nonreal => .null

end SymbolSearch
