import SymbolSearch.Config
import SymbolSearch.Operand

namespace SymbolSearch

/-- The operations on numbers that scores are computed with. -/
structure Arithmetic (α : Type) where
  integer : Int → α
  zero : α
  less : α → α → Except ArithmeticError Bool
  add : α → α → Except ArithmeticError α
  sub : α → α → Except ArithmeticError α
  mul : α → α → Except ArithmeticError α
  div : α → α → Except ArithmeticError α
  power : α → α → Except ArithmeticError α
  round : Nat → α → Except ArithmeticError α

/-- Integers of any size, doubles, and whatever else a setting may hold. -/
def Arithmetic.operand : Arithmetic Operand where
  integer n := .number "int" (.int n)
  zero := .number "float" (.real 0)
  less := Operand.less
  add := Operand.add
  sub := Operand.sub
  mul := Operand.mul
  div := Operand.div
  power := Operand.power
  round := Operand.round

/-- The constants of a recency score: the factor by which recency decays in an hour, the age in
hours after which it decays no more, the highest score, the share of recency in the score, and the
count after which frequency grows no more. -/
structure Scoring (α : Type) where
  decay : α
  maxAge : α
  maxScore : α
  weight : α
  cap : α

/-- The constants that the settings ask for. -/
def Config.scoring (c : Config) : Scoring Operand :=
  ⟨.ofJson c.decay, .ofJson c.maxAge, .ofJson c.maxScore, .ofJson c.recencyWeight,
    .ofJson c.frequencyCap⟩

namespace Scoring

variable {α : Type}

/-- Milliseconds in an hour. -/
def hour : Int := 3600000

/-- The smaller of two numbers; the first one when they are equal. -/
def smaller (ar : Arithmetic α) (a b : α) : Except ArithmeticError α := do
  return if ← ar.less b a then b else a

/-- The age in hours of something last opened at a time; what lies in the future has none. -/
def age (ar : Arithmetic α) (last now : α) : Except ArithmeticError α := do
  let hours ← ar.div (← ar.sub now last) (ar.integer hour)
  return if ← ar.less ar.zero hours then hours else ar.zero

/-- The part of a score that decays with age. -/
def recency (ar : Arithmetic α) (s : Scoring α) (last now : α) : Except ArithmeticError α := do
  let hours ← age ar last now
  let factor ← ar.power s.decay (← smaller ar hours s.maxAge)
  ar.mul factor s.maxScore

/-- The part of a score that grows with the number of times something was opened. -/
def frequency (ar : Arithmetic α) (s : Scoring α) (count : α) : Except ArithmeticError α := do
  let counted ← smaller ar count s.cap
  let unit ← ar.div s.maxScore s.cap
  ar.mul counted unit

/-- The score: the weighted mean of both parts, rounded to one decimal place. -/
def score (ar : Arithmetic α) (s : Scoring α) (last count now : α) :
    Except ArithmeticError α := do
  let fresh ← recency ar s last now
  let often ← frequency ar s count
  let first ← ar.mul s.weight fresh
  let rest ← ar.sub (ar.integer 1) s.weight
  let second ← ar.mul rest often
  ar.round 1 (← ar.add first second)

end Scoring

end SymbolSearch
