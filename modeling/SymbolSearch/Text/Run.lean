namespace SymbolSearch.Text

/-- An arithmetic progression of code points. -/
structure Run where
  first : Nat
  last : Nat
  step : Nat
deriving Repr, DecidableEq

/-- Whether a code point is one of the run. -/
def Run.contains (r : Run) (n : Nat) : Bool :=
  decide (r.first ≤ n) && decide (n ≤ r.last) && (n - r.first) % r.step == 0

/-- Whether a run has a code point between two bounds, both included. -/
def Run.meets (r : Run) (low high : Nat) : Bool :=
  let skipped := (low - r.first + r.step - 1) / r.step
  let first := r.first + skipped * r.step
  decide (first ≤ r.last) && decide (first ≤ high)

/-- A run whose code points all move by the same distance. -/
structure Shift where
  run : Run
  offset : Int
deriving Repr, DecidableEq

/-- The image of a code point under the first shift that moves it, or the code point itself. -/
def Shift.apply (table : List Shift) (n : Nat) : Nat :=
  match table.find? (·.run.contains n) with
  | some shift => (Int.ofNat n + shift.offset).toNat
  | none => n

/-- The code points that some shift of the table moves to `n`. -/
def Shift.sources (table : List Shift) (n : Nat) : List Nat :=
  table.filterMap fun shift =>
    let source := Int.ofNat n - shift.offset
    if 0 ≤ source && shift.run.contains source.toNat then some source.toNat else none

end SymbolSearch.Text
