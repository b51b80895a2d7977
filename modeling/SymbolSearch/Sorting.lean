namespace SymbolSearch.Sorting

variable {α : Type}

/-- The longest beginning of a list in which every element comes before the one in front of it, or
none does, given the last element so far; and the rest. -/
def runFrom (before : α → α → Bool) (descending : Bool) (last : α) :
    List α → List α × List α
  | [] => ([], [])
  | x :: rest =>
      if before x last == descending then
        let (run, rest) := runFrom before descending x rest
        (x :: run, rest)
      else ([], x :: rest)

/-- The beginning of a list that is in order as it is, or the other way round, put in order; and the
rest. -/
def firstRun (before : α → α → Bool) : List α → List α × List α
  | x :: y :: rest =>
      let descending := before y x
      let (run, rest) := runFrom before descending y rest
      (if descending then (x :: y :: run).reverse else x :: y :: run, rest)
  | xs => (xs, [])

/-- The place for an element in a list that is in order, found by halving the part between two
positions in which the place must be; `fuel` bounds the number of halvings. -/
def placeFor (before : α → α → Bool) (x : α) (sorted : List α) : Nat → Nat → Nat → Nat
  | 0, low, _ => low
  | fuel + 1, low, high =>
      if low < high then
        let middle := low + (high - low) / 2
        match sorted[middle]? with
        | none => low
        | some y =>
            if before x y then placeFor before x sorted fuel low middle
            else placeFor before x sorted fuel (middle + 1) high
      else low

/-- Inserts an element into a list that is in order, behind those it does not come before. -/
def insert (before : α → α → Bool) (sorted : List α) (x : α) : List α :=
  let place := placeFor before x sorted (sorted.length + 1) 0 sorted.length
  sorted.take place ++ x :: sorted.drop place

/-- Puts a list in order: the beginning that is in order already is kept, and the other elements are
inserted one after the other. Nothing is asked of the order. -/
def byInsertion (before : α → α → Bool) (xs : List α) : List α :=
  let (run, rest) := firstRun before xs
  rest.foldl (insert before) run

end SymbolSearch.Sorting
