import SymbolSearch.Proofs.JsonText

namespace SymbolSearch.Proofs.JsonReading

open Json
open JsonStrings
open JsonText

variable {c : Char} {depth : Nat} {rest : List Char}

mutual

/-- How deeply arrays and objects are nested in a value. -/
def nesting : Json → Nat
  | .array items => nestingOfItems items + 1
  | .object fields => nestingOfFields fields + 1
  | _ => 0

/-- The deepest nesting in a list of values. -/
def nestingOfItems : List Json → Nat
  | [] => 0
  | v :: vs => max (nesting v) (nestingOfItems vs)

/-- The deepest nesting in the values of fields. -/
def nestingOfFields : List (String × Json) → Nat
  | [] => 0
  | (_, v) :: fields => max (nesting v) (nestingOfFields fields)

end

/-- From a depth of nesting on, nothing in a text is too much. -/
def Within (depth : Nat) (rest : List Char) : Prop :=
  ∀ fuel, excessFrom fuel depth rest = none

section Steps

theorem within_nil : Within depth [] := by
  intro fuel
  cases fuel <;> rfl

theorem within_quote (h : Within depth (skipString rest)) : Within depth ('"' :: rest) := by
  intro fuel
  cases fuel with
  | zero => rfl
  | succ fuel => exact h fuel

theorem within_open (hc : c = '[' ∨ c = '\x7b') (hdepth : depth < maxDepth)
    (h : Within (depth + 1) rest) : Within depth (c :: rest) := by
  intro fuel
  cases fuel with
  | zero => rfl
  | succ fuel =>
      have hnot : ¬ maxDepth ≤ depth := by omega
      obtain rfl | rfl := hc <;>
      · simp only [excessFrom, Char.reduceBEq, Bool.false_eq_true, if_false, Bool.true_or,
          Bool.or_true, if_true, hnot]
        exact h fuel

theorem within_close (hc : c = ']' ∨ c = '\x7d') (h : Within depth rest) :
    Within (depth + 1) (c :: rest) := by
  intro fuel
  cases fuel with
  | zero => rfl
  | succ fuel => obtain rfl | rfl := hc <;> exact h fuel

theorem within_other (hc : c ∈ ['n', 'u', 'l', 't', 'r', 'e', 'f', 'a', 's', '-', ',', ' ', ':'])
    (h : Within depth rest) : Within depth (c :: rest) := by
  intro fuel
  cases fuel with
  | zero => rfl
  | succ fuel =>
      simp only [List.mem_cons, List.not_mem_nil, or_false] at hc
      obtain rfl | rfl | rfl | rfl | rfl | rfl | rfl | rfl | rfl | rfl | rfl | rfl | rfl := hc <;>
        exact h fuel

theorem integerDigits_le (cs : List Char) :
    integerDigits cs ≤ (cs.takeWhile Char.isDigit).length := by
  rw [integerDigits]
  split
  · split <;> omega
  · exact Nat.le_refl _

theorem within_digits {ds : List Char} (hds : ∀ d ∈ ds, d.isDigit = true)
    (hlength : ds.length ≤ Decimal.maxDigits) (hrest : Closes rest) (h : Within depth rest) :
    Within depth (ds ++ rest) := by
  intro fuel
  cases ds with
  | nil => exact h fuel
  | cons d ds =>
      cases fuel with
      | zero => rfl
      | succ fuel =>
          have hd : d.isDigit = true := hds d (by simp)
          have hcount : ¬ Decimal.maxDigits < integerDigits (d :: (ds ++ rest)) := by
            have hle := integerDigits_le (d :: ds ++ rest)
            rw [(span_isDigit_append hds hrest).1, List.cons_append] at hle
            omega
          have hdrop : (ds ++ rest).dropWhile Char.isDigit = rest :=
            (span_isDigit_append (fun e he => hds e (by simp [he])) hrest).2
          have hne (e : Char) (he : e.isDigit = false) : (d == e) = false := by
            rw [beq_eq_false_iff_ne]
            rintro rfl
            rw [hd] at he
            cases he
          simp only [List.cons_append, excessFrom, hne '"' rfl, hne '[' rfl, hne '\x7b' rfl,
            hne ']' rfl, hne '\x7d' rfl, Bool.or_self, Bool.false_eq_true, if_false, hd, if_true,
            hcount, hdrop]
          exact h fuel

end Steps

section Values

theorem length_toDigits_le {n : Nat} (hn : ¬ Decimal.maxDigits < Decimal.length n) :
    (Nat.toDigits 10 n).length ≤ Decimal.maxDigits := by
  by_cases hzero : n = 0
  · rw [hzero]
    decide
  · have hbeq : (n == 0) = false := by simpa using hzero
    simpa [Decimal.length, hbeq] using hn

theorem within_integerText {n : Int} (hn : obstacle? false (.int n) = none) (hrest : Closes rest)
    (h : Within depth rest) : Within depth ((Decimal.integerText n).toList ++ rest) := by
  have hlength : ¬ Decimal.maxDigits < Decimal.length n.natAbs := by
    intro hlt
    simp [obstacle?, hlt] at hn
  have hdigits : Within depth (Nat.toDigits 10 n.natAbs ++ rest) :=
    within_digits (fun d => isDigit_of_mem_toDigits) (length_toDigits_le hlength) hrest h
  rw [integerText_toList]
  split
  · exact within_other (by decide) hdigits
  · exact hdigits

theorem within_string (s : String) (h : Within depth rest) : Within depth (quote s rest) := by
  apply within_quote
  rwa [skipString_writeChars]

mutual

theorem within_write : ∀ (v : Json) (level depth : Nat) (rest : List Char), Plain v →
    obstacle? false v = none → depth + nesting v ≤ maxDepth → Closes rest → Within depth rest →
    Within depth (write .compact level v rest)
  | .null, _, _, _, _, _, _, _, h =>
      within_other (by decide) (within_other (by decide) (within_other (by decide)
        (within_other (by decide) h)))
  | .bool true, _, _, _, _, _, _, _, h =>
      within_other (by decide) (within_other (by decide) (within_other (by decide)
        (within_other (by decide) h)))
  | .bool false, _, _, _, _, _, _, _, h =>
      within_other (by decide) (within_other (by decide) (within_other (by decide)
        (within_other (by decide) (within_other (by decide) h))))
  | .int n, _, _, _, _, hn, _, hrest, h => within_integerText hn hrest h
  | .real _, _, _, _, hv, _, _, _, _ => by cases hv
  | .foreign, _, _, _, hv, _, _, _, _ => by cases hv
  | .string s, _, _, _, _, _, _, _, h => within_string s h
  | .array [], _, depth, rest, _, _, hdepth, _, h => by
      refine within_open (Or.inl rfl) ?_ (within_close (Or.inl rfl) h)
      simp only [nesting, nestingOfItems] at hdepth
      omega
  | .array (v :: vs), level, depth, rest, hv, hobstacle, hdepth, _, h => by
      have hplain : Plain v ∧ PlainItems vs := hv
      simp only [obstacle?, obstacleInItems?, Option.or_eq_none_iff] at hobstacle
      simp only [nesting, nestingOfItems] at hdepth
      -- The closing bracket brings the depth back to that of what follows.
      have hclose : Within (depth + 1) (']' :: rest) := within_close (Or.inl rfl) h
      have hitems := within_writeItems vs level (depth + 1) rest hplain.2 hobstacle.2 (by omega)
        hclose
      rw [write_array]
      exact within_open (Or.inl rfl) (by omega)
        (within_write v (level + 1) (depth + 1) _ hplain.1 hobstacle.1 (by omega)
          (closes_writeItems level vs rest) hitems)
  | .object [], _, depth, rest, _, _, hdepth, _, h => by
      refine within_open (Or.inr rfl) ?_ (within_close (Or.inr rfl) h)
      simp only [nesting, nestingOfFields] at hdepth
      omega
  | .object ((k, v) :: fields), level, depth, rest, hv, hobstacle, hdepth, _, h => by
      have hplain : Plain v ∧ PlainFields fields := hv.2
      simp only [obstacle?, obstacleInFields?, Option.or_eq_none_iff] at hobstacle
      simp only [nesting, nestingOfFields] at hdepth
      have hclose : Within (depth + 1) ('\x7d' :: rest) := within_close (Or.inr rfl) h
      have hfields := within_writeFields fields level (depth + 1) rest hplain.2 hobstacle.2
        (by omega) hclose
      have hvalue := within_write v (level + 1) (depth + 1) _ hplain.1 hobstacle.1 (by omega)
        (closes_writeFields level fields rest) hfields
      rw [write_object]
      exact within_open (Or.inr rfl) (by omega)
        (within_string k (within_other (by decide) (within_other (by decide) hvalue)))

theorem within_writeItems : ∀ (vs : List Json) (level depth : Nat) (rest : List Char),
    PlainItems vs → obstacleInItems? false vs = none → depth + nestingOfItems vs ≤ maxDepth →
    Within depth (']' :: rest) → Within depth (writeItems .compact level vs (']' :: rest))
  | [], _, _, _, _, _, _, h => h
  | v :: vs, level, depth, rest, hplain, hobstacle, hdepth, h => by
      simp only [obstacleInItems?, Option.or_eq_none_iff] at hobstacle
      simp only [nestingOfItems] at hdepth
      have hitems := within_writeItems vs level depth rest hplain.2 hobstacle.2 (by omega) h
      rw [writeItems_eq]
      exact within_other (by decide) (within_other (by decide)
        (within_write v (level + 1) depth _ hplain.1 hobstacle.1 (by omega)
          (closes_writeItems level vs rest) hitems))

theorem within_writeFields : ∀ (fields : List (String × Json)) (level depth : Nat)
    (rest : List Char), PlainFields fields → obstacleInFields? false fields = none →
    depth + nestingOfFields fields ≤ maxDepth → Within depth ('\x7d' :: rest) →
    Within depth (writeFields .compact level fields ('\x7d' :: rest))
  | [], _, _, _, _, _, _, h => h
  | (k, v) :: fields, level, depth, rest, hplain, hobstacle, hdepth, h => by
      simp only [obstacleInFields?, Option.or_eq_none_iff] at hobstacle
      simp only [nestingOfFields] at hdepth
      have hfields :=
        within_writeFields fields level depth rest hplain.2 hobstacle.2 (by omega) h
      have hvalue := within_write v (level + 1) depth _ hplain.1 hobstacle.1 (by omega)
        (closes_writeFields level fields rest) hfields
      rw [writeFields_eq]
      exact within_other (by decide) (within_other (by decide)
        (within_string k (within_other (by decide) (within_other (by decide) hvalue))))

end

theorem read_text {v : Json} {text : String} (hv : Plain v) (hdepth : nesting v ≤ maxDepth)
    (htext : v.text? = .ok text) : Json.read text = .ok v := by
  rw [text?, render] at htext
  split at htext
  · cases htext
  · rename_i hobstacle
    obtain rfl := Except.ok.inj htext
    have hexcess : excess? (String.ofList (write .compact 0 v [])) = none := by
      rw [excess?, String.toList_ofList]
      exact within_write v 0 0 [] hv hobstacle (by omega) closes_nil within_nil _
    have hparse : parse? (String.ofList (write .compact 0 v [])) = some v := parse?_line hv
    simp only [Json.read, hexcess, hparse]

end Values

end SymbolSearch.Proofs.JsonReading
