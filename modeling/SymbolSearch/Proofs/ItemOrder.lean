import Mathlib.Algebra.Order.Field.Rat
import Mathlib.Algebra.Order.Field.Basic
import Mathlib.Data.List.Sort
import Mathlib.Data.Prod.Lex
import Mathlib.Data.String.Basic
import Mathlib.Order.Compare
import Mathlib.Order.WithBot
import Mathlib.Tactic.FieldSimp
import Mathlib.Tactic.Positivity
import SymbolSearch.Item

namespace SymbolSearch.Proofs.ItemOrder

open Decimal

/-- The rational numbers with an infinite one at either end. -/
abbrev ExtendedRat := WithBot (WithTop ℚ)

/-- The exact value of a double-precision number, when it stands for one. -/
def valueOf : Binary → Option ExtendedRat
  | .nan => none
  | .infinite negative => some (if negative then ⊥ else ⊤)
  | .finite negative mantissa exponent =>
      some (((if negative then -1 else 1) * (mantissa * 2 ^ exponent) : ℚ) : WithTop ℚ)

theorem fractionOf_denominator_pos (mantissa : Nat) (exponent : Int) :
    0 < (fractionOf mantissa exponent).2 := by
  unfold fractionOf
  split
  · exact Nat.one_pos
  · exact Nat.pow_pos (by decide)

theorem fractionOf_quotient (mantissa : Nat) (exponent : Int) :
    ((fractionOf mantissa exponent).1 : ℚ) / (fractionOf mantissa exponent).2 =
      mantissa * 2 ^ exponent := by
  unfold fractionOf powerOfTwo
  split
  · rename_i h
    obtain ⟨n, rfl⟩ := Int.eq_ofNat_of_zero_le h
    simp
  · rename_i h
    obtain ⟨n, hn⟩ := Int.eq_ofNat_of_zero_le (show 0 ≤ -exponent by omega)
    obtain rfl : exponent = -(n : Int) := by omega
    simp [zpow_neg, div_eq_mul_inv]

theorem compare_cross (a b : Int) {c d : Nat} (hc : 0 < c) (hd : 0 < d) :
    compare (a * d) (b * c) = cmp ((a : ℚ) / c) ((b : ℚ) / d) := by
  have hc' : (0 : ℚ) < c := Nat.cast_pos.mpr hc
  have hd' : (0 : ℚ) < d := Nat.cast_pos.mpr hd
  have hlt (x y : Int) {m n : Nat} (hm : (0 : ℚ) < m) (hn : (0 : ℚ) < n) :
      x * n < y * m ↔ (x : ℚ) / m < (y : ℚ) / n := by
    rw [div_lt_div_iff₀ hm hn]
    exact_mod_cast Iff.rfl
  rw [← cmp_eq_compare]
  rcases lt_trichotomy ((a : ℚ) / c) ((b : ℚ) / d) with h | h | h
  · rw [h.cmp_eq_lt]
    exact ((hlt a b hc' hd').mpr h).cmp_eq_lt
  · rw [h.cmp_eq_eq]
    rw [div_eq_div_iff hc'.ne' hd'.ne'] at h
    have heq : a * d = b * c := by exact_mod_cast h
    exact heq.cmp_eq_eq
  · rw [h.cmp_eq_gt]
    exact ((hlt b a hd' hc').mpr h).cmp_eq_gt

theorem compareExact_eq {a b : Binary} {x y : ExtendedRat} (hx : valueOf a = some x)
    (hy : valueOf b = some y) : Number.compareExact a b = some (cmp x y) := by
  have hlift (p q : ℚ) : cmp ((p : WithTop ℚ) : ExtendedRat) ((q : WithTop ℚ) : ExtendedRat) =
      cmp p q := by
    unfold cmp cmpUsing
    simp only [WithBot.coe_lt_coe, WithTop.coe_lt_coe]
  cases a with
  | nan => simp [valueOf] at hx
  | infinite s =>
      cases b with
      | nan => simp [valueOf] at hy
      | infinite t =>
          obtain rfl := Option.some.inj hx
          obtain rfl := Option.some.inj hy
          cases s <;> cases t <;> rfl
      | finite t n f =>
          obtain rfl := Option.some.inj hx
          obtain rfl := Option.some.inj hy
          cases s with
          | false =>
              have h : (((if t then -1 else 1) * (n * 2 ^ f) : ℚ) : WithTop ℚ) < ⊤ :=
                WithTop.coe_lt_top _
              exact congrArg some (LT.lt.cmp_eq_gt (WithBot.coe_lt_coe.mpr h)).symm
          | true => exact congrArg some (LT.lt.cmp_eq_lt (WithBot.bot_lt_coe _)).symm
  | finite s m e =>
      cases b with
      | nan => simp [valueOf] at hy
      | infinite t =>
          obtain rfl := Option.some.inj hx
          obtain rfl := Option.some.inj hy
          cases t with
          | false =>
              have h : (((if s then -1 else 1) * (m * 2 ^ e) : ℚ) : WithTop ℚ) < ⊤ :=
                WithTop.coe_lt_top _
              exact congrArg some (LT.lt.cmp_eq_lt (WithBot.coe_lt_coe.mpr h)).symm
          | true => exact congrArg some (LT.lt.cmp_eq_gt (WithBot.bot_lt_coe _)).symm
      | finite t n f =>
          obtain rfl := Option.some.inj hx
          obtain rfl := Option.some.inj hy
          have hm := fractionOf_denominator_pos m e
          have hn := fractionOf_denominator_pos n f
          have hcross := compare_cross
            ((if s then -1 else 1) * ((fractionOf m e).1 : Int))
            ((if t then -1 else 1) * ((fractionOf n f).1 : Int)) hm hn
          have hexact : Number.compareExact (.finite s m e) (.finite t n f) =
              some (compare ((if s then -1 else 1) * ((fractionOf m e).1 : Int) *
                ((fractionOf n f).2 : Int))
                ((if t then -1 else 1) * ((fractionOf n f).1 : Int) *
                  ((fractionOf m e).2 : Int))) := by
            cases s <;> cases t <;> simp [Number.compareExact]
          have hvalue (negative : Bool) (k : Nat) (g : Int) :
              (((if negative then -1 else 1) * ((fractionOf k g).1 : Int) : Int) : ℚ) /
                (fractionOf k g).2 = (if negative then -1 else 1) * (k * 2 ^ g) := by
            rw [← fractionOf_quotient k g, ← mul_div_assoc]
            push_cast
            rfl
          rw [hexact, hcross, hlift, hvalue, hvalue]

/-- The exact value of a number, when it has a place among the others. -/
def exactValue (n : Number) : Option ExtendedRat :=
  n.binary?.bind valueOf

theorem compare?_eq {a b : Number} {x y : ExtendedRat} (hx : exactValue a = some x)
    (hy : exactValue b = some y) : a.compare? b = some (cmp x y) := by
  obtain ⟨p, hp, hpx⟩ := Option.bind_eq_some_iff.mp hx
  obtain ⟨q, hq, hqy⟩ := Option.bind_eq_some_iff.mp hy
  rw [Number.compare?, hp, hq]
  exact compareExact_eq hpx hqy

theorem isSome_compare?_self (n : Number) :
    (n.compare? n).isSome = true ↔ ∃ x, exactValue n = some x := by
  constructor
  · intro h
    cases hn : n.binary? with
    | none => simp [Number.compare?, hn] at h
    | some p =>
        cases p with
        | nan => simp [Number.compare?, hn, Number.compareExact] at h
        | infinite s => exact ⟨_, by rw [exactValue, hn]; rfl⟩
        | finite s m e => exact ⟨_, by rw [exactValue, hn]; rfl⟩
  · rintro ⟨x, hx⟩
    rw [compare?_eq hx hx]
    rfl

/-- What items are sorted by: a higher score first, then symbol, file and line. -/
def sortKey (i : Item) : ExtendedRatᵒᵈ ×ₗ String ×ₗ String ×ₗ Int :=
  toLex (.toDual ((exactValue i.score).getD ⊥), toLex (i.symbol, toLex (i.file, i.line)))

theorem isPlaced_iff (i : Item) : i.isPlaced = true ↔ ∃ x, exactValue i.score = some x :=
  isSome_compare?_self i.score

theorem before_eq_decide {a b : Item} (ha : a.isPlaced = true) (hb : b.isPlaced = true) :
    Item.before a b = decide (sortKey a < sortKey b) := by
  obtain ⟨x, hx⟩ := (isPlaced_iff a).mp ha
  obtain ⟨y, hy⟩ := (isPlaced_iff b).mp hb
  apply Bool.eq_iff_iff.mpr
  simp only [decide_eq_true_eq, sortKey, hx, hy, Option.getD_some, Prod.Lex.toLex_lt_toLex,
    OrderDual.toDual_lt_toDual, OrderDual.toDual_inj]
  rw [Item.before, compare?_eq hx hy]
  rcases lt_trichotomy x y with h | h | h
  · rw [h.cmp_eq_lt]
    simp [h.not_gt, h.ne]
  · subst h
    rw [cmp_self_eq_eq]
    by_cases hsymbol : a.symbol = b.symbol
    · by_cases hfile : a.file = b.file
      · simp [hsymbol, hfile]
      · simp [hsymbol, hfile]
    · simp [hsymbol]
  · rw [h.cmp_eq_gt]
    simp [h]

section Insertion

variable {α : Type} (before : α → α → Bool)

theorem runFrom_append (descending : Bool) (last : α) (xs : List α) :
    (Sorting.runFrom before descending last xs).1 ++
      (Sorting.runFrom before descending last xs).2 = xs := by
  induction xs generalizing last with
  | nil => rfl
  | cons x rest ih =>
      simp only [Sorting.runFrom]
      split
      · simpa using ih x
      · rfl

theorem firstRun_perm (xs : List α) :
    ((Sorting.firstRun before xs).1 ++ (Sorting.firstRun before xs).2).Perm xs := by
  match xs with
  | [] => exact .refl _
  | [x] => exact .refl _
  | x :: y :: rest =>
      have happend := runFrom_append before (before y x) y rest
      simp only [Sorting.firstRun]
      split
      · have hreverse := (List.reverse_perm
          (x :: y :: (Sorting.runFrom before (before y x) y rest).1)).append_right
          (Sorting.runFrom before (before y x) y rest).2
        simpa [happend] using hreverse
      · simp [happend]

theorem insert_perm (sorted : List α) (x : α) :
    (Sorting.insert before sorted x).Perm (x :: sorted) := by
  simp only [Sorting.insert]
  exact List.perm_middle.trans (by rw [List.take_append_drop])

theorem foldl_insert_perm (rest sorted : List α) :
    (rest.foldl (Sorting.insert before) sorted).Perm (sorted ++ rest) := by
  induction rest generalizing sorted with
  | nil => simp
  | cons x rest ih =>
      refine (ih _).trans ?_
      exact ((insert_perm before sorted x).append_right rest).trans List.perm_middle.symm

theorem byInsertion_perm (xs : List α) : (Sorting.byInsertion before xs).Perm xs := by
  simp only [Sorting.byInsertion]
  exact (foldl_insert_perm before _ _).trans (firstRun_perm before xs)

end Insertion

theorem sort_perm (items : List Item) : (Item.sort items).Perm items := by
  unfold Item.sort
  split
  · exact List.mergeSort_perm _ _
  · exact byInsertion_perm _ _

theorem sort_eq_mergeSort {items : List Item} (hplaced : ∀ i ∈ items, i.isPlaced = true) :
    Item.sort items = items.mergeSort fun a b => decide (sortKey a ≤ sortKey b) := by
  rw [Item.sort, if_pos (List.all_eq_true.mpr hplaced)]
  have hmap := List.map_mergeSort (r := fun a b => !Item.before b a)
    (s := fun a b => decide (sortKey a ≤ sortKey b)) (f := id) (l := items) (by
      intro a ha b hb
      rw [before_eq_decide (hplaced b hb) (hplaced a ha), ← decide_not]
      simp only [id_eq, not_lt])
  simpa using hmap

theorem sort_pairwise {items : List Item} (hplaced : ∀ i ∈ items, i.isPlaced = true) :
    (Item.sort items).Pairwise fun a b => sortKey a ≤ sortKey b := by
  rw [sort_eq_mergeSort hplaced]
  have hsorted := @List.pairwise_mergeSort Item (fun a b => decide (sortKey a ≤ sortKey b))
    (fun a b c hab hbc => by
      simp only [decide_eq_true_eq] at hab hbc ⊢
      exact hab.trans hbc)
    (fun a b => by
      simpa using le_total (sortKey a) (sortKey b)) items
  simpa only [decide_eq_true_eq] using hsorted

theorem sort_sort {items : List Item} (hplaced : ∀ i ∈ items, i.isPlaced = true) :
    Item.sort (Item.sort items) = Item.sort items := by
  have hplaced' : ∀ i ∈ Item.sort items, i.isPlaced = true := by
    intro i hi
    exact hplaced i ((sort_perm items).mem_iff.mp hi)
  rw [sort_eq_mergeSort hplaced']
  apply List.mergeSort_of_pairwise
  simpa only [decide_eq_true_eq] using sort_pairwise hplaced

/-- What tells the items of a whole list apart. -/
def identity (i : Item) : String × String × Int :=
  (i.symbol, i.file, i.line)

theorem identity_eq_of_sortKey_eq {a b : Item} (h : sortKey a = sortKey b) :
    identity a = identity b := by
  simp only [sortKey, toLex_inj, Prod.mk.injEq] at h
  simp [identity, h.2.1, h.2.2.1, h.2.2.2]

/-- The order of a list whose items differ in symbol, file or line is the only one there is: it does
not depend on the order in which they came. -/
theorem sort_eq_of_perm {xs ys : List Item} (hperm : xs.Perm ys)
    (hplaced : ∀ i ∈ xs, i.isPlaced = true) (hdistinct : (xs.map identity).Nodup) :
    Item.sort xs = Item.sort ys := by
  have hplaced' : ∀ i ∈ ys, i.isPlaced = true := fun i hi => hplaced i (hperm.mem_iff.mpr hi)
  have hsorted : (Item.sort xs).Perm (Item.sort ys) :=
    (sort_perm xs).trans (hperm.trans (sort_perm ys).symm)
  apply List.Perm.eq_of_pairwise ?_ (sort_pairwise hplaced) (sort_pairwise hplaced') hsorted
  intro a b ha hb hab hba
  have ha' : a ∈ xs := (sort_perm xs).mem_iff.mp ha
  have hb' : b ∈ xs := hperm.mem_iff.mpr ((sort_perm ys).mem_iff.mp hb)
  exact List.inj_on_of_nodup_map hdistinct ha' hb'
    (identity_eq_of_sortKey_eq (le_antisymm hab hba))

end SymbolSearch.Proofs.ItemOrder
