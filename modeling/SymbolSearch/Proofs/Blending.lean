import SymbolSearch.Proofs.Doubles
import SymbolSearch.Proofs.Rescoring
import SymbolSearch.Proofs.Traversal

namespace SymbolSearch.Proofs.Blending

open Ranking
open Rescoring

/-- A value that counts as a double: a double, or an integer that is not too large for one. -/
def IsDouble (value : Json) : Prop :=
  ∃ type n x, Operand.ofJson value = .number type n ∧ n.toFloat? = .ok (some x)

/-- The constants of the combined score are numbers that doubles can be multiplied with. -/
structure Blendable (config : Config) : Prop where
  maxScore : IsDouble config.maxScore
  matchWeight : IsDouble config.fuzzyWeight
  recencyWeight : IsDouble config.recencyRankWeight

/-- A double as an operand. -/
abbrev double (x : Float) : Operand := .ofNumber (.real x)

theorem mul_double {value : Json} (h : IsDouble value) (y : Float) :
    ∃ z, Operand.mul (.ofJson value) (double y) = .ok (double z) := by
  obtain ⟨type, n, x, hvalue, hx⟩ := h
  have hmul : n.mul (.real y) = .ok (.real (x * y)) := by
    have hfloats : n.mul (.real y) =
        Number.onFloats (fun x y => .ok (.real (x * y))) n (.real y) := by cases n <;> rfl
    rw [hfloats, Number.onFloats, hx]
    rfl
  refine ⟨x * y, ?_⟩
  rw [hvalue]
  simp only [Operand.mul, Operand.ofNumber, Operand.onNumbers, hmul]
  rfl

theorem double_mul {value : Json} (h : IsDouble value) (y : Float) :
    ∃ z, Operand.mul (double y) (.ofJson value) = .ok (double z) := by
  obtain ⟨type, n, x, hvalue, hx⟩ := h
  have hmul : (Number.real y).mul n = .ok (.real (y * x)) := by
    rw [Number.mul, Number.onFloats, hx]
    · rfl
    · rintro _ _ ⟨⟩
  refine ⟨y * x, ?_⟩
  rw [hvalue]
  simp only [Operand.mul, Operand.ofNumber, Operand.onNumbers, hmul]
  rfl

theorem ne_zero_of_less {x : Float} (h : Number.less (.int 0) (.real x) = true) :
    (x == 0) = false := by
  by_contra hzero
  obtain ⟨negative, hx⟩ := Doubles.ofFloat_of_beq_zero (Bool.eq_true_of_not_eq_false hzero)
  simp only [Number.less, Number.compare?, Number.binary?, hx] at h
  cases negative <;> simp [Number.compareExact, Decimal.fractionOf] at h

theorem double_div {x y : Float} (h : (y == 0) = false) :
    Operand.div (double x) (double y) = .ok (double (x / y)) := by
  simp only [Operand.div, Operand.ofNumber, Operand.onNumbers, Number.div, Number.onFloats,
    Number.toFloat?, h, bind, Except.bind, pure, Except.pure, Bool.false_eq_true, if_false]

theorem weighted_ok {config : Config} (h : Blendable config) (share recency : Float) :
    ∃ x, (do
      let first ← Operand.mul (.ofJson config.fuzzyWeight) (double share)
      let second ← Operand.mul (.ofJson config.recencyRankWeight) (double recency)
      Operand.round 2 (← Operand.add first second)) = .ok (double x) := by
  obtain ⟨y, hy⟩ := mul_double h.matchWeight share
  obtain ⟨z, hz⟩ := mul_double h.recencyWeight recency
  refine ⟨Decimal.roundTo 2 (y + z), ?_⟩
  simp only [bind, Except.bind, hy, hz]
  rfl

theorem combined_ok {config : Config} (h : Blendable config) (quality best recency : Float) :
    ∃ x, combined config (double quality) (double best) (double recency) = .ok x := by
  have hcombine : ∃ x, (blend config).combine Arithmetic.operand (double quality) (double best)
      (double recency) = .ok (double x) := by
    have hless : Arithmetic.operand.less (Arithmetic.operand.integer 0) (double best) =
        .ok (Number.less (.int 0) (.real best)) := rfl
    rw [Blend.combine, hless]
    cases hpositive : Number.less (.int 0) (.real best) with
    | false => exact weighted_ok h 0 recency
    | true =>
        have hdiv : Arithmetic.operand.div (double quality) (double best) =
            .ok (double (quality / best)) := double_div (ne_zero_of_less hpositive)
        obtain ⟨share, hshare⟩ := double_mul h.maxScore (quality / best)
        have hmul : Arithmetic.operand.mul (double (quality / best)) (blend config).maxScore =
            .ok (double share) := hshare
        simp only [bind, Except.bind, if_true, hdiv, hmul]
        exact weighted_ok h share recency
  obtain ⟨x, hx⟩ := hcombine
  exact ⟨_, by rw [combined, hx]⟩

/-- Every item has a double as its score. -/
def Scored (items : List Item) : Prop :=
  ∀ i ∈ items, ∃ x, i.score = .real x

theorem scored_refreshed (t : Tracker) (config : Config) (now : Int) (items : List Item) :
    Scored (refreshed t config now items) := by
  intro i hi
  obtain ⟨i', -, rfl⟩ := List.mem_map.mp ((refreshed_perm t config now items).mem_iff.mp hi)
  exact ⟨_, rfl⟩

theorem hit_of_mem_findAll {α : Type} {needle : Similarity.Needle} {text : α → String}
    {candidates : List α} {hit : Similarity.Hit α} (h : hit ∈ needle.findAll text candidates) :
    hit.item ∈ candidates ∧ hit.quality = needle.quality (text hit.item).toList := by
  rw [Similarity.Needle.findAll, List.mem_mergeSort, List.mem_filterMap] at h
  obtain ⟨⟨item, index⟩, hmem, hhit⟩ := h
  simp only at hhit
  split at hhit
  · obtain rfl := Option.some.inj hhit
    exact ⟨List.fst_mem_of_mem_zipIdx hmem, rfl⟩
  · cases hhit

/-- The items that match a text, best first. -/
abbrev hitsOf (query : String) (items : List Item) : List (Similarity.Hit Item) :=
  (Similarity.Needle.ofText query.toList).findAll (fun item : Item => item.symbol) items

theorem rank_string {query : String} (hgiven : (Json.string query).isGiven = true)
    (config : Config) (items : List Item) :
    rank config items (.string query) =
      ((hitsOf query items).mapM (scored config (bestQuality (hitsOf query items)))).map
        Item.sort := by
  have hfind : Query.findAll (fun item : Item => item.symbol) items (.string query) =
      .ok (hitsOf query items) := by
    rw [Query.findAll, hgiven]
    rfl
  rw [rank, hgiven, hfind]
  simp only [Bool.not_true, Bool.false_eq_true, if_false, bind, Except.bind]
  cases (hitsOf query items).mapM (scored config (bestQuality (hitsOf query items))) with
  | error failure => rfl
  | ok ranked => rfl

theorem rank_ok {config : Config} (h : Blendable config) {items : List Item}
    (hitems : Scored items) (query : String) :
    ∃ ranked, rank config items (.string query) = .ok ranked := by
  cases hgiven : (Json.string query).isGiven with
  | false =>
      rw [rank, hgiven]
      exact ⟨_, rfl⟩
  | true =>
      have hscored : ∀ hit ∈ hitsOf query items,
          ∃ item, scored config (bestQuality (hitsOf query items)) hit = .ok item := by
        intro hit hhit
        obtain ⟨x, hx⟩ := hitems hit.item (hit_of_mem_findAll hhit).1
        obtain ⟨y, hy⟩ := combined_ok h hit.quality (bestQuality (hitsOf query items)) x
        refine ⟨hit.item.withScore (.real y), ?_⟩
        rw [scored, hx, hy]
        rfl
      obtain ⟨ranked, hranked⟩ := Traversal.mapM_exists hscored
      exact ⟨Item.sort ranked, by rw [rank_string hgiven, hranked]; rfl⟩

end SymbolSearch.Proofs.Blending
