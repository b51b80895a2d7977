import SymbolSearch.Proofs.Blending
import SymbolSearch.Proofs.PublishedOrder

namespace SymbolSearch.Proofs.FilteredItems

open Blending
open Doubles
open ItemOrder
open PublishedOrder
open Ranking
open Traversal

section Best

variable {best : Float} {xs ys : List Float}

/-- A double is the largest of some: it is one of them, and none is above it. -/
structure IsBest (best : Float) (xs : List Float) : Prop where
  mem : best ∈ xs
  greatest : ∀ x ∈ xs, ¬best < x

theorem IsBest.of_perm (h : IsBest best xs) (hperm : xs.Perm ys) : IsBest best ys :=
  ⟨hperm.mem_iff.mp h.mem, fun x hx => h.greatest x (hperm.mem_iff.mpr hx)⟩

theorem IsBest.larger (h : IsBest best xs) (y : Float) :
    IsBest (Similarity.larger best y) (xs ++ [y]) := by
  rw [Similarity.larger]
  split
  · rename_i hlt
    refine ⟨by simp, ?_⟩
    intro x hx hyx
    rcases List.mem_append.mp hx with hx | hx
    · exact h.greatest x hx (lt_trans_float hlt hyx)
    · obtain rfl := List.mem_singleton.mp hx
      exact not_lt_self x hyx
  · rename_i hnot
    refine ⟨by simp [h.mem], ?_⟩
    intro x hx
    rcases List.mem_append.mp hx with hx | hx
    · exact h.greatest x hx
    · obtain rfl := List.mem_singleton.mp hx
      exact hnot

/-- The largest of a list is found from the left: what was found so far is the largest of what came
so far. -/
theorem isBest_foldl (x : Float) (xs : List Float) :
    IsBest (xs.foldl Similarity.larger x) (x :: xs) := by
  induction xs using List.reverseRecOn with
  | nil =>
      refine ⟨List.mem_singleton_self x, ?_⟩
      intro y hy
      obtain rfl := List.mem_singleton.mp hy
      exact not_lt_self y
  | append_singleton xs y ih =>
      rw [List.foldl_append]
      exact ih.larger y

theorem isBest_bestQuality {α : Type} {hits : List (Similarity.Hit α)} (h : hits ≠ []) :
    IsBest (bestQuality hits) (hits.map Similarity.Hit.quality) := by
  cases hits with
  | nil => exact absurd rfl h
  | cons hit rest =>
      have hbest := isBest_foldl hit.quality (rest.map Similarity.Hit.quality)
      rw [List.foldl_map] at hbest
      exact hbest

end Best

section Filter

variable {config : Config} {query : String} {items found : List Item} {best : Float}

/-- A symbol contains a query when the characters of the query appear in it in order; case matters
only if the query has an upper-case character. -/
def Contains (query symbol : String) : Prop :=
  if Text.hasUpper query.toList then query.toList.Sublist symbol.toList
  else (Text.lowered query.toList).Sublist (Text.lowered symbol.toList)

instance (query symbol : String) : Decidable (Contains query symbol) :=
  inferInstanceAs (Decidable (if Text.hasUpper query.toList then _ else _))

/-- The items whose symbol contains a query. -/
def containing (query : String) (items : List Item) : List Item :=
  items.filter fun i => Contains query i.symbol

/-- How well the symbol of an item matches a query. -/
def qualityOf (query : String) (i : Item) : Float :=
  (Similarity.Needle.ofText query.toList).quality i.symbol.toList

/-- An item with its combined score in place of its own, which goes into it. -/
def rescored (config : Config) (query : String) (best : Float) (i : Item) :
    Except Failure Item := do
  let score ← combined config (double (qualityOf query i)) (double best) (.ofNumber i.score)
  return i.withScore (.real score)

theorem isSubsequence_iff_sublist (needle haystack : List Char) :
    Similarity.isSubsequence needle haystack = true ↔ needle.Sublist haystack := by
  fun_induction Similarity.isSubsequence needle haystack with
  | case1 haystack => simp
  | case2 c needle => simp
  | case3 a needle b haystack heq ih =>
      obtain rfl := eq_of_beq heq
      rw [ih, List.cons_sublist_cons]
  | case4 a needle b haystack hne ih =>
      rw [ih]
      constructor
      · intro h
        exact h.cons b
      · intro h
        cases h with
        | cons _ h => exact h
        | cons_cons _ h => exact absurd (beq_self_eq_true a) hne

theorem isIn_ofText_iff (query symbol : String) :
    (Similarity.Needle.ofText query.toList).isIn symbol.toList = true ↔ Contains query symbol := by
  rw [Similarity.Needle.isIn, isSubsequence_iff_sublist, Similarity.Needle.ofText, Contains]
  split <;> rfl

example : Contains "crd" "Card" ∧ ¬Contains "Crd" "card" ∧ ¬Contains "rdc" "Card" := by
  decide +kernel

theorem isGiven_string (h : query ≠ "") : (Json.string query).isGiven = true := by
  simpa [Json.isGiven] using h

theorem quality_of_mem_hitsOf {hit : Similarity.Hit Item} (h : hit ∈ hitsOf query items) :
    hit.quality = qualityOf query hit.item :=
  (hit_of_mem_findAll h).2

theorem map_item_hitsOf_perm (query : String) (items : List Item) :
    ((hitsOf query items).map Similarity.Hit.item).Perm (containing query items) := by
  refine (map_item_findAll_perm _ (fun i : Item => i.symbol) items).trans (.of_eq ?_)
  apply List.filter_congr
  intro i _
  rw [Bool.eq_iff_iff, isIn_ofText_iff, decide_eq_true_iff]

theorem map_quality_hitsOf_perm (query : String) (items : List Item) :
    ((hitsOf query items).map Similarity.Hit.quality).Perm
      ((containing query items).map (qualityOf query)) := by
  have hquality : (hitsOf query items).map Similarity.Hit.quality =
      ((hitsOf query items).map Similarity.Hit.item).map (qualityOf query) := by
    rw [List.map_map]
    exact List.map_congr_left fun hit hhit => quality_of_mem_hitsOf hhit
  rw [hquality]
  exact (map_item_hitsOf_perm query items).map _

theorem map_scored_hitsOf_perm (config : Config) (query : String) (items : List Item)
    (best : Float) :
    ((hitsOf query items).map (scored config best)).Perm
      ((containing query items).map (rescored config query best)) := by
  have hscored : (hitsOf query items).map (scored config best) =
      ((hitsOf query items).map Similarity.Hit.item).map (rescored config query best) := by
    rw [List.map_map]
    apply List.map_congr_left
    intro hit hhit
    rw [scored, quality_of_mem_hitsOf hhit]
    rfl
  rw [hscored]
  exact (map_item_hitsOf_perm query items).map _

theorem isBest_hitsOf (h : containing query items ≠ []) :
    IsBest (bestQuality (hitsOf query items)) ((containing query items).map (qualityOf query)) := by
  have hhits : hitsOf query items ≠ [] := by
    intro hnil
    apply h
    have hperm := map_item_hitsOf_perm query items
    rw [hnil] at hperm
    exact List.nil_perm.mp hperm
  exact (isBest_bestQuality hhits).of_perm (map_quality_hitsOf_perm query items)

theorem exists_rank_iff (h : query ≠ "") :
    (∃ found, rank config items (.string query) = .ok found) ↔
      ∀ i ∈ containing query items,
        ∃ j, rescored config query (bestQuality (hitsOf query items)) i = .ok j := by
  have hperm := map_scored_hitsOf_perm config query items (bestQuality (hitsOf query items))
  rw [rank_string (isGiven_string h)]
  constructor
  · rintro ⟨found, hfound⟩ i hi
    obtain ⟨ranked, hranked, -⟩ := map_eq_ok_iff.mp hfound
    rw [map_eq_map_ok_of_mapM hranked] at hperm
    have hmem := hperm.mem_iff.mpr (List.mem_map_of_mem hi)
    obtain ⟨j, -, hj⟩ := List.mem_map.mp hmem
    exact ⟨j, hj.symm⟩
  · intro hall
    have hscored : ∀ hit ∈ hitsOf query items,
        ∃ j, scored config (bestQuality (hitsOf query items)) hit = .ok j := by
      intro hit hhit
      obtain ⟨i, hi, hscored⟩ := List.mem_map.mp (hperm.mem_iff.mp (List.mem_map_of_mem hhit))
      rw [← hscored]
      exact hall i hi
    obtain ⟨ranked, hranked⟩ := mapM_exists hscored
    exact ⟨Item.sort ranked, map_eq_ok_iff.mpr ⟨ranked, hranked, rfl⟩⟩

theorem rescored_perm_rank (h : query ≠ "")
    (hrank : rank config items (.string query) = .ok found) :
    ((containing query items).map
      (rescored config query (bestQuality (hitsOf query items)))).Perm (found.map .ok) := by
  rw [rank_string (isGiven_string h)] at hrank
  obtain ⟨ranked, hranked, rfl⟩ := map_eq_ok_iff.mp hrank
  have hperm := map_scored_hitsOf_perm config query items (bestQuality (hitsOf query items))
  rw [map_eq_map_ok_of_mapM hranked] at hperm
  exact hperm.symm.trans ((sort_perm ranked).symm.map _)

theorem sorted_rank (h : query ≠ "") (hrank : rank config items (.string query) = .ok found)
    (hplaced : AllPlaced found) : found.Pairwise fun a b => sortKey a ≤ sortKey b := by
  rw [rank_string (isGiven_string h)] at hrank
  obtain ⟨ranked, -, rfl⟩ := map_eq_ok_iff.mp hrank
  apply sort_pairwise
  intro i hi
  exact hplaced i ((sort_perm ranked).mem_iff.mpr hi)

/-- Ranking by a query keeps the items that contain it, as often as they are there, and no others.
Each is as it was but for its score, made of its own quality, the best one among those kept, and the
score that it had. Nothing but such a score can go wrong, and with constants and scores that are
doubles nothing does. The result is in order if its scores can be compared. -/
theorem rank_keeps_containing (hquery : query ≠ "") (config : Config) (items : List Item) :
    ∃ best,
      (containing query items ≠ [] →
        IsBest best ((containing query items).map (qualityOf query))) ∧
      ((∃ found, rank config items (.string query) = .ok found) ↔
        ∀ i ∈ containing query items, ∃ j, rescored config query best i = .ok j) ∧
      (Blendable config → Scored items → ∃ found, rank config items (.string query) = .ok found) ∧
      ∀ found, rank config items (.string query) = .ok found →
        ((containing query items).map (rescored config query best)).Perm (found.map .ok) ∧
        (AllPlaced found → found.Pairwise fun a b => sortKey a ≤ sortKey b) := by
  refine ⟨bestQuality (hitsOf query items), isBest_hitsOf, exists_rank_iff hquery, ?_, ?_⟩
  · intro hblend hscored
    exact rank_ok hblend hscored query
  · intro found hrank
    exact ⟨rescored_perm_rank hquery hrank, sorted_rank hquery hrank⟩

/-- One class twice and another one. -/
def sampleItems : List Item :=
  ["Card", "Zed", "Card"].map fun symbol =>
    .ofOccurrence ⟨symbol, "a.ts", 1, 1, 1, .classDecl⟩ "/w"

def sampleConfig : Config :=
  Config.defaults "/home"

/-- Of three classes, a query keeps the two that contain it, though these are the same. -/
theorem rank_keeps_containing_sample :
    "car" ≠ "" ∧
      ∃ found, rank sampleConfig sampleItems (.string "car") = .ok found ∧ found.length = 2 := by
  have hquery : "car" ≠ "" := by decide
  refine ⟨hquery, ?_⟩
  have hblend : Blendable sampleConfig :=
    ⟨⟨_, _, _, rfl, rfl⟩, ⟨_, _, _, rfl, rfl⟩, ⟨_, _, _, rfl, rfl⟩⟩
  have hscored : Scored sampleItems := by
    intro i hi
    obtain ⟨symbol, -, rfl⟩ := List.mem_map.mp hi
    exact ⟨0, rfl⟩
  obtain ⟨best, -, -, hok, hfound⟩ := rank_keeps_containing hquery sampleConfig sampleItems
  obtain ⟨found, hrank⟩ := hok hblend hscored
  obtain ⟨hperm, -⟩ := hfound found hrank
  have hcount : (containing "car" sampleItems).length = 2 := by decide +kernel
  refine ⟨found, hrank, ?_⟩
  simpa [hcount] using hperm.length_eq.symm

end Filter

end SymbolSearch.Proofs.FilteredItems
