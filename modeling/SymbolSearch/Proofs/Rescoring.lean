import SymbolSearch.Proofs.Deduplication
import SymbolSearch.Proofs.Doubles
import SymbolSearch.Proofs.ItemOrder
import SymbolSearch.Proofs.Traversal
import SymbolSearch.Ranking

namespace SymbolSearch.Proofs.Rescoring

open ItemOrder

/-- Every key has a score at a time: nothing goes wrong in computing it. -/
def Scorable (t : Tracker) (config : Config) (now : Int) : Prop :=
  ∀ key, ∃ s, t.score config now key = .ok s

/-- The items of a list have scores at a time that can be compared with each other. -/
def Comparable (t : Tracker) (config : Config) (now : Int) (items : List Item) : Prop :=
  ∀ i ∈ items, ∃ s, t.score config now i.recencyKey = .ok s ∧ s.score.isNaN = false

/-- The score of an item, and whether it can be compared, can be found out. -/
instance (t : Tracker) (config : Config) (now : Int) (key : String) :
    Decidable (∃ s, t.score config now key = .ok s ∧ s.score.isNaN = false) :=
  match t.score config now key with
  | .ok s =>
      decidable_of_iff (s.score.isNaN = false)
        ⟨fun hs => ⟨s, rfl, hs⟩, fun ⟨_, hs, hnumber⟩ => Except.ok.inj hs ▸ hnumber⟩
  | .error _ => isFalse fun ⟨_, hs, _⟩ => nomatch hs

instance (t : Tracker) (config : Config) (now : Int) (items : List Item) :
    Decidable (Comparable t config now items) :=
  inferInstanceAs (Decidable (∀ i ∈ items, _))

/-- The recency score of a key, zero where there is none. -/
def recencyOf (t : Tracker) (config : Config) (now : Int) (key : String) : Float :=
  match t.score config now key with
  | .ok s => s.score
  | .error _ => 0

/-- An item with its recency score of a moment. -/
def restamped (t : Tracker) (config : Config) (now : Int) (i : Item) : Item :=
  i.withScore (.real (recencyOf t config now i.recencyKey))

variable {t : Tracker} {config : Config} {now : Int}

theorem restamped_withScore (i : Item) (score : Number) :
    restamped t config now (i.withScore score) = restamped t config now i := rfl

theorem map_identity_restamped (t : Tracker) (config : Config) (now : Int) (items : List Item) :
    (items.map (restamped t config now)).map identity = items.map identity := by
  rw [List.map_map]
  rfl

theorem isPlaced_restamped {items : List Item} (h : Comparable t config now items) {i : Item}
    (hi : i ∈ items) : (restamped t config now i).isPlaced = true := by
  obtain ⟨s, hs, hnumber⟩ := h i hi
  have hvalue : recencyOf t config now i.recencyKey = s.score := by rw [recencyOf, hs]
  rw [isPlaced_iff]
  have hbinary : Decimal.Binary.ofFloat s.score ≠ .nan := by
    intro hnan
    rw [(Doubles.isNaN_eq_true_iff s.score).mpr hnan] at hnumber
    exact absurd hnumber (by decide)
  simp only [restamped, Item.withScore, hvalue, exactValue, Number.binary?, Option.bind_some]
  cases hclass : Decimal.Binary.ofFloat s.score with
  | nan => exact absurd hclass hbinary
  | infinite negative => exact ⟨_, rfl⟩
  | finite negative mantissa exponent => exact ⟨_, rfl⟩

/-- The items of a list with their recency scores of a moment, in order. -/
def refreshed (t : Tracker) (config : Config) (now : Int) (items : List Item) : List Item :=
  Item.sort (items.map (restamped t config now))

theorem rescore_eq_of_forall {items : List Item}
    (h : ∀ i ∈ items, ∃ s, t.score config now i.recencyKey = .ok s) :
    Ranking.rescore t config now items = .ok (refreshed t config now items) := by
  have hscored : (items.mapM fun item => do
      return item.withScore (.real (← t.score config now item.recencyKey).score)) =
      (.ok (items.map (restamped t config now)) : Except Failure (List Item)) := by
    apply Traversal.mapM_ok
    intro i hi
    obtain ⟨s, hs⟩ := h i hi
    simp only [restamped, recencyOf, hs, bind, Except.bind, pure, Except.pure]
  rw [Ranking.rescore, hscored]
  rfl

theorem eq_refreshed_of_rescore {items scored : List Item}
    (h : Ranking.rescore t config now items = .ok scored) :
    scored = refreshed t config now items := by
  have hscores : ∀ i ∈ items, ∃ s, t.score config now i.recencyKey = .ok s := by
    intro i hi
    cases hscore : t.score config now i.recencyKey with
    | ok s => exact ⟨s, rfl⟩
    | error failure =>
        obtain ⟨failure', hfailure⟩ := Traversal.mapM_error (f := fun item : Item => do
          return item.withScore (.real (← t.score config now item.recencyKey).score)) hi
          (e := failure) (by simp only [hscore, bind, Except.bind])
        rw [Ranking.rescore, hfailure] at h
        cases h
  rw [rescore_eq_of_forall hscores] at h
  exact (Except.ok.inj h).symm

theorem refreshed_perm (t : Tracker) (config : Config) (now : Int) (items : List Item) :
    (refreshed t config now items).Perm (items.map (restamped t config now)) :=
  sort_perm _

theorem Comparable.refreshed {items : List Item} (h : Comparable t config now items)
    (t' : Tracker) (config' : Config) (now' : Int) :
    Comparable t config now (refreshed t' config' now' items) := by
  intro i hi
  obtain ⟨i', hi', rfl⟩ := List.mem_map.mp ((refreshed_perm t' config' now' items).mem_iff.mp hi)
  exact h i' hi'

theorem refreshed_eq_of_perm {xs ys : List Item} (h : Comparable t config now xs)
    (hperm : xs.Perm ys) (hdistinct : (xs.map identity).Nodup) :
    refreshed t config now xs = refreshed t config now ys := by
  apply sort_eq_of_perm (hperm.map _)
  · intro i hi
    obtain ⟨i', hi', rfl⟩ := List.mem_map.mp hi
    exact isPlaced_restamped h hi'
  · rwa [map_identity_restamped]

theorem sort_refreshed {items : List Item} (h : Comparable t config now items) :
    Item.sort (refreshed t config now items) = refreshed t config now items := by
  apply sort_sort
  intro i hi
  obtain ⟨i', hi', rfl⟩ := List.mem_map.mp hi
  exact isPlaced_restamped h hi'

/-- Scores and order of an earlier moment leave no trace: rescoring a rescored list gives what
rescoring the list itself gives. -/
theorem refreshed_refreshed {items : List Item} (h : Comparable t config now items)
    (hdistinct : (items.map identity).Nodup) (t' : Tracker) (config' : Config) (now' : Int) :
    refreshed t config now (refreshed t' config' now' items) = refreshed t config now items := by
  have hmap : (items.map (restamped t' config' now')).map (restamped t config now) =
      items.map (restamped t config now) := by
    rw [List.map_map]
    apply List.map_congr_left
    intro i hi
    exact restamped_withScore i _
  calc
    refreshed t config now (refreshed t' config' now' items) =
        refreshed t config now (items.map (restamped t' config' now')) := by
      have hperm := refreshed_perm t' config' now' items
      apply refreshed_eq_of_perm (h.refreshed t' config' now') hperm
      rwa [(hperm.map identity).nodup_iff, map_identity_restamped]
    _ = refreshed t config now items := by rw [refreshed, hmap, refreshed]

/-- The items of some occurrences below a root, without scores yet. -/
def itemsOf (root : String) (occurrences : List Occurrence) : List Item :=
  occurrences.map fun o => Item.ofOccurrence o root

theorem nodup_identity_itemsOf {occurrences : List Occurrence} (root : String)
    (h : (occurrences.map Occurrence.key).Nodup) :
    ((itemsOf root occurrences).map identity).Nodup := by
  rw [itemsOf, List.map_map]
  rw [List.nodup_iff_pairwise_ne, List.pairwise_map] at h ⊢
  refine h.imp ?_
  intro a b hne he
  simp only [Function.comp_apply, identity, Item.ofOccurrence, Prod.mk.injEq] at he
  exact hne (by simp [Occurrence.key, he.1, he.2.1, he.2.2])

end SymbolSearch.Proofs.Rescoring
