import Mathlib.Data.List.Induction
import SymbolSearch.Config

namespace SymbolSearch.Proofs.GivenSettings

open Config

variable {c c' base : Config} {name : String} {value : Json}

theorem fields_of_set? (h : c.set? name value = some c') :
    c'.fields = OrderedMap.insert name value c.fields := by
  unfold set? at h
  split at h <;> cases h <;> rfl

theorem set?_eq_none_iff : c.set? name value = none ↔ name ∉ OrderedMap.keys c.fields := by
  unfold set?
  split <;> simp_all [OrderedMap.keys, fields]

theorem get?_fields_replaced (c : Config) (name : String) (value : Json) (other : String) :
    OrderedMap.get? other ((c.set? name value).getD c).fields =
      (OrderedMap.get? other c.fields).map fun old => if name = other then value else old := by
  cases hset : c.set? name value with
  | none =>
      have hmissing := OrderedMap.get?_eq_none_iff.mpr (set?_eq_none_iff.mp hset)
      by_cases hsame : name = other
      · subst hsame
        simp [hmissing]
      · simp [hsame]
  | some c' =>
      have hknown : name ∈ OrderedMap.keys c.fields := by
        by_contra hunknown
        rw [set?_eq_none_iff.mpr hunknown] at hset
        cases hset
      rw [Option.getD_some, fields_of_set? hset, OrderedMap.get?_insert]
      by_cases hsame : name = other
      · subst hsame
        obtain ⟨old, hold⟩ := Option.ne_none_iff_exists'.mp
          (mt OrderedMap.get?_eq_none_iff.mp (not_not_intro hknown))
        simp [hold]
      · simp [hsame]

theorem get?_fields_foldl (base : Config) (given : List (String × Json)) (name : String) :
    OrderedMap.get? name
        (given.foldl (fun c (name, value) => (c.set? name value).getD c) base).fields =
      (OrderedMap.get? name base.fields).map fun old =>
        (OrderedMap.get? name (OrderedMap.ofList given)).getD old := by
  induction given using List.reverseRecOn with
  | nil => simp [OrderedMap.ofList]
  | append_singleton given entry ih =>
      obtain ⟨known, value⟩ := entry
      have hlast : OrderedMap.get? name (OrderedMap.ofList (given ++ [(known, value)])) =
          if known = name then some value
          else OrderedMap.get? name (OrderedMap.ofList given) := by
        rw [OrderedMap.ofList, List.foldl_append]
        exact OrderedMap.get?_insert known name value _
      rw [List.foldl_append, List.foldl_cons, List.foldl_nil, get?_fields_replaced, ih,
        Option.map_map, hlast]
      by_cases hsame : known = name <;> simp [hsame, Function.comp_def]

/-- Wherever the environment can be read, the settings on top of it can be had: each has the value
that was given to it last, or else that of the environment, and names of no setting do nothing. -/
theorem ofGiven_ok {e : Environment} (h : ofEnvironment e = .ok base)
    (given : List (String × Json)) :
    ∃ c, ofGiven e given = .ok c ∧ ∀ name, OrderedMap.get? name c.fields =
      (OrderedMap.get? name base.fields).map fun old =>
        (OrderedMap.get? name (OrderedMap.ofList given)).getD old := by
  refine ⟨_, ?_, get?_fields_foldl base given⟩
  rw [ofGiven, h]
  rfl

end SymbolSearch.Proofs.GivenSettings
