import SymbolSearch.Recency.Tracker

namespace SymbolSearch.Proofs.TrackerSteps

open Tracker

variable {t t' : Tracker} {config : Config} {store : Store} {now : Int} {file : String}
  {symbol : Option String}

section Loading

theorem load_of_loaded (h : t.loaded = true) : t.load config store = .ok (t, []) := by
  rw [load, h]
  rfl

theorem loaded_of_load {notices : List Notice} (h : t.load config store = .ok (t', notices)) :
    t'.loaded = true := by
  rw [load] at h
  split at h
  · rename_i hbefore
    cases h
    exact hbefore
  · split at h
    · cases h
    · split at h
      · cases h
      · cases h
        rfl

end Loading

section Recording

/-- A map after one more access to a key, before it is cut to size. -/
def bumpedMap (entries : OrderedMap String Entry) (now : Int) (file : String)
    (symbol : Option String) : OrderedMap String Entry :=
  let key := recencyKey file symbol
  OrderedMap.insert key (bumped entries key file now) entries

theorem record_eq (t : Tracker) (config : Config) (store : Store) (now : Int) (file : String)
    (symbol : Option String) :
    t.record config store now file symbol =
      match t.load config store with
      | .error error => ⟨t, store, [], .error error⟩
      | .ok (loaded, notices) =>
          let map := bumpedMap loaded.entries now file symbol
          match overflow config.maxEntries map.length with
          | .error error => ⟨⟨map, true⟩, store, notices, .error error⟩
          | .ok count =>
              let kept : Tracker := ⟨evict count map, true⟩
              let saved := kept.save config store
              ⟨kept, saved.1, notices ++ saved.2,
                .ok (bumped loaded.entries (recencyKey file symbol) file now)⟩ := by
  rw [record]
  cases hload : t.load config store with
  | error error => rfl
  | ok result =>
      obtain ⟨loaded, notices⟩ := result
      have hprune : (loaded.bump now file symbol).1.prune config =
          (overflow config.maxEntries (bumpedMap loaded.entries now file symbol).length).map
            fun count => ⟨evict count (bumpedMap loaded.entries now file symbol), true⟩ := by
        change (overflow config.maxEntries (bumpedMap loaded.entries now file symbol).length >>=
          fun count => Except.ok
            (Tracker.mk (evict count (bumpedMap loaded.entries now file symbol)) true)) = _
        cases overflow config.maxEntries (bumpedMap loaded.entries now file symbol).length <;> rfl
      dsimp only
      rw [hprune]
      cases overflow config.maxEntries (bumpedMap loaded.entries now file symbol).length <;> rfl

theorem loaded_record (h : t.loaded = true) (config : Config) (store : Store) (now : Int)
    (file : String) (symbol : Option String) :
    (t.record config store now file symbol).tracker.loaded = true := by
  rw [record_eq, load_of_loaded h]
  dsimp only
  split <;> rfl

theorem lastAccessed_bumped (entries : OrderedMap String Entry) (key path : String) (now : Int) :
    (bumped entries key path now).lastAccessed = now := by
  rw [bumped]
  split <;> rfl

theorem accessCount_bumped (entries : OrderedMap String Entry) (key path : String) (now : Int) :
    (bumped entries key path now).accessCount =
      ((OrderedMap.get? key entries).map Entry.accessCount).getD 0 + 1 := by
  rw [bumped]
  split <;> rename_i hget <;> simp [hget]

end Recording

section Clearing

theorem tracker_clear (config : Config) (store : Store) :
    (Tracker.clear config store).1 = ⟨[], true⟩ := by
  rw [Tracker.clear]
  split <;> rfl

end Clearing

section Evicting

theorem mem_evict {count : Nat} {entries : OrderedMap String Entry} {entry : String × Entry} :
    entry ∈ evict count entries ↔
      entry ∈ entries ∧ entry.1 ∉ (evictionOrder entries).take count := by
  rw [evict]
  by_cases hcount : count = 0
  · simp [hcount]
  · simp [hcount]

theorem evict_sublist (count : Nat) (entries : OrderedMap String Entry) :
    (evict count entries).Sublist entries := by
  rw [evict]
  split
  · exact List.Sublist.refl _
  · exact List.filter_sublist

theorem nodup_keys_evict {entries : OrderedMap String Entry} (count : Nat)
    (h : (OrderedMap.keys entries).Nodup) : (OrderedMap.keys (evict count entries)).Nodup :=
  List.Pairwise.sublist ((evict_sublist count entries).map Prod.fst) h

theorem evictionOrder_perm (entries : OrderedMap String Entry) :
    (evictionOrder entries).Perm (OrderedMap.keys entries) :=
  (List.mergeSort_perm entries _).map Prod.fst

theorem pairwise_mergeSort_lastAccessed (entries : OrderedMap String Entry) :
    (entries.mergeSort fun a b => decide (a.2.lastAccessed ≤ b.2.lastAccessed)).Pairwise
      fun a b => a.2.lastAccessed ≤ b.2.lastAccessed := by
  refine (List.pairwise_mergeSort ?_ ?_ entries).imp ?_
  · intro a b c hab hbc
    simp only [decide_eq_true_eq] at hab hbc ⊢
    exact Int.le_trans hab hbc
  · intro a b
    simp only [Bool.or_eq_true, decide_eq_true_eq]
    exact Int.le_total _ _
  · intro a b hab
    simpa using hab

end Evicting

section Overflow

/-- With a whole number as the cap, what exceeds it has to go. -/
theorem overflow_int (cap : Int) (size : Nat) :
    overflow (.int cap) size = .ok ((size : Int) - cap).toNat := by
  rw [overflow, Operand.greater_int]
  by_cases hlt : cap < (size : Int)
  · rw [decide_eq_true hlt]
    rfl
  · rw [decide_eq_false hlt]
    have hzero : ((size : Int) - cap).toNat = 0 := by omega
    rw [hzero]

end Overflow

end SymbolSearch.Proofs.TrackerSteps
