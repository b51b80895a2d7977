import Mathlib.Data.List.Nodup
import SymbolSearch.Proofs.StoredMap

namespace SymbolSearch.Proofs.Eviction

open StoredMap
open Tracker
open TrackerSteps

/-- A map after one more access. A known key keeps its place and its path, and is counted once more;
a new one comes last. -/
def touched (entries : OrderedMap String Entry) (now : Int) (file : String)
    (symbol : Option String) : OrderedMap String Entry :=
  let key := recencyKey file symbol
  if key ∈ OrderedMap.keys entries then
    entries.map fun entry =>
      if entry.1 = key then
        (key, { entry.2 with lastAccessed := now, accessCount := entry.2.accessCount + 1 })
      else entry
  else entries ++ [(key, ⟨file, now, 1⟩)]

/-- An entry at a place of a map was last opened before the one at another place, or at the same
time and stands in front of it. -/
def Older (a b : (String × Entry) × Nat) : Prop :=
  a.1.2.lastAccessed < b.1.2.lastAccessed ∨
    a.1.2.lastAccessed = b.1.2.lastAccessed ∧ a.2 < b.2

instance (a b : (String × Entry) × Nat) : Decidable (Older a b) :=
  inferInstanceAs (Decidable (_ ∨ _))

/-- How many entries of a map are older than the one at a place. -/
def olderCount (entries : OrderedMap String Entry) (a : (String × Entry) × Nat) : Nat :=
  entries.zipIdx.countP (Older · a)

/-- A map without its oldest entries, as many as are told. -/
def withoutOldest (count : Nat) (entries : OrderedMap String Entry) : OrderedMap String Entry :=
  (entries.zipIdx.filter fun a => count ≤ olderCount entries a).map Prod.fst

variable {entries : OrderedMap String Entry} {a b : (String × Entry) × Nat} {count : Nat}

theorem Older.trans {c : (String × Entry) × Nat} (hab : Older a b) (hbc : Older b c) :
    Older a c := by
  unfold Older at hab hbc ⊢
  omega

theorem Older.asymm (hab : Older a b) : ¬Older b a := by
  unfold Older at hab ⊢
  omega

section Order

/-- The entries of a map with their places, oldest first. -/
def byAge (entries : OrderedMap String Entry) : List ((String × Entry) × Nat) :=
  entries.zipIdx.mergeSort
    (List.zipIdxLE fun a b => decide (a.2.lastAccessed ≤ b.2.lastAccessed))

theorem byAge_perm (entries : OrderedMap String Entry) :
    (byAge entries).Perm entries.zipIdx :=
  List.mergeSort_perm ..

theorem evictionOrder_eq_map_byAge (entries : OrderedMap String Entry) :
    evictionOrder entries = (byAge entries).map fun a => a.1.1 := by
  rw [evictionOrder, ← List.mergeSort_zipIdx, OrderedMap.keys, List.map_map]
  rfl

theorem nodup_places_byAge (entries : OrderedMap String Entry) :
    ((byAge entries).map Prod.snd).Nodup := by
  rw [((byAge_perm entries).map Prod.snd).nodup_iff, List.zipIdx_map_snd]
  exact List.nodup_range'

theorem pairwise_byAge (entries : OrderedMap String Entry) :
    (byAge entries).Pairwise Older := by
  let le (a b : String × Entry) : Bool := decide (a.2.lastAccessed ≤ b.2.lastAccessed)
  have htrans (a b c : String × Entry) : le a b → le b c → le a c := by
    simp only [le, decide_eq_true_eq]
    omega
  have htotal (a b : String × Entry) : (le a b || le b a) = true := by
    simp only [le, Bool.or_eq_true, decide_eq_true_eq]
    omega
  have hsorted := List.pairwise_mergeSort (List.zipIdxLE_trans htrans)
    (List.zipIdxLE_total htotal) entries.zipIdx
  have hplaces := List.pairwise_map.mp (nodup_places_byAge entries)
  refine (hsorted.and hplaces).imp ?_
  -- The sort compares places where times are equal, and no two entries share a place.
  rintro a b ⟨hle, hne⟩
  simp only [List.zipIdxLE, le, decide_eq_true_eq] at hle
  unfold Older
  split at hle
  · split at hle
    · simp only [decide_eq_true_eq] at hle
      omega
    · omega
  · cases hle

/-- The place of an entry in the order of age is the number of entries that are older. -/
theorem olderCount_getElem {i : Nat} (hi : i < (byAge entries).length) :
    olderCount entries (byAge entries)[i] = i := by
  have hsorted := pairwise_byAge entries
  have hsplit : byAge entries =
      (byAge entries).take i ++ (byAge entries)[i] :: (byAge entries).drop (i + 1) := by
    rw [List.getElem_cons_drop, List.take_append_drop]
  generalize hpivot : (byAge entries)[i] = pivot at hsplit ⊢
  have hcount : ((byAge entries).take i ++ pivot :: (byAge entries).drop (i + 1)).countP
      (Older · pivot) = i := by
    rw [hsplit, List.pairwise_append, List.pairwise_cons] at hsorted
    have hbefore : ((byAge entries).take i).countP (Older · pivot) =
        ((byAge entries).take i).length := by
      rw [List.countP_eq_length]
      intro a ha
      exact decide_eq_true (hsorted.2.2 a ha pivot List.mem_cons_self)
    have hafter : ((byAge entries).drop (i + 1)).countP (Older · pivot) = 0 := by
      rw [List.countP_eq_zero]
      intro a ha hold
      exact (hsorted.2.1.1 a ha).asymm (of_decide_eq_true hold)
    have hself : ¬Older pivot pivot := fun h => h.asymm h
    rw [List.countP_append, List.countP_cons, hbefore, hafter, List.length_take]
    simp only [hself, decide_false, Bool.false_eq_true, if_false]
    omega
  rw [olderCount, ← (byAge_perm entries).countP_eq, ← hcount, ← hsplit]

theorem olderCount_le_of_older (h : Older a b) : olderCount entries a ≤ olderCount entries b := by
  apply List.countP_mono_left
  intro c _ hc
  exact decide_eq_true ((of_decide_eq_true hc).trans h)

end Order

section Cut

theorem mem_withoutOldest {entry : String × Entry} :
    entry ∈ withoutOldest count entries ↔
      ∃ place, (entry, place) ∈ entries.zipIdx ∧ count ≤ olderCount entries (entry, place) := by
  simp [withoutOldest]

theorem withoutOldest_sublist (count : Nat) (entries : OrderedMap String Entry) :
    (withoutOldest count entries).Sublist entries := by
  have hsublist := (List.filter_sublist (l := entries.zipIdx)
    (p := fun a => decide (count ≤ olderCount entries a))).map Prod.fst
  rwa [List.zipIdx_map_fst] at hsublist

theorem length_withoutOldest (count : Nat) (entries : OrderedMap String Entry) :
    (withoutOldest count entries).length = entries.length - count := by
  have hold : ((byAge entries).take count).filter (fun a => count ≤ olderCount entries a) = [] := by
    rw [List.filter_eq_nil_iff]
    intro a ha
    obtain ⟨i, hi, rfl⟩ := List.mem_take_iff_getElem.mp ha
    rw [decide_eq_true_eq, olderCount_getElem]
    omega
  have hyoung : ((byAge entries).drop count).filter (fun a => count ≤ olderCount entries a) =
      (byAge entries).drop count := by
    rw [List.filter_eq_self]
    intro a ha
    obtain ⟨i, hi, rfl⟩ := List.mem_drop_iff_getElem.mp ha
    rw [decide_eq_true_eq, olderCount_getElem]
    omega
  have hkept : (byAge entries).filter (fun a => count ≤ olderCount entries a) =
      (byAge entries).drop count := by
    rw [← List.take_append_drop count (byAge entries), List.filter_append, hold, hyoung,
      List.nil_append, List.take_append_drop]
  rw [withoutOldest, List.length_map, ← ((byAge_perm entries).filter _).length_eq, hkept,
    List.length_drop, (byAge_perm entries).length_eq, List.length_zipIdx]

theorem mem_take_evictionOrder_iff (hnodup : (OrderedMap.keys entries).Nodup)
    (ha : a ∈ entries.zipIdx) :
    a.1.1 ∈ (evictionOrder entries).take count ↔ olderCount entries a < count := by
  have hkeys : ((byAge entries).map fun a => a.1.1).Nodup := by
    rw [← evictionOrder_eq_map_byAge, (evictionOrder_perm entries).nodup_iff]
    exact hnodup
  obtain ⟨i, hi, rfl⟩ := List.getElem_of_mem ((byAge_perm entries).mem_iff.mpr ha)
  rw [evictionOrder_eq_map_byAge, olderCount_getElem, List.mem_take_iff_getElem]
  constructor
  · rintro ⟨j, hj, hkey⟩
    rw [List.length_map] at hj
    have hat : i < ((byAge entries).map fun a => a.1.1).length := by rwa [List.length_map]
    have hfound : j < ((byAge entries).map fun a => a.1.1).length := by
      rw [List.length_map]
      omega
    have hsame : ((byAge entries).map fun a => a.1.1)[j] =
        ((byAge entries).map fun a => a.1.1)[i] := by
      rw [hkey, List.getElem_map]
    have hij := hkeys.getElem_inj_iff.mp hsame
    omega
  · intro hlt
    exact ⟨i, by rw [List.length_map]; omega, List.getElem_map _⟩

theorem evict_eq_withoutOldest (hnodup : (OrderedMap.keys entries).Nodup) (count : Nat) :
    evict count entries = withoutOldest count entries := by
  have hfilter : evict count entries =
      entries.filter fun entry => entry.1 ∉ (evictionOrder entries).take count := by
    rw [evict]
    by_cases hcount : count = 0
    · simp [hcount]
    · simp [hcount]
  have hplaced (p : String × Entry → Bool) :
      entries.filter p = (entries.zipIdx.filter fun a => p a.1).map Prod.fst := by
    conv_lhs => rw [← List.zipIdx_map_fst 0 entries, List.filter_map]
    rfl
  rw [hfilter, hplaced, withoutOldest]
  congr 1
  apply List.filter_congr
  intro a ha
  apply decide_eq_decide.mpr
  rw [mem_take_evictionOrder_iff hnodup ha, Nat.not_lt]

theorem lastAccessed_le_of_notMem_withoutOldest {x y : String × Entry} (hx : x ∈ entries)
    (hgone : x ∉ withoutOldest count entries) (hy : y ∈ withoutOldest count entries) :
    x.2.lastAccessed ≤ y.2.lastAccessed := by
  obtain ⟨j, -, hj⟩ := mem_withoutOldest.mp hy
  rw [← List.zipIdx_map_fst 0 entries] at hx
  obtain ⟨⟨x, i⟩, hi, rfl⟩ := List.mem_map.mp hx
  have hold : olderCount entries (x, i) < count := by
    by_contra hmany
    exact hgone (mem_withoutOldest.mpr ⟨i, hi, Nat.le_of_not_lt hmany⟩)
  by_contra hnewer
  have holder : Older (y, j) (x, i) := .inl (Int.lt_of_not_ge hnewer)
  have hfewer : olderCount entries (y, j) ≤ olderCount entries (x, i) :=
    olderCount_le_of_older holder
  omega

theorem withoutOldest_zero (entries : OrderedMap String Entry) :
    withoutOldest 0 entries = entries :=
  (withoutOldest_sublist 0 entries).eq_of_length (length_withoutOldest 0 entries)

end Cut

section Recording

variable {config : Config} {store : Store} {t loaded : Tracker} {notices : List Notice}
  {now : Int} {file : String} {symbol : Option String} {cap : Nat}

theorem bumpedMap_eq_touched (hnodup : (OrderedMap.keys entries).Nodup) (now : Int)
    (file : String) (symbol : Option String) :
    bumpedMap entries now file symbol = touched entries now file symbol := by
  rw [bumpedMap, touched]
  dsimp only
  split
  · rename_i hmem
    rw [OrderedMap.insert_eq_map _ hnodup hmem]
    apply List.map_congr_left
    rintro ⟨key, e⟩ hentry
    split
    · rename_i hkey
      dsimp only at hkey
      subst hkey
      rw [bumped, (OrderedMap.get?_eq_some_iff hnodup).mpr hentry]
    · rfl
  · rename_i hmem
    rw [OrderedMap.insert_eq_append _ hmem, bumped, OrderedMap.get?_eq_none_iff.mpr hmem]

theorem nodup_keys_touched (hnodup : (OrderedMap.keys entries).Nodup) (now : Int)
    (file : String) (symbol : Option String) :
    (OrderedMap.keys (touched entries now file symbol)).Nodup := by
  rw [← bumpedMap_eq_touched hnodup]
  exact OrderedMap.nodup_keys_insert _ _ hnodup

theorem nodup_of_load (h : (OrderedMap.keys t.entries).Nodup)
    (hload : t.load config store = .ok (loaded, notices)) :
    (OrderedMap.keys loaded.entries).Nodup := by
  by_cases hbefore : t.loaded = true
  · rw [load_of_loaded hbefore] at hload
    cases hload
    exact h
  · have hfresh : Tracker.fresh.load config store = .ok (loaded, notices) := by
      rw [← hload, load, load, if_neg hbefore]
      rfl
    exact (storable_of_load storable_nil hfresh).nodup

/-- A new key comes last, and where nothing was opened later it is the youngest. -/
theorem mem_withoutOldest_concat {entry : String × Entry}
    (hlatest : ∀ other ∈ entries, other.2.lastAccessed ≤ entry.2.lastAccessed)
    (hcount : count ≤ entries.length) : entry ∈ withoutOldest count (entries ++ [entry]) := by
  refine mem_withoutOldest.mpr ⟨entries.length, ?_, ?_⟩
  · rw [List.zipIdx_append, List.mem_append]
    exact .inr (by simp)
  · have hall : entries.zipIdx.countP (Older · (entry, entries.length)) =
        entries.zipIdx.length := by
      rw [List.countP_eq_length]
      rintro ⟨other, place⟩ hother
      have hplace := List.snd_lt_of_mem_zipIdx hother
      have htime := hlatest other (List.fst_mem_of_mem_zipIdx hother)
      apply decide_eq_true
      unfold Older
      dsimp only at hplace ⊢
      omega
    rw [olderCount, List.zipIdx_append, List.countP_append, hall, List.length_zipIdx]
    omega

/-- Recording an access brings the entry of the key up to date, or adds one at the end. If the map
is then larger than the settings allow, as many entries as there are too many go, oldest first, and
of two opened at one time the one in front first; the others stay as they are, in their order. So
the map never exceeds the cap, nothing that goes is newer than what stays, and the recorded key
stays if there is room for it, the map was not too large before and nothing was opened later. -/
theorem record_evicts_oldest (hcap : config.maxEntries = .int cap)
    (hkeys : (OrderedMap.keys t.entries).Nodup)
    (hload : t.load config store = .ok (loaded, notices)) (now : Int) (file : String)
    (symbol : Option String) :
    let key := recencyKey file symbol
    let map := touched loaded.entries now file symbol
    let recorded := t.record config store now file symbol
    let kept := recorded.tracker.entries
    (∃ e, recorded.entry = .ok e ∧ OrderedMap.get? key map = some e) ∧
      kept = (if map.length ≤ cap then map else withoutOldest (map.length - cap) map) ∧
      kept.length = min map.length cap ∧ kept.Sublist map ∧
      (∀ gone ∈ map, gone ∉ kept → ∀ entry ∈ kept,
        gone.2.lastAccessed ≤ entry.2.lastAccessed) ∧
      (1 ≤ cap → loaded.entries.length ≤ cap →
        (∀ entry ∈ loaded.entries, entry.1 ≠ key → entry.2.lastAccessed ≤ now) →
        key ∈ OrderedMap.keys kept) := by
  intro key map recorded kept
  have hnodup := nodup_of_load hkeys hload
  have hmap : bumpedMap loaded.entries now file symbol = map :=
    bumpedMap_eq_touched hnodup now file symbol
  have hcount : ((map.length : Int) - cap).toNat = map.length - cap := by omega
  have hrecorded : recorded.entry = .ok (bumped loaded.entries key file now) ∧
      kept = evict (map.length - cap) map := by
    simp only [recorded, kept]
    rw [record_eq, hload, hcap]
    simp only [overflow_int, hmap, hcount, and_true]
    rfl
  have hkept : kept = withoutOldest (map.length - cap) map :=
    hrecorded.2.trans (evict_eq_withoutOldest (nodup_keys_touched hnodup now file symbol) _)
  refine ⟨⟨_, hrecorded.1, ?_⟩, ?_, ?_, ?_, ?_, ?_⟩
  · rw [← hmap, bumpedMap, OrderedMap.get?_insert, if_pos rfl]
  · split
    · rename_i hfits
      rw [hkept, Nat.sub_eq_zero_of_le hfits, withoutOldest_zero]
    · exact hkept
  · rw [hkept, length_withoutOldest]
    omega
  · rw [hkept]
    exact withoutOldest_sublist _ map
  · rw [hkept]
    exact fun gone hgone hnot entry hentry =>
      lastAccessed_le_of_notMem_withoutOldest hgone hnot hentry
  · intro hroom hsize hlatest
    by_cases hknown : key ∈ OrderedMap.keys loaded.entries
    · -- A known key makes the map no larger, so nothing goes.
      have hlength : map.length = loaded.entries.length := by
        rw [← hmap, bumpedMap, OrderedMap.insert_eq_map _ hnodup hknown, List.length_map]
      rw [hkept, Nat.sub_eq_zero_of_le (by omega), withoutOldest_zero, ← hmap, bumpedMap,
        OrderedMap.keys_insert, if_pos hknown]
      exact hknown
    · have happended : map = loaded.entries ++ [(key, ⟨file, now, 1⟩)] := by
        simp only [map, touched]
        exact if_neg hknown
      have hothers (entry : String × Entry) (hentry : entry ∈ loaded.entries) :
          entry.2.lastAccessed ≤ now :=
        hlatest entry hentry fun he => hknown (List.mem_map.mpr ⟨entry, hentry, he⟩)
      have hmem : (key, ⟨file, now, 1⟩) ∈ kept := by
        rw [hkept, happended]
        refine mem_withoutOldest_concat hothers ?_
        rw [List.length_append, List.length_singleton]
        omega
      exact List.mem_map.mpr ⟨_, hmem, rfl⟩

end Recording

section Sample

/-- Settings that allow for two entries. -/
def sampleConfig : Config :=
  { Config.defaults "/home" with maxEntries := .int 2 }

/-- Four entries where two are allowed. One is from the future, and two were opened at one time. -/
def sampleTracker : Tracker :=
  ⟨[("a", ⟨"a", 9, 1⟩), ("b", ⟨"b", 2, 5⟩), ("c", ⟨"c", 2, 3⟩), ("d", ⟨"d", 1, 4⟩)], true⟩

/-- Opening the first of the two anew leaves it and the one from the future. -/
theorem record_evicts_oldest_sample :
    (sampleTracker.record sampleConfig Store.empty 3 "b" none).tracker.entries =
        [("a", ⟨"a", 9, 1⟩), ("b", ⟨"b", 3, 6⟩)] ∧
      (sampleTracker.record sampleConfig Store.empty 3 "b" none).tracker.entries =
        withoutOldest 2 (touched sampleTracker.entries 3 "b" none) := by
  have hcap : sampleConfig.maxEntries = .int (2 : Nat) := rfl
  have hload : sampleTracker.load sampleConfig Store.empty = .ok (sampleTracker, []) := rfl
  have hcut := (record_evicts_oldest hcap (by decide) hload 3 "b" none).2.1
  exact ⟨hcut.trans (by decide), hcut⟩

end Sample

end SymbolSearch.Proofs.Eviction
