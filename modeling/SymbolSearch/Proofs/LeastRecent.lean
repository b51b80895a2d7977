import SymbolSearch.Proofs.AccessHistory
import SymbolSearch.Proofs.TrackerSteps

namespace SymbolSearch.Proofs.LeastRecent

open AccessHistory
open Tracker
open TrackerSteps

/-- Records accesses one after the other; the first failure ends it. -/
def recordAll (config : Config) : List Access → Tracker → Store →
    Except Failure (Tracker × Store)
  | [], t, store => .ok (t, store)
  | a :: rest, t, store =>
      let recorded := t.record config store a.time a.file a.symbol
      match recorded.entry with
      | .error failure => .error failure
      | .ok _ => recordAll config rest recorded.tracker recorded.store

/-- The keys are the `cap` most recently accessed distinct ones of a history, or all where there
are fewer. -/
structure MostRecent (cap : Nat) (h : List Access) (keys : List String) : Prop where
  nodup : keys.Nodup
  length_eq : keys.length = min cap (distinctKeys h)
  known : ∀ key ∈ keys, key ∈ accessed h
  later : ∀ key ∈ keys, ∀ other ∈ accessed h, other ∉ keys →
    ∃ time ∈ latest? h other, ∃ time' ∈ latest? h key, time < time'

/-- An entry tells when its key was last accessed and how long its longest run is. -/
structure Tells (cap : Nat) (h : List Access) (key : String) (e : Entry) : Prop where
  time : latest? h key = some e.lastAccessed
  count : ∃ m : Nat, e.accessCount = m ∧ IsLongestRun cap key h m

/-- A map holds the recently accessed keys of a history, each with an entry that tells of it. -/
structure Follows (cap : Nat) (h : List Access) (entries : OrderedMap String Entry) : Prop where
  nodup : (OrderedMap.keys entries).Nodup
  mem_keys : ∀ key, key ∈ OrderedMap.keys entries ↔ key ∈ (byRecency h).rtake cap
  tells : ∀ key e, (key, e) ∈ entries → Tells cap h key e

variable {cap : Nat} {h : List Access} {a : Access} {entries : OrderedMap String Entry}
  {config : Config} {store : Store} {t : Tracker}

theorem follows_nil (cap : Nat) : Follows cap [] [] where
  nodup := by simp [OrderedMap.keys]
  mem_keys := by simp [OrderedMap.keys, byRecency]
  tells := by simp

theorem Follows.mostRecent (hf : Follows cap h entries)
    (htimes : h.Pairwise fun a b => a.time < b.time) :
    MostRecent cap h (OrderedMap.keys entries) := by
  have hwindow : ((byRecency h).rtake cap).Nodup :=
    (nodup_byRecency h).sublist (rtake_suffix cap _).sublist
  refine ⟨hf.nodup, ?_, ?_, ?_⟩
  · rw [((List.perm_ext_iff_of_nodup hf.nodup hwindow).mpr hf.mem_keys).length_eq, length_rtake,
      length_byRecency]
  · intro key hkey
    exact mem_byRecency.mp ((rtake_suffix cap _).subset ((hf.mem_keys key).mp hkey))
  · intro key hkey other hother hnot
    obtain ⟨front, hfront⟩ := rtake_suffix cap (byRecency h)
    have hsorted := pairwise_byRecency htimes
    rw [← hfront, List.pairwise_append] at hsorted
    have hinFront : other ∈ front := by
      have hmem := mem_byRecency.mpr hother
      rw [← hfront, List.mem_append] at hmem
      exact hmem.resolve_right fun hin => hnot ((hf.mem_keys other).mpr hin)
    obtain ⟨time, htime⟩ := exists_latest? hother
    have hknown := mem_byRecency.mp ((rtake_suffix cap _).subset ((hf.mem_keys key).mp hkey))
    obtain ⟨time', htime'⟩ := exists_latest? hknown
    exact ⟨time, htime, time', htime',
      hsorted.2.2 other hinFront key ((hf.mem_keys key).mp hkey) time htime time' htime'⟩

section Bumping

/-- The keys of a map after one more access, the latest one last. -/
def bumpedKeys (cap : Nat) (h : List Access) (a : Access) : List String :=
  ((byRecency h).rtake cap).filter (· ≠ a.key) ++ [a.key]

theorem bumpedKeys_suffix (cap : Nat) (h : List Access) (a : Access) :
    bumpedKeys cap h a <:+ byRecency (h ++ [a]) := by
  rw [bumpedKeys, byRecency_concat, List.suffix_append_self_iff]
  exact (rtake_suffix cap _).filter _

theorem nodup_bumpedKeys (cap : Nat) (h : List Access) (a : Access) :
    (bumpedKeys cap h a).Nodup :=
  (nodup_byRecency _).sublist (bumpedKeys_suffix cap h a).sublist

theorem min_le_length_bumpedKeys (cap : Nat) (h : List Access) (a : Access) :
    min cap (byRecency (h ++ [a])).length ≤ (bumpedKeys cap h a).length := by
  have hfilter {l : List String} (hl : l.Nodup) :
      (l.filter (· ≠ a.key)).length = (l.erase a.key).length := by
    rw [hl.erase_eq_filter]
    congr 2
    funext k
    rw [Bool.eq_iff_iff]
    simp
  have hnodup := nodup_byRecency h
  have hwindow : ((byRecency h).rtake cap).Nodup := hnodup.sublist (rtake_suffix cap _).sublist
  rw [bumpedKeys, byRecency_concat, List.length_append, List.length_append, hfilter hnodup,
    hfilter hwindow, List.length_erase, List.length_erase, length_rtake]
  by_cases hmem : a.key ∈ (byRecency h).rtake cap
  · rw [if_pos hmem, if_pos ((rtake_suffix cap _).subset hmem)]
    have hpos := List.length_pos_of_mem hmem
    rw [length_rtake] at hpos
    simp only [List.length_singleton]
    omega
  · rw [if_neg hmem]
    simp only [List.length_singleton]
    split <;> omega

theorem mem_keys_bumpedMap (hf : Follows cap h entries) (key : String) :
    key ∈ OrderedMap.keys (bumpedMap entries a.time a.file a.symbol) ↔
      key ∈ bumpedKeys cap h a := by
  have hbumped : key ∈ bumpedKeys cap h a ↔ key ∈ OrderedMap.keys entries ∨ key = a.key := by
    rw [bumpedKeys, List.mem_append, List.mem_filter, ← hf.mem_keys, List.mem_singleton,
      decide_eq_true_eq]
    tauto
  rw [hbumped, bumpedMap, OrderedMap.keys_insert]
  change key ∈ (if a.key ∈ OrderedMap.keys entries then _ else _ ++ [a.key]) ↔ _
  split
  · rename_i hold
    constructor
    · exact Or.inl
    · rintro (hmem | rfl)
      · exact hmem
      · exact hold
  · simp

/-- Every entry of a map after one more access tells of the history with that access. -/
theorem tells_of_mem_bumpedMap (hf : Follows cap h entries) {key : String} {e : Entry}
    (hmem : (key, e) ∈ bumpedMap entries a.time a.file a.symbol) :
    Tells cap (h ++ [a]) key e := by
  have hget := (OrderedMap.get?_eq_some_iff
    (OrderedMap.nodup_keys_insert _ _ hf.nodup)).mpr hmem
  rw [OrderedMap.get?_insert] at hget
  change (if a.key = key then some (bumped entries a.key a.file a.time) else _) = _ at hget
  by_cases hkey : a.key = key
  · rw [if_pos hkey] at hget
    obtain rfl := Option.some.inj hget
    refine ⟨?_, ?_⟩
    · rw [latest?_concat, if_pos hkey, lastAccessed_bumped]
    · rw [accessCount_bumped, hkey]
      -- The key is in the map if its latest access is recent: the count goes on or starts again.
      cases hold : OrderedMap.get? key entries with
      | some old =>
          have hmem' := (OrderedMap.get?_eq_some_iff hf.nodup).mp hold
          have hrecent : Recent cap key h :=
            mem_rtake_byRecency.mp ((hf.mem_keys key).mp (List.mem_map.mpr ⟨_, hmem', rfl⟩))
          obtain ⟨m, hm, hlongest⟩ := (hf.tells key old hmem').count
          refine ⟨m + 1, ?_, isLongestRun_concat_of_recent hkey hrecent hlongest⟩
          simp [hm]
      | none =>
          have hrecent : ¬ Recent cap key h := by
            rw [← mem_rtake_byRecency, ← hf.mem_keys]
            intro hkeys
            obtain ⟨⟨k, old⟩, hmem', rfl⟩ := List.mem_map.mp hkeys
            rw [(OrderedMap.get?_eq_some_iff hf.nodup).mpr hmem'] at hold
            cases hold
          exact ⟨1, rfl, isLongestRun_concat_of_not_recent hkey hrecent⟩
  · rw [if_neg hkey, OrderedMap.get?_eq_some_iff hf.nodup] at hget
    obtain ⟨htime, m, hm, hlongest⟩ := hf.tells key e hget
    refine ⟨?_, m, hm, (isLongestRun_concat_of_ne hkey).mpr hlongest⟩
    rw [latest?_concat, if_neg hkey, htime]

end Bumping

section Evicting

theorem evictionOrder_eq {keys : List String} (htimes : h.Pairwise fun a b => a.time < b.time)
    (hkeys : keys <:+ byRecency h) (hperm : (OrderedMap.keys entries).Perm keys)
    (htells : ∀ key e, (key, e) ∈ entries → Tells cap h key e) :
    evictionOrder entries = keys := by
  have hlatest {key : String} (hmem : key ∈ keys) : ∃ e, latest? h key = some e := by
    obtain ⟨⟨k, e⟩, he, rfl⟩ := List.mem_map.mp (hperm.mem_iff.mpr hmem)
    exact ⟨_, (htells k e he).time⟩
  have hsorted : (evictionOrder entries).Pairwise fun k k' =>
      ∃ t ∈ latest? h k, ∃ t' ∈ latest? h k', t ≤ t' := by
    rw [evictionOrder, OrderedMap.keys, List.pairwise_map]
    refine (pairwise_mergeSort_lastAccessed entries).imp_of_mem ?_
    rintro ⟨k, e⟩ ⟨k', e'⟩ he he' hle
    exact ⟨_, (htells k e (List.mem_mergeSort.mp he)).time, _,
      (htells k' e' (List.mem_mergeSort.mp he')).time, hle⟩
  have hstrict : keys.Pairwise fun k k' => ∀ t ∈ latest? h k, ∀ t' ∈ latest? h k', t < t' :=
    (pairwise_byRecency htimes).sublist hkeys.sublist
  have hkeysSorted : keys.Pairwise fun k k' =>
      ∃ t ∈ latest? h k, ∃ t' ∈ latest? h k', t ≤ t' := by
    refine hstrict.imp_of_mem ?_
    intro k k' hk hk' hlt
    obtain ⟨t, ht⟩ := hlatest hk
    obtain ⟨t', ht'⟩ := hlatest hk'
    exact ⟨t, ht, t', ht', (hlt t ht t' ht').le⟩
  have hsame : (evictionOrder entries).Perm keys := (evictionOrder_perm entries).trans hperm
  refine List.Perm.eq_of_pairwise ?_ hsorted hkeysSorted hsame
  -- Two keys with one latest time are one key, as the times of the order increase.
  rintro k k' hk hk' ⟨t, ht, t', ht', hle⟩ ⟨u', hu', u, hu, hge⟩
  obtain rfl : t = u := Option.mem_unique ht hu
  obtain rfl : t' = u' := Option.mem_unique ht' hu'
  by_contra hne
  have hkeysNodup : keys.Nodup := (nodup_byRecency h).sublist hkeys.sublist
  rcases List.pairwise_iff_getElem.mp hstrict with hindex
  obtain ⟨i, hi, rfl⟩ := List.getElem_of_mem (hsame.mem_iff.mp hk)
  obtain ⟨j, hj, rfl⟩ := List.getElem_of_mem hk'
  rcases Nat.lt_trichotomy i j with hlt | rfl | hlt
  · have := hindex i j hi hj hlt t ht t' ht'
    omega
  · exact hne rfl
  · have := hindex j i hj hi hlt t' ht' t ht
    omega

/-- One more access and the cut to size lead from a map that follows a history to one that follows
the history with that access. -/
theorem follows_evict (htimes : (h ++ [a]).Pairwise fun a b => a.time < b.time)
    (hf : Follows cap h entries) :
    Follows cap (h ++ [a])
      (evict ((bumpedMap entries a.time a.file a.symbol).length - cap)
        (bumpedMap entries a.time a.file a.symbol)) := by
  -- The keys before the cut are an end of the order by recency, and that end is cut to size.
  let map := bumpedMap entries a.time a.file a.symbol
  let count := map.length - cap
  have hnodup : (OrderedMap.keys map).Nodup := OrderedMap.nodup_keys_insert _ _ hf.nodup
  have hperm : (OrderedMap.keys map).Perm (bumpedKeys cap h a) :=
    (List.perm_ext_iff_of_nodup hnodup (nodup_bumpedKeys cap h a)).mpr (mem_keys_bumpedMap hf)
  have hlength : map.length = (bumpedKeys cap h a).length := by
    rw [← hperm.length_eq, OrderedMap.keys, List.length_map]
  have horder : evictionOrder map = bumpedKeys cap h a :=
    evictionOrder_eq htimes (bumpedKeys_suffix cap h a) hperm
      fun key e hmem => tells_of_mem_bumpedMap hf hmem
  have hwindow : (bumpedKeys cap h a).drop count = (byRecency (h ++ [a])).rtake cap := by
    rw [← rtake_eq_of_suffix (bumpedKeys_suffix cap h a) (min_le_length_bumpedKeys cap h a),
      List.rtake, ← hlength]
  have hsplit : ((bumpedKeys cap h a).take count ++ (bumpedKeys cap h a).drop count).Nodup := by
    rw [List.take_append_drop]
    exact nodup_bumpedKeys cap h a
  refine ⟨nodup_keys_evict _ hnodup, ?_, ?_⟩
  · intro key
    rw [← hwindow]
    constructor
    · intro hkey
      obtain ⟨⟨k, e⟩, hmem, rfl⟩ := List.mem_map.mp hkey
      obtain ⟨hin, hout⟩ := mem_evict.mp hmem
      rw [horder] at hout
      have hk : k ∈ bumpedKeys cap h a := hperm.mem_iff.mp (List.mem_map.mpr ⟨_, hin, rfl⟩)
      rw [← List.take_append_drop count (bumpedKeys cap h a), List.mem_append] at hk
      exact hk.resolve_left hout
    · intro hkey
      have hin : key ∈ OrderedMap.keys map := hperm.mem_iff.mpr (List.mem_of_mem_drop hkey)
      obtain ⟨⟨k, e⟩, hmem, rfl⟩ := List.mem_map.mp hin
      refine List.mem_map.mpr ⟨(k, e), mem_evict.mpr ⟨hmem, ?_⟩, rfl⟩
      rw [horder]
      intro htake
      exact (List.nodup_append.mp hsplit).2.2 k htake k hkey rfl
  · intro key e hmem
    exact tells_of_mem_bumpedMap hf (mem_evict.mp hmem).1

end Evicting

section Runs

theorem record_follows {notices : List Notice} (hcap : config.maxEntries = .int cap)
    (htimes : (h ++ [a]).Pairwise fun a b => a.time < b.time)
    (hload : t.load config store = .ok (⟨t.entries, true⟩, notices))
    (hf : Follows cap h t.entries) :
    ∃ e entries, (t.record config store a.time a.file a.symbol).entry = .ok e ∧
      (t.record config store a.time a.file a.symbol).tracker = ⟨entries, true⟩ ∧
      Follows cap (h ++ [a]) entries := by
  have hcount (size : Nat) : ((size : Int) - (cap : Int)).toNat = size - cap := by omega
  rw [record_eq, hload, hcap]
  simp only [overflow_int, hcount]
  exact ⟨_, _, rfl, rfl, follows_evict htimes hf⟩

theorem recordAll_follows {notices : List Notice} (hcap : config.maxEntries = .int cap)
    (accesses : List Access) (htimes : (h ++ accesses).Pairwise fun a b => a.time < b.time)
    (hload : t.load config store = .ok (⟨t.entries, true⟩, notices))
    (hf : Follows cap h t.entries) :
    ∃ t' store', recordAll config accesses t store = .ok (t', store') ∧
      Follows cap (h ++ accesses) t'.entries := by
  induction accesses generalizing h t store notices with
  | nil => exact ⟨t, store, rfl, by simpa using hf⟩
  | cons a rest ih =>
      have hassoc : h ++ a :: rest = (h ++ [a]) ++ rest := by simp
      rw [hassoc] at htimes ⊢
      obtain ⟨e, entries, hentry, htracker, hfollows⟩ :=
        record_follows hcap (List.pairwise_append.mp htimes).1 hload hf
      rw [recordAll]
      simp only [hentry, htracker]
      exact ih htimes (load_of_loaded rfl) hfollows

/-- Accesses at increasing times, recorded where nothing is stored yet, leave a map of the most
recently accessed keys. Each comes with the time of its latest access and with the length of its
latest run of accesses that were close enough together for it to stay in the map. -/
theorem recordAll_keeps_most_recent {cap : Nat} {config : Config} {store : Store}
    (hcap : config.maxEntries = .int cap)
    (hempty : store.get config.recencyKey (.object []) = .ok (.object []))
    (accesses : List Access) (htimes : accesses.Pairwise fun a b => a.time < b.time) :
    ∃ t store', recordAll config accesses Tracker.fresh store = .ok (t, store') ∧
      MostRecent cap accesses (OrderedMap.keys t.entries) ∧
      ∀ key e, (key, e) ∈ t.entries → Tells cap accesses key e := by
  have hload : Tracker.fresh.load config store = .ok (⟨Tracker.fresh.entries, true⟩, []) := by
    rw [load, hempty]
    rfl
  obtain ⟨t, store', hrun, hf⟩ :=
    recordAll_follows (h := []) hcap accesses htimes hload (follows_nil cap)
  exact ⟨t, store', hrun, hf.mostRecent htimes, hf.tells⟩

end Runs

section Sample

/-- A file that is opened, pushed out by two others and opened again. -/
def sampleAccesses : List Access :=
  [⟨1, "a", none⟩, ⟨2, "b", some "f"⟩, ⟨3, "c", none⟩, ⟨4, "a", none⟩]

/-- Settings that allow for two entries. -/
def sampleConfig : Config :=
  { Config.defaults "/home" with maxEntries := .int 2 }

theorem recordAll_keeps_most_recent_sample :
    sampleAccesses.Pairwise (fun a b => a.time < b.time) ∧
      ∃ t store', recordAll sampleConfig sampleAccesses Tracker.fresh Store.empty =
          .ok (t, store') ∧
        MostRecent 2 sampleAccesses (OrderedMap.keys t.entries) ∧
        ∀ key e, (key, e) ∈ t.entries → Tells 2 sampleAccesses key e :=
  ⟨by decide, recordAll_keeps_most_recent rfl rfl sampleAccesses (by decide)⟩

end Sample

end SymbolSearch.Proofs.LeastRecent
