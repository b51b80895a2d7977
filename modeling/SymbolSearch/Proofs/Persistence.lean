import SymbolSearch.Proofs.StoredMap

namespace SymbolSearch.Proofs.Persistence

open StoredMap
open Tracker
open TrackerSteps

/-- A store and the trackers that share it. -/
structure Shared where
  store : Store
  trackers : List Tracker

/-- What happens to the trackers of a store, each given by its number. One that is consulted about
scores, entries or the most recent keys loads its map first. Writes may begin to fail at any time,
or to go through again. -/
inductive TrackerEvent
  | create
  | record (i : Nat) (now : Int) (file : String) (symbol : Option String)
  | clear (i : Nat)
  | invalidate (i : Nat)
  | consult (i : Nat)
  | setFault (fault : Option WriteFault)

namespace Shared

/-- Lets one of the trackers do something that may change the store. -/
def act (s : Shared) (i : Nat) (f : Tracker → Tracker × Store) : Shared :=
  match s.trackers[i]? with
  | none => s
  | some t => ⟨(f t).2, s.trackers.set i (f t).1⟩

/-- What one event leads to. -/
def step (config : Config) (s : Shared) : TrackerEvent → Shared
  | .create => { s with trackers := s.trackers ++ [Tracker.fresh] }
  | .record i now file symbol =>
      s.act i fun t =>
        let recorded := t.record config s.store now file symbol
        (recorded.tracker, recorded.store)
  | .clear i =>
      s.act i fun _ =>
        let cleared := Tracker.clear config s.store
        (cleared.1, cleared.2.1)
  | .invalidate i => s.act i fun _ => (Tracker.fresh, s.store)
  | .consult i =>
      s.act i fun t =>
        match t.load config s.store with
        | .ok (loaded, _) => (loaded, s.store)
        | .error _ => (t, s.store)
  | .setFault fault => { s with store := { s.store with fault := fault } }

/-- What a series of events leads to. -/
def run (config : Config) (s : Shared) (events : List TrackerEvent) : Shared :=
  events.foldl (step config) s

end Shared

/-- An event makes a tracker write its map, by an access that is recorded or by clearing, and no
warning says that the write failed. -/
inductive Written (config : Config) (s : Shared) : TrackerEvent → Nat → Prop
  | record {i : Nat} {t : Tracker} {now : Int} {file : String} {symbol : Option String} {e : Entry}
      (ht : s.trackers[i]? = some t)
      (hentry : (t.record config s.store now file symbol).entry = .ok e)
      (hwrite : ∀ error,
        .mapNotPersisted error ∉ (t.record config s.store now file symbol).notices) :
      Written config s (.record i now file symbol) i
  | clear {i : Nat} {t : Tracker} (ht : s.trackers[i]? = some t)
      (hwrite : ∀ error, .mapNotCleared error ∉ (Tracker.clear config s.store).2.2) :
      Written config s (.clear i) i

variable {config : Config} {s : Shared} {store store' : Store} {t : Tracker} {now : Int}
  {file name : String} {symbol : Option String} {event : TrackerEvent} {i : Nat}

section Invariant

theorem storable_bumpedMap {entries : OrderedMap String Entry} (h : Storable entries)
    (hnow : Fits now) : Storable (bumpedMap entries now file symbol) := by
  have hnodup : (OrderedMap.keys (bumpedMap entries now file symbol)).Nodup :=
    OrderedMap.nodup_keys_insert _ _ h.nodup
  refine ⟨hnodup, ?_⟩
  intro key e hmem
  have hget := (OrderedMap.get?_eq_some_iff hnodup).mpr hmem
  rw [bumpedMap, OrderedMap.get?_insert] at hget
  split at hget
  · obtain rfl := Option.some.inj hget
    refine ⟨by rw [lastAccessed_bumped]; exact hnow, ?_⟩
    rw [accessCount_bumped]
    cases hold : OrderedMap.get? (recencyKey file symbol) entries with
    | none => decide
    | some old =>
        have hcount := (h.fits _ old ((OrderedMap.get?_eq_some_iff h.nodup).mp hold)).2
        simp only [Option.map_some, Option.getD_some]
        omega
  · exact h.fits key e ((OrderedMap.get?_eq_some_iff h.nodup).mp hget)

theorem storable_record (h : Storable t.entries) (hnow : Fits now) :
    Storable (t.record config store now file symbol).tracker.entries := by
  rw [record_eq]
  cases hload : t.load config store with
  | error error => exact h
  | ok result =>
      obtain ⟨loaded, notices⟩ := result
      have hmap : Storable (bumpedMap loaded.entries now file symbol) :=
        storable_bumpedMap (storable_of_load h hload) hnow
      dsimp only
      split
      · exact hmap
      · exact hmap.sublist (evict_sublist _ _)

/-- Every map in memory can be stored. -/
def AllStorable (s : Shared) : Prop :=
  ∀ t ∈ s.trackers, Storable t.entries

theorem allStorable_act {f : Tracker → Tracker × Store} (h : AllStorable s)
    (hf : ∀ t, Storable t.entries → Storable (f t).1.entries) : AllStorable (s.act i f) := by
  rw [Shared.act]
  cases ht : s.trackers[i]? with
  | none => exact h
  | some t =>
      intro t' ht'
      obtain hmem | rfl := List.mem_or_eq_of_mem_set ht'
      · exact h t' hmem
      · exact hf t (h t (List.mem_of_getElem? ht))

theorem allStorable_step (h : AllStorable s)
    (hclock : ∀ i now file symbol, event = .record i now file symbol → Fits now) :
    AllStorable (s.step config event) := by
  cases event with
  | create =>
      intro t ht
      obtain hmem | rfl := List.mem_append.mp ht |>.imp_right List.mem_singleton.mp
      · exact h t hmem
      · exact storable_nil
  | record i now file symbol =>
      exact allStorable_act h fun t ht => storable_record ht (hclock i now file symbol rfl)
  | clear i =>
      refine allStorable_act h fun t _ => ?_
      rw [Tracker.clear]
      split <;> exact storable_nil
  | invalidate i => exact allStorable_act h fun t _ => storable_nil
  | consult i =>
      refine allStorable_act h fun t ht => ?_
      split
      · rename_i hload
        exact storable_of_load ht hload
      · exact ht
  | setFault fault => exact h

theorem allStorable_run {events : List TrackerEvent} (h : AllStorable s)
    (hclock : ∀ i now file symbol, .record i now file symbol ∈ events → Fits now) :
    AllStorable (s.run config events) := by
  induction events generalizing s with
  | nil => exact h
  | cons event events ih =>
      refine ih (allStorable_step h ?_) ?_
      · rintro i now file symbol rfl
        exact hclock i now file symbol (by simp)
      · intro i now file symbol hmem
        exact hclock i now file symbol (by simp [hmem])

end Invariant

section Writing

theorem load_of_set (hkey : config.recencyKey = .string name) (h : Storable t.entries)
    (hset : store.set config.recencyKey t.payload = .ok store') :
    Tracker.fresh.load config store' = .ok (⟨t.entries, true⟩, []) := by
  rw [hkey] at hset
  have hget := get_of_set (.object []) (plain_payload h.nodup) (nesting_payload_le t) hset
  rw [← hkey] at hget
  simp only [load, Tracker.fresh, Bool.false_eq_true, if_false, hget, readMap_payload h]

theorem set_of_record {e : Entry}
    (hentry : (t.record config store now file symbol).entry = .ok e)
    (hwrite : ∀ error, .mapNotPersisted error ∉ (t.record config store now file symbol).notices) :
    store.set config.recencyKey (t.record config store now file symbol).tracker.payload =
      .ok (t.record config store now file symbol).store := by
  rw [record_eq] at hentry hwrite ⊢
  cases hload : t.load config store with
  | error error =>
      rw [hload] at hentry
      cases hentry
  | ok result =>
      obtain ⟨loaded, notices⟩ := result
      simp only [hload] at hentry hwrite ⊢
      cases hcount : overflow config.maxEntries
          (bumpedMap loaded.entries now file symbol).length with
      | error error =>
          rw [hcount] at hentry
          cases hentry
      | ok count =>
          simp only [hcount, save] at hwrite ⊢
          split
          · assumption
          · -- A failed write would have left its warning.
            rename_i error hset
            rw [hset] at hwrite
            exact absurd (List.mem_append_right _ (by simp)) (hwrite error)

theorem set_of_clear (hwrite : ∀ error, .mapNotCleared error ∉ (Tracker.clear config store).2.2) :
    (Tracker.clear config store).1 = ⟨[], true⟩ ∧
      store.set config.recencyKey (.object []) = .ok (Tracker.clear config store).2.1 := by
  rw [Tracker.clear] at hwrite ⊢
  split
  · rename_i hset
    exact ⟨rfl, hset⟩
  · rename_i error hset
    rw [hset] at hwrite
    exact absurd (by simp) (hwrite error)

theorem act_eq {f : Tracker → Tracker × Store} (ht : s.trackers[i]? = some t) :
    (s.act i f).trackers[i]? = some (f t).1 ∧ (s.act i f).store = (f t).2 := by
  obtain ⟨hlt, -⟩ := List.getElem?_eq_some_iff.mp ht
  rw [Shared.act, ht]
  exact ⟨List.getElem?_set_self hlt, rfl⟩

theorem load_step_of_written (hkey : config.recencyKey = .string name) (hs : AllStorable s)
    (hclock : ∀ i now file symbol, event = .record i now file symbol → Fits now)
    (h : Written config s event i) :
    ∃ t, (s.step config event).trackers[i]? = some t ∧
      Tracker.fresh.load config (s.step config event).store = .ok (⟨t.entries, true⟩, []) := by
  cases h with
  | @record i t now file symbol e ht hentry hwrite =>
      have hstorable : Storable (t.record config s.store now file symbol).tracker.entries :=
        storable_record (hs t (List.mem_of_getElem? ht)) (hclock i now file symbol rfl)
      obtain ⟨htracker, hstore⟩ := act_eq (f := fun t =>
        ((t.record config s.store now file symbol).tracker,
          (t.record config s.store now file symbol).store)) ht
      refine ⟨_, htracker, ?_⟩
      have hload := load_of_set hkey hstorable (set_of_record hentry hwrite)
      rw [← hload]
      exact congrArg _ hstore
  | @clear i t ht hwrite =>
      obtain ⟨hcleared, hset⟩ := set_of_clear hwrite
      obtain ⟨htracker, hstore⟩ := act_eq (f := fun _ =>
        ((Tracker.clear config s.store).1, (Tracker.clear config s.store).2.1)) ht
      refine ⟨_, htracker, ?_⟩
      have hload := load_of_set (t := ⟨[], true⟩) hkey storable_nil hset
      rw [hcleared, ← hload]
      exact congrArg _ hstore

end Writing

/-- Right after a tracker has written its map, a new tracker on the same store loads exactly that
map and so reports the same scores and most recent keys at any time. This holds whatever was stored
at first, whatever the trackers did before and however many of their writes failed. -/
theorem written_map_is_loaded (hkey : config.recencyKey = .string name) (store : Store)
    (events : List TrackerEvent) (event : TrackerEvent)
    (hclock : ∀ j now file symbol, .record j now file symbol ∈ events ++ [event] → Fits now)
    (hwritten : Written config (Shared.run config ⟨store, []⟩ events) event i) :
    ∃ t loaded,
      (Shared.run config ⟨store, []⟩ (events ++ [event])).trackers[i]? = some t ∧
      Tracker.fresh.load config (Shared.run config ⟨store, []⟩ (events ++ [event])).store =
        .ok (loaded, []) ∧
      loaded.entries = t.entries ∧
      ∀ now, (∀ key, loaded.score config now key = t.score config now key) ∧
        ∀ limit, loaded.mostRecent config now limit = t.mostRecent config now limit := by
  have hs : AllStorable (Shared.run config ⟨store, []⟩ events) := by
    refine allStorable_run (by simp [AllStorable]) ?_
    intro j now file symbol hmem
    exact hclock j now file symbol (by simp [hmem])
  obtain ⟨t, ht, hload⟩ := load_step_of_written hkey hs (by
    rintro j now file symbol rfl
    exact hclock j now file symbol (by simp)) hwritten
  have hrun : Shared.run config ⟨store, []⟩ (events ++ [event]) =
      (Shared.run config ⟨store, []⟩ events).step config event := by
    simp [Shared.run]
  rw [hrun]
  exact ⟨t, ⟨t.entries, true⟩, ht, hload, rfl, fun now => ⟨fun key => rfl, fun limit => rfl⟩⟩

section Sample

/-- Two trackers share a store. The second write of the first one fails. -/
def sampleEvents : List TrackerEvent :=
  [.create, .record 0 1 "a" none, .create, .setFault (some .refused), .record 0 2 "a" none,
    .consult 1, .setFault none]

/-- The write that comes next. -/
def sampleWrite : TrackerEvent :=
  .record 0 3 "b" (some "f")

/-- The settings of the sample. -/
def sampleConfig : Config :=
  Config.defaults "/home"

theorem written_sample :
    Written sampleConfig (Shared.run sampleConfig ⟨Store.empty, []⟩ sampleEvents) sampleWrite
      0 := by
  have hrecorded :
      ((Shared.run sampleConfig ⟨Store.empty, []⟩ sampleEvents).trackers[0]?).any (fun t =>
        let recorded := t.record sampleConfig
          (Shared.run sampleConfig ⟨Store.empty, []⟩ sampleEvents).store 3 "b" (some "f")
        recorded.entry.toOption.isSome && recorded.notices.isEmpty) = true := by
    decide +kernel
  obtain ⟨t, ht, hok⟩ := (Option.any_eq_true _ _).mp hrecorded
  obtain ⟨hentry, hnotices⟩ := Bool.and_eq_true_iff.mp hok
  cases hresult : (t.record sampleConfig
      (Shared.run sampleConfig ⟨Store.empty, []⟩ sampleEvents).store 3 "b" (some "f")).entry with
  | error failure =>
      rw [hresult] at hentry
      cases hentry
  | ok e =>
      refine .record ht hresult ?_
      rw [List.isEmpty_iff.mp hnotices]
      simp

/-- A new tracker finds both keys, also the one whose last access could not be written at once. -/
theorem written_map_is_loaded_sample :
    ∃ t loaded,
      (Shared.run sampleConfig ⟨Store.empty, []⟩ (sampleEvents ++ [sampleWrite])).trackers[0]? =
        some t ∧
      Tracker.fresh.load sampleConfig
        (Shared.run sampleConfig ⟨Store.empty, []⟩ (sampleEvents ++ [sampleWrite])).store =
          .ok (loaded, []) ∧
      loaded.entries = t.entries ∧
      loaded.entries = [("a", ⟨"a", 2, 2⟩), ("b#f", ⟨"b", 3, 1⟩)] := by
  have hclock : ∀ j now file symbol,
      .record j now file symbol ∈ sampleEvents ++ [sampleWrite] → Fits now := by
    intro j now file symbol hmem
    simp only [sampleEvents, sampleWrite, List.cons_append, List.nil_append, List.mem_cons,
      TrackerEvent.record.injEq, reduceCtorEq, List.not_mem_nil, false_or, or_false] at hmem
    obtain ⟨-, rfl, -⟩ | ⟨-, rfl, -⟩ | ⟨-, rfl, -⟩ := hmem <;>
      exact WholeDoubles.exists_floatOfInt (by decide +kernel)
  have hentries : ((Shared.run sampleConfig ⟨Store.empty, []⟩
      (sampleEvents ++ [sampleWrite])).trackers[0]?).map Tracker.entries =
        some [("a", ⟨"a", 2, 2⟩), ("b#f", ⟨"b", 3, 1⟩)] := by
    decide +kernel
  obtain ⟨t, loaded, ht, hload, hsame, -⟩ :=
    written_map_is_loaded rfl Store.empty sampleEvents sampleWrite hclock written_sample
  rw [ht] at hentries
  exact ⟨t, loaded, ht, hload, hsame, hsame.trans (Option.some.inj hentries)⟩

end Sample

end SymbolSearch.Proofs.Persistence
