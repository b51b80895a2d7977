import SymbolSearch.Desk
import SymbolSearch.Proofs.Rescoring
import SymbolSearch.Proofs.TrackerSteps

namespace SymbolSearch.Proofs.DeskActions

open Rescoring

section Run

variable {σ ε α β : Type} {x : ExceptT ε (StateM σ) α} {f : α → ExceptT ε (StateM σ) β} {s s' : σ}

theorem run_bind_ok {a : α} (h : x.run.run s = (.ok a, s')) :
    (x >>= f).run.run s = (f a).run.run s' := by
  rw [ExceptT.run_bind, StateT.run_bind, h]
  rfl

theorem run_get_bind {f : σ → ExceptT ε (StateM σ) β} :
    (get >>= f).run.run s = (f s).run.run s :=
  run_bind_ok rfl

theorem run_bind_error {e : ε} (h : x.run.run s = (.error e, s')) :
    (x >>= f).run.run s = (.error e, s') := by
  rw [ExceptT.run_bind, StateT.run_bind, h]
  rfl

theorem stateRun_bind {y : StateM σ α} {g : α → StateM σ β} {a : α} (h : y.run s = (a, s')) :
    (y >>= g).run s = (g a).run s' := by
  rw [StateT.run_bind, h]
  rfl

end Run

theorem give_run {α : Type} (result : Except Failure α) (d : Desk) :
    (Desk.give result).run.run d = (result, d) := by
  cases result <;> rfl

/-- The accesses that a desk scores by: what it has loaded, or else what the store holds. -/
def trackerOf (d : Desk) : Tracker :=
  match d.tracker.load d.config d.store with
  | .ok (t, _) => t
  | .error _ => d.tracker

/-- A desk that has loaded its accesses. -/
def tracked (d : Desk) : Desk :=
  { d with tracker := trackerOf d }

/-- The accesses of a desk can be read. -/
def Readable (d : Desk) : Prop :=
  ∃ loaded, d.tracker.load d.config d.store = .ok loaded

instance (d : Desk) : Decidable (Readable d) :=
  match h : d.tracker.load d.config d.store with
  | .ok loaded => isTrue ⟨loaded, h⟩
  | .error _ => isFalse fun ⟨_, hloaded⟩ => nomatch h ▸ hloaded

/-- The items of a list get their scores at a desk. -/
structure RescoresAt (d : Desk) (items : List Item) : Prop where
  readable : Readable d
  rescored : ∃ scored, Ranking.rescore (trackerOf d) d.config d.now items = .ok scored

/-- Every key gets its score at a desk. -/
structure ScoresAt (d : Desk) : Prop where
  readable : Readable d
  scorable : Scorable (trackerOf d) d.config d.now

/-- The items of a list get scores at a desk that can be compared with each other. -/
structure ComparesAt (d : Desk) (items : List Item) : Prop where
  readable : Readable d
  comparable : Comparable (trackerOf d) d.config d.now items

instance (d : Desk) (items : List Item) : Decidable (ComparesAt d items) :=
  decidable_of_iff (Readable d ∧ Comparable (trackerOf d) d.config d.now items)
    ⟨fun h => ⟨h.1, h.2⟩, fun h => ⟨h.readable, h.comparable⟩⟩

variable {d : Desk} {items : List Item}

theorem exists_load_trackerOf (h : Readable d) :
    ∃ notices, d.tracker.load d.config d.store = .ok (trackerOf d, notices) := by
  obtain ⟨⟨t, notices⟩, hload⟩ := h
  exact ⟨notices, by rw [trackerOf, hload]⟩

theorem ScoresAt.rescoresAt (h : ScoresAt d) (items : List Item) : RescoresAt d items :=
  ⟨h.readable, _, rescore_eq_of_forall fun i _ => h.scorable i.recencyKey⟩

theorem ComparesAt.rescoresAt (h : ComparesAt d items) : RescoresAt d items := by
  refine ⟨h.readable, _, rescore_eq_of_forall ?_⟩
  intro i hi
  obtain ⟨s, hs, -⟩ := h.comparable i hi
  exact ⟨s, hs⟩

/-- A list as it looks at a desk: with the scores of the moment, in order. -/
def freshAt (d : Desk) (items : List Item) : List Item :=
  refreshed (trackerOf d) d.config d.now items

theorem loadTracker_run (h : Readable d) :
    Desk.loadTracker.run.run d = (.ok (trackerOf d), tracked d) := by
  obtain ⟨⟨t, notices⟩, hload⟩ := h
  have ht : trackerOf d = t := by rw [trackerOf, hload]
  rw [tracked, ht]
  rw [Desk.loadTracker, run_get_bind, hload]
  rfl

theorem loadTracker_run_error {failure : Failure}
    (h : d.tracker.load d.config d.store = .error failure) :
    Desk.loadTracker.run.run d = (.error failure, d) := by
  rw [Desk.loadTracker, run_get_bind, h]
  rfl

theorem load_trackerOf (h : Readable d) :
    (trackerOf d).load d.config d.store = .ok (trackerOf d, []) := by
  obtain ⟨⟨t, notices⟩, hload⟩ := h
  have ht : trackerOf d = t := by rw [trackerOf, hload]
  rw [ht, TrackerSteps.load_of_loaded (TrackerSteps.loaded_of_load hload)]

theorem trackerOf_tracked (h : Readable d) : trackerOf (tracked d) = trackerOf d := by
  change (match (trackerOf d).load d.config d.store with
    | .ok (t, _) => t
    | .error _ => trackerOf d) = _
  rw [load_trackerOf h]

theorem ComparesAt.tracked (h : ComparesAt d items) : ComparesAt (tracked d) items := by
  refine ⟨⟨_, load_trackerOf h.readable⟩, ?_⟩
  rw [trackerOf_tracked h.readable]
  exact h.comparable

theorem freshAt_tracked (h : Readable d) (items : List Item) :
    freshAt (tracked d) items = freshAt d items := by
  rw [freshAt, trackerOf_tracked h]
  rfl

theorem rescore_run (h : RescoresAt d items) :
    (Desk.rescore items).run.run d = (.ok (freshAt d items), tracked d) := by
  obtain ⟨scored, hscored⟩ := h.rescored
  rw [Desk.rescore, run_bind_ok (loadTracker_run h.readable)]
  change (Desk.give (Ranking.rescore (trackerOf d) d.config d.now items)).run.run (tracked d) = _
  rw [hscored, give_run, eq_refreshed_of_rescore hscored, freshAt]

theorem build_run {root : String} {occurrences : List Occurrence}
    (h : RescoresAt d (itemsOf root occurrences)) :
    (Desk.build root occurrences).run.run d =
      (.ok (freshAt d (itemsOf root occurrences)), tracked d) :=
  rescore_run h

/-- A desk after some more calls. -/
def called (d : Desk) (calls : List Invocation) : Desk :=
  { d with calls := d.calls ++ calls }

theorem RescoresAt.called (h : RescoresAt d items) (calls : List Invocation) :
    RescoresAt (called d calls) items :=
  ⟨h.readable, h.rescored⟩

theorem extract_run (kind : Json) (root : String) (d : Desk) :
    (Desk.extract kind root).run.run d =
      match d.extractor.extract d.tool kind root with
      | .ok scan => (.ok scan.occurrences, called d scan.invocations)
      | .error failure => (.error failure, d) := by
  change (Desk.give (d.extractor.extract d.tool kind root) >>= fun scan => do
    set (called d scan.invocations)
    return scan.occurrences : Action (List Occurrence)).run.run d = _
  cases d.extractor.extract d.tool kind root <;> rfl

theorem extract_run_ok {kind : Json} {root : String} {scan : Scan}
    (h : d.extractor.extract d.tool kind root = .ok scan) :
    (Desk.extract kind root).run.run d = (.ok scan.occurrences, called d scan.invocations) := by
  rw [extract_run, h]

/-- A desk that has loaded its accesses and cached a list. -/
def kept (d : Desk) (key : String) (items : List Item) : Desk :=
  { tracked d with cache := d.cache.modify (OrderedMap.insert key items) }

theorem keep_run (key : String) (items : List Item) (d : Desk) :
    (Desk.keep key items).run.run (tracked d) = (.ok (), kept d key items) :=
  rfl

theorem rank_run (items : List Item) (query : Json) (d : Desk) :
    (Desk.rank items query).run.run d = (Ranking.rank d.config items query, d) :=
  give_run _ d

/-- A desk after an access. -/
def recorded (d : Desk) (file : String) (symbol : Option String) : Desk :=
  let after := d.tracker.record d.config d.store d.now file symbol
  { d with tracker := after.tracker, store := after.store }

theorem record_run (file : String) (symbol : Option String) (d : Desk) :
    (Desk.record file symbol).run.run d =
      ((d.tracker.record d.config d.store d.now file symbol).entry, recorded d file symbol) :=
  give_run _ (recorded d file symbol)

end SymbolSearch.Proofs.DeskActions
