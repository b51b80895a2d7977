import SymbolSearch.Proofs.DeskActions
import SymbolSearch.Session

namespace SymbolSearch.Proofs.SessionSteps

open DeskActions
open Rescoring

variable {s : Session} {d d' : Desk} {items : List Item}

/-- A session that waits for its rescan with some list. -/
def opened (s : Session) (phase : Phase) (base : List Item) : Session :=
  { s with phase := phase, base := base, items := base, rescan := .pending }

theorem start_again (hs : s.phase ≠ .empty) (d : Desk) :
    s.start.run.run d = (.error (.session (.alreadyOpened s.key)), d) := by
  have hphase : (s.phase != .empty) = true := by simpa using hs
  rw [Session.start, hphase]
  rfl

theorem start_cached (hs : s.phase = .empty)
    (hcached : OrderedMap.get? s.key d.cache.current = some items) (h : RescoresAt d items) :
    s.start.run.run d = (.ok (opened s .revalidating (freshAt d items)), tracked d) := by
  have hphase : (s.phase != .empty) = false := by rw [hs]; rfl
  have hlookup : (Desk.cached s.key).run.run d = (.ok (some items), d) := by
    rw [← hcached]
    rfl
  rw [Session.start, hphase]
  refine (run_bind_ok hlookup).trans ?_
  exact run_bind_ok (rescore_run h)

theorem start_uncached (hs : s.phase = .empty)
    (hcached : OrderedMap.get? s.key d.cache.current = none) :
    s.start.run.run d = (.ok (opened s .loading []), d) := by
  have hphase : (s.phase != .empty) = false := by rw [hs]; rfl
  have hlookup : (Desk.cached s.key).run.run d = (.ok none, d) := by
    rw [← hcached]
    rfl
  rw [Session.start, hphase]
  exact run_bind_ok hlookup

/-- What the filter of a session lets through of a list. -/
def shown (config : Config) (s : Session) (base : List Item) : Except Failure (List Item) :=
  if s.filter.isGiven then Ranking.rank config base s.filter else .ok base

theorem view_run (s : Session) (base : List Item) (d : Desk) :
    (s.view base).run.run d = (shown d.config s base, d) := by
  unfold Session.view shown
  split
  · exact rank_run base s.filter d
  · rfl

theorem applyFilter_run (s : Session) (d : Desk) :
    s.applyFilter.run.run d =
      ((shown d.config s s.base).map fun items => { s with items := items }, d) := by
  have hview := view_run s s.base d
  rw [Session.applyFilter]
  cases hshown : shown d.config s s.base with
  | error failure =>
      rw [hshown] at hview
      exact run_bind_error hview
  | ok items =>
      rw [hshown] at hview
      exact run_bind_ok hview

/-- A session that has taken over a fresh list. -/
def published (s : Session) (fresh items : List Item) : Session :=
  { s with
    phase := .ready, base := fresh, items := items, rescan := .finished, updates := s.updates + 1 }

theorem publish_closed (hs : s.phase = .closed) (fresh : List Item) (d : Desk) :
    (s.publish fresh).run.run d = (.ok { s with rescan := .finished }, d) := by
  have hphase : (s.phase == .closed) = true := by rw [hs]; rfl
  rw [Session.publish, hphase]
  rfl

theorem publish_open (hs : s.phase ≠ .closed) {fresh : List Item}
    (hshown : shown d.config s fresh = .ok items) :
    (s.publish fresh).run.run d = (.ok (published s fresh items), d) := by
  have hphase : (s.phase == .closed) = false := by simpa using hs
  have hview := view_run s fresh d
  rw [hshown] at hview
  rw [Session.publish, hphase]
  exact run_bind_ok hview

variable {extraction : Action (List Occurrence)} {occurrences : List Occurrence}

theorem landWith_idle (hs : s.rescan ≠ .pending) (extraction : Action (List Occurrence))
    (d : Desk) : (s.landWith extraction).run d = (s, d) := by
  unfold Session.landWith
  split
  · rename_i hpending
    exact absurd hpending hs
  · rfl

theorem landWith_pending (hs : s.rescan = .pending) (extraction : Action (List Occurrence))
    (d : Desk) :
    (s.landWith extraction).run d =
      match extraction.run.run d with
      | (.error _, d₁) => (s.settled, d₁)
      | (.ok occurrences, d₁) =>
          match (Desk.build s.root occurrences).run.run d₁ with
          | (.error reason, d₂) => ({ s with rescan := .failed reason }, d₂)
          | (.ok fresh, d₂) =>
              match (s.publish fresh).run.run
                { d₂ with cache := d₂.cache.modify (OrderedMap.insert s.key fresh) } with
              | (.error reason, d₃) => ({ s with base := fresh, rescan := .failed reason }, d₃)
              | (.ok s, d₃) => (s, d₃) := by
  simp only [Session.landWith, hs]
  rcases hrun : extraction.run.run d with ⟨result, d₁⟩
  rw [stateRun_bind hrun]
  cases result with
  | error failure => rfl
  | ok occurrences =>
      rcases hbuild : (Desk.build s.root occurrences).run.run d₁ with ⟨result, d₂⟩
      simp only [hbuild]
      rw [stateRun_bind hbuild]
      cases result with
      | error reason => rfl
      | ok fresh =>
          have hkeep : (Desk.keep s.key fresh).run.run d₂ =
              (.ok (), { d₂ with cache := d₂.cache.modify (OrderedMap.insert s.key fresh) }) :=
            rfl
          rcases hpublish : (s.publish fresh).run.run
            { d₂ with cache := d₂.cache.modify (OrderedMap.insert s.key fresh) } with ⟨result, d₃⟩
          simp only [hpublish]
          rw [stateRun_bind hkeep, stateRun_bind hpublish]
          cases result <;> rfl

theorem landWith_failed (hs : s.rescan = .pending) {failure : Failure}
    (h : extraction.run.run d = (.error failure, d')) :
    (s.landWith extraction).run d = (s.settled, d') := by
  rw [landWith_pending hs, h]

theorem landWith_extracted (hs : s.rescan = .pending)
    (h : extraction.run.run d = (.ok occurrences, d'))
    (hscored : RescoresAt d' (itemsOf s.root occurrences)) {s' : Session}
    (hpublish : (s.publish (freshAt d' (itemsOf s.root occurrences))).run.run
      (kept d' s.key (freshAt d' (itemsOf s.root occurrences))) =
        (.ok s', kept d' s.key (freshAt d' (itemsOf s.root occurrences)))) :
    (s.landWith extraction).run d =
      (s', kept d' s.key (freshAt d' (itemsOf s.root occurrences))) := by
  rw [landWith_pending hs, h]
  simp only [build_run hscored]
  change (match (s.publish _).run.run (kept d' s.key _) with
    | (.error reason, d₃) => (_, d₃)
    | (.ok s, d₃) => (s, d₃)) = _
  rw [hpublish]

/-- A landing changes nothing about a closed session but the state of its rescan, even when it
breaks down half way. -/
theorem landWith_closed (hs : s.phase = .closed) (extraction : Action (List Occurrence))
    (d : Desk) : ∃ rescan, ((s.landWith extraction).run d).1 = { s with rescan := rescan } := by
  by_cases hrescan : s.rescan = .pending
  · rw [landWith_pending hrescan]
    split
    · refine ⟨.finished, ?_⟩
      rw [Session.settled, Session.isOpen, hs]
      rfl
    · split
      · exact ⟨_, rfl⟩
      · rw [publish_closed hs]
        exact ⟨.finished, rfl⟩
  · rw [landWith_idle hrescan]
    exact ⟨s.rescan, rfl⟩

end SymbolSearch.Proofs.SessionSteps
