import SymbolSearch.Proofs.PoolSteps

namespace SymbolSearch.Proofs.Rescans

open DeskActions
open PoolSteps
open Rescoring
open SessionSteps

variable {d : Desk} {s : Session} {m : Member} {fresh items : List Item}

theorem rescore_run_eq (items : List Item) (d : Desk) :
    (Desk.rescore items).run.run d =
      match d.tracker.load d.config d.store with
      | .error failure => (.error failure, d)
      | .ok (t, _) => (Ranking.rescore t d.config d.now items, { d with tracker := t }) := by
  cases hload : d.tracker.load d.config d.store with
  | error failure => exact run_bind_error (loadTracker_run_error hload)
  | ok loaded =>
      obtain ⟨t, notices⟩ := loaded
      have ht : trackerOf d = t := by rw [trackerOf, hload]
      have hloaded := loadTracker_run ⟨_, hload⟩
      rw [ht] at hloaded
      rw [Desk.rescore, run_bind_ok hloaded, tracked, ht]
      exact give_run _ _

theorem start_cached_eq (hs : s.phase = .empty)
    (hcached : OrderedMap.get? s.key d.cache.current = some items) :
    s.start.run.run d =
      match d.tracker.load d.config d.store with
      | .error failure => (.error failure, d)
      | .ok (t, _) =>
          ((Ranking.rescore t d.config d.now items).map (opened s .revalidating),
            { d with tracker := t }) := by
  have hphase : (s.phase != .empty) = false := by rw [hs]; rfl
  have hlookup : (Desk.cached s.key).run.run d = (.ok (some items), d) := by
    rw [← hcached]
    rfl
  have hrescore := rescore_run_eq items d
  rw [Session.start, hphase]
  refine (run_bind_ok hlookup).trans ?_
  cases hload : d.tracker.load d.config d.store with
  | error failure =>
      rw [hload] at hrescore
      exact run_bind_error hrescore
  | ok loaded =>
      obtain ⟨t, notices⟩ := loaded
      simp only [hload] at hrescore ⊢
      cases hscored : Ranking.rescore t d.config d.now items with
      | error failure =>
          rw [hscored] at hrescore
          exact run_bind_error hrescore
      | ok base =>
          rw [hscored] at hrescore
          exact run_bind_ok hrescore

/-- The whole list that a scan of a kind below a root gives at a desk. -/
def scannedList (d : Desk) (kind : Json) (root : String) : Except Failure (List Item) := do
  let scan ← d.extractor.extract d.tool kind root
  let loaded ← d.tracker.load d.config d.store
  Ranking.build loaded.1 d.config d.now root scan.occurrences

theorem scannedList_eq_freshAt {kind : Json} {root : String}
    (h : scannedList d kind root = .ok items) :
    ∃ scan, d.extractor.extract d.tool kind root = .ok scan ∧
      items = freshAt d (itemsOf root scan.occurrences) := by
  unfold scannedList at h
  cases hscan : d.extractor.extract d.tool kind root with
  | error failure =>
      rw [hscan] at h
      cases h
  | ok scan =>
      cases hload : d.tracker.load d.config d.store with
      | error failure =>
          rw [hscan, hload] at h
          cases h
      | ok loaded =>
          have ht : trackerOf d = loaded.1 := by rw [trackerOf, hload]
          rw [hscan, hload] at h
          refine ⟨scan, rfl, ?_⟩
          rw [freshAt, ht]
          exact eq_refreshed_of_rescore h

theorem scan_cases (kind : Json) (root : String) (d : Desk) :
    (∃ failure, (Desk.extract kind root).run.run d = (.error failure, d) ∧
        scannedList d kind root = .error failure) ∨
      ∃ occurrences d₁ d₂, (Desk.extract kind root).run.run d = (.ok occurrences, d₁) ∧
        (Desk.build root occurrences).run.run d₁ = (scannedList d kind root, d₂) ∧
        d₂.cache = d.cache ∧ d₂.config = d.config := by
  unfold scannedList
  cases hscan : d.extractor.extract d.tool kind root with
  | error failure =>
      refine .inl ⟨failure, ?_, rfl⟩
      rw [extract_run, hscan]
  | ok scan =>
      have hbuild : (Desk.build root scan.occurrences).run.run (called d scan.invocations) =
          match d.tracker.load d.config d.store with
          | .error failure => (.error failure, called d scan.invocations)
          | .ok (t, _) =>
              (Ranking.build t d.config d.now root scan.occurrences,
                { called d scan.invocations with tracker := t }) :=
        rescore_run_eq _ _
      cases hload : d.tracker.load d.config d.store with
      | error failure =>
          rw [hload] at hbuild
          exact .inr ⟨_, _, _, extract_run_ok hscan, hbuild, rfl, rfl⟩
      | ok loaded =>
          rw [hload] at hbuild
          exact .inr ⟨_, _, _, extract_run_ok hscan, hbuild, rfl, rfl⟩

/-- A session after its rescan has brought a list. A closed one takes no notice of it; where the
filter makes no sense, the list is taken over but not shown. -/
def landed (config : Config) (s : Session) (fresh : List Item) : Session :=
  if s.phase = .closed then { s with rescan := .finished }
  else
    match shown config s fresh with
    | .ok items => published s fresh items
    | .error reason => { s with base := fresh, rescan := .failed reason }

theorem publish_run (s : Session) (fresh : List Item) (d : Desk) :
    (match (s.publish fresh).run.run d with
      | (.error reason, d') => ({ s with base := fresh, rescan := .failed reason }, d')
      | (.ok s', d') => (s', d')) = (landed d.config s fresh, d) := by
  by_cases hs : s.phase = .closed
  · rw [publish_closed hs, landed, if_pos hs]
  · rw [landed, if_neg hs]
    cases hshown : shown d.config s fresh with
    | ok items => rw [publish_open hs hshown]
    | error reason =>
        have hphase : (s.phase == .closed) = false := by simpa using hs
        have hview := view_run s fresh d
        rw [hshown] at hview
        have hpublish : (s.publish fresh).run.run d = (.error reason, d) := by
          rw [Session.publish, hphase]
          exact run_bind_error hview
        rw [hpublish]

/-- A rescan that gets its list caches it under the key of its session, open or closed. -/
theorem land_of_scannedList (hs : s.rescan = .pending)
    (h : scannedList d s.kind s.root = .ok fresh) :
    ∃ d', s.land.run d = (landed d.config s fresh, d') ∧
      d'.cache = d.cache.modify (OrderedMap.insert s.key fresh) := by
  rcases scan_cases s.kind s.root d with
    ⟨failure, -, hfailed⟩ | ⟨occurrences, d₁, d₂, hextract, hbuild, hcache, hconfig⟩
  · rw [hfailed] at h
    cases h
  · rw [h] at hbuild
    rw [Session.land, landWith_pending hs, hextract, ← hconfig, ← hcache]
    simp only [hbuild]
    exact ⟨_, publish_run s fresh _, rfl⟩

theorem land_of_no_scannedList (hs : s.rescan = .pending) {failure : Failure}
    (h : scannedList d s.kind s.root = .error failure) :
    ∃ s' d', s.land.run d = (s', d') ∧ d'.cache = d.cache ∧
      (s' = s.settled ∨ ∃ reason, s' = { s with rescan := .failed reason }) := by
  rw [Session.land, landWith_pending hs]
  rcases scan_cases s.kind s.root d with
    ⟨failure', hextract, -⟩ | ⟨occurrences, d₁, d₂, hextract, hbuild, hcache, -⟩
  · rw [hextract]
    exact ⟨_, _, rfl, rfl, .inl rfl⟩
  · rw [h] at hbuild
    rw [hextract]
    simp only [hbuild]
    exact ⟨_, _, rfl, hcache, .inr ⟨failure, rfl⟩⟩

/-- The list that the rescan of a member brings when it lands at a desk. There is none when no
rescan is pending, and none when the scan fails or is bound to. -/
def broughtBy (d : Desk) (m : Member) : Option (List Item) :=
  match m.session.rescan, m.breakdown with
  | .pending, none => (scannedList d m.session.kind m.session.root).toOption
  | _, _ => none

theorem broughtBy_eq_some_iff :
    broughtBy d m = some fresh ↔
      m.session.rescan = .pending ∧ m.breakdown = none ∧
        scannedList d m.session.kind m.session.root = .ok fresh := by
  unfold broughtBy
  split
  · rename_i hrescan hbreakdown
    cases scannedList d m.session.kind m.session.root <;>
      simp [hrescan, hbreakdown, Except.toOption]
  · rename_i hnone
    simp only [reduceCtorEq, false_iff]
    rintro ⟨hrescan, hbreakdown, -⟩
    exact hnone hrescan hbreakdown

theorem member_land_cases (d : Desk) (m : Member) :
    ∃ s' d', (m.session.landWith (SessionPool.extraction m)).run d = (s', d') ∧
      ((∃ fresh, broughtBy d m = some fresh ∧ s' = landed d.config m.session fresh ∧
          d'.cache = d.cache.modify (OrderedMap.insert m.session.key fresh)) ∨
        (broughtBy d m = none ∧ d'.cache = d.cache ∧
          (s' = m.session ∨ s' = m.session.settled ∨
            ∃ reason, s' = { m.session with rescan := .failed reason }))) := by
  by_cases hrescan : m.session.rescan = .pending
  · cases hbreakdown : m.breakdown with
    | some reason =>
        have hnone : broughtBy d m = none := by simp [broughtBy, hbreakdown]
        have hextraction : SessionPool.extraction m = throw (.scan reason) := by
          rw [SessionPool.extraction, hbreakdown]
        refine ⟨_, _, ?_, .inr ⟨hnone, rfl, .inr (.inl rfl)⟩⟩
        rw [hextraction]
        exact landWith_failed hrescan rfl
    | none =>
        have hextraction : SessionPool.extraction m =
            Desk.extract m.session.kind m.session.root := by
          rw [SessionPool.extraction, hbreakdown]
        rw [hextraction]
        cases hlist : scannedList d m.session.kind m.session.root with
        | ok fresh =>
            obtain ⟨d', hland, hcache⟩ := land_of_scannedList hrescan hlist
            have hsome := broughtBy_eq_some_iff.mpr ⟨hrescan, hbreakdown, hlist⟩
            exact ⟨_, d', hland, .inl ⟨fresh, hsome, rfl, hcache⟩⟩
        | error failure =>
            obtain ⟨s', d', hland, hcache, hs'⟩ := land_of_no_scannedList hrescan hlist
            have hnone : broughtBy d m = none := by
              simp [broughtBy, hrescan, hbreakdown, hlist, Except.toOption]
            exact ⟨s', d', hland, .inr ⟨hnone, hcache, .inr hs'⟩⟩
  · have hnone : broughtBy d m = none := by
      rw [Option.eq_none_iff_forall_ne_some]
      intro fresh hfresh
      exact hrescan (broughtBy_eq_some_iff.mp hfresh).1
    exact ⟨_, _, landWith_idle hrescan _ d, .inr ⟨hnone, rfl, .inl rfl⟩⟩

end SymbolSearch.Proofs.Rescans
