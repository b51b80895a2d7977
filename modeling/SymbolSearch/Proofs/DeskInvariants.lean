import SymbolSearch.Proofs.StaleSearch
import SymbolSearch.Proofs.TrackerSteps
import SymbolSearch.SessionPool

namespace SymbolSearch.Proofs.DeskInvariants

open ClientSearch
open DeskActions
open SessionSteps
open StaleSearch
open TrackerSteps

/-- A property of desks that survives the loading of accesses. -/
structure LoadLasting (P : Desk → Prop) : Prop where
  loaded : ∀ {d : Desk} {t : Tracker} {notices : List Notice},
    d.tracker.load d.config d.store = .ok (t, notices) → P d → P { d with tracker := t }

/-- A property of desks that survives each of the changes that searches are made of. -/
structure SearchLasting (P : Desk → Prop) : Prop extends LoadLasting P where
  called : ∀ {d : Desk} (calls : List Invocation), P d → P (called d calls)
  cached : ∀ {d : Desk} (cache : CacheSlot), P d → P { d with cache := cache }

/-- A property of desks that survives each of the changes that actions are made of. -/
structure Lasting (P : Desk → Prop) : Prop extends SearchLasting P where
  recorded : ∀ {d : Desk} (file : String) (symbol : Option String), P d → P (recorded d file symbol)
  timed : ∀ {d : Desk} (now : Int), P d → P { d with now := now }

section Outcomes

variable {σ α β : Type} {P : σ → Prop} {Q : α → Prop} {R : β → Prop}
  {x : ExceptT Failure (StateM σ) α} {f : α → ExceptT Failure (StateM σ) β}

/-- From a state with a property, an action ends in such a state whether it succeeds or not, and
what it gives has a property of its own. -/
def Yields (P : σ → Prop) (x : ExceptT Failure (StateM σ) α) (Q : α → Prop) : Prop :=
  ∀ s, P s → P (x.run.run s).2 ∧ ∀ a, (x.run.run s).1 = .ok a → Q a

theorem Yields.bind (hx : Yields P x Q) (hf : ∀ a, Q a → Yields P (f a) R) :
    Yields P (x >>= f) R := by
  intro s hs
  obtain ⟨hs', hgiven⟩ := hx s hs
  rcases hrun : x.run.run s with ⟨result, s'⟩
  rw [hrun] at hs' hgiven
  cases result with
  | error failure =>
      rw [run_bind_error hrun]
      exact ⟨hs', by simp⟩
  | ok a =>
      rw [run_bind_ok hrun]
      exact hf a (hgiven a rfl) s' hs'

end Outcomes

variable {P : Desk → Prop} {α β : Type}

/-- An action that a property of the desk survives, whether the action succeeds or not. -/
def Keeps (P : Desk → Prop) (action : Action α) : Prop :=
  ∀ d, P d → P (action.run.run d).2

theorem keeps_iff {x : Action α} : Keeps P x ↔ Yields P x fun _ => True := by
  simp [Keeps, Yields]

theorem Keeps.bind {x : Action α} {f : α → Action β} (hx : Keeps P x) (hf : ∀ a, Keeps P (f a)) :
    Keeps P (x >>= f) :=
  keeps_iff.mpr ((keeps_iff.mp hx).bind fun a _ => keeps_iff.mp (hf a))

theorem keeps_give (result : Except Failure α) : Keeps P (Desk.give result) := by
  intro d hd
  rw [DeskActions.give_run]
  exact hd

theorem keeps_pure (a : α) : Keeps P (pure a) :=
  fun _ hd => hd

namespace LoadLasting

variable (h : LoadLasting P)

include h

theorem keeps_loadTracker : Keeps P Desk.loadTracker := by
  intro d hd
  cases hload : d.tracker.load d.config d.store with
  | error failure =>
      rw [loadTracker_run_error hload]
      exact hd
  | ok result =>
      have ht : trackerOf d = result.1 := by rw [trackerOf, hload]
      rw [loadTracker_run ⟨result, hload⟩, tracked, ht]
      exact h.loaded hload hd

theorem keeps_rescore (items : List Item) : Keeps P (Desk.rescore items) := by
  refine h.keeps_loadTracker.bind fun t => ?_
  intro d hd
  exact keeps_give (Ranking.rescore t d.config d.now items) d hd

theorem keeps_build (root : String) (occurrences : List Occurrence) :
    Keeps P (Desk.build root occurrences) :=
  h.keeps_rescore _

end LoadLasting

namespace SearchLasting

variable (h : SearchLasting P)

include h

theorem keeps_extract (kind : Json) (root : String) : Keeps P (Desk.extract kind root) := by
  intro d hd
  rw [extract_run]
  cases d.extractor.extract d.tool kind root with
  | error failure => exact hd
  | ok scan => exact h.called scan.invocations hd

theorem keeps_keep (key : String) (items : List Item) : Keeps P (Desk.keep key items) :=
  fun _ hd => h.cached _ hd

theorem keeps_start (s : Session) : Keeps P s.start := by
  intro d hd
  by_cases hs : s.phase = .empty
  · cases hlookup : OrderedMap.get? s.key d.cache.current with
    | none =>
        rw [start_uncached hs hlookup]
        exact hd
    | some items =>
        have hphase : (s.phase != .empty) = false := by rw [hs]; rfl
        have hcached : (Desk.cached s.key).run.run d = (.ok (some items), d) := by
          rw [← hlookup]
          rfl
        rw [Session.start, hphase]
        change P ((Desk.cached s.key >>= _ : Action Session).run.run d).2
        rw [run_bind_ok hcached]
        exact (h.keeps_rescore items).bind (fun base => keeps_pure _) d hd
  · rw [start_again hs]
    exact hd

omit h in
theorem keeps_applyFilter (s : Session) : Keeps P s.applyFilter := by
  intro d hd
  rw [applyFilter_run]
  exact hd

omit h in
theorem keeps_publish (s : Session) (fresh : List Item) : Keeps P (s.publish fresh) := by
  unfold Session.publish
  split
  · exact keeps_pure _
  · refine Keeps.bind ?_ fun items => keeps_pure _
    intro d hd
    rw [view_run]
    exact hd

theorem landWith (s : Session) {extraction : Action (List Occurrence)}
    (hextraction : Keeps P extraction) {d : Desk} (hd : P d) :
    P ((s.landWith extraction).run d).2 := by
  by_cases hs : s.rescan = .pending
  · have hextracted := hextraction d hd
    rw [landWith_pending hs]
    split
    · rename_i hrun
      rw [hrun] at hextracted
      exact hextracted
    · rename_i occurrences d₁ hrun
      rw [hrun] at hextracted
      have hbuilt := h.keeps_build s.root occurrences d₁ hextracted
      split
      · rename_i hbuild
        rw [hbuild] at hbuilt
        exact hbuilt
      · rename_i fresh d₂ hbuild
        rw [hbuild] at hbuilt
        have hpublished := keeps_publish s fresh
          { d₂ with cache := d₂.cache.modify (OrderedMap.insert s.key fresh) } (h.cached _ hbuilt)
        split <;> rename_i hpublish <;> rw [hpublish] at hpublished <;> exact hpublished
  · rw [landWith_idle hs]
    exact hd

theorem keeps_extraction (m : Member) : Keeps P (SessionPool.extraction m) := by
  unfold SessionPool.extraction
  split
  · exact fun _ hd => hd
  · exact h.keeps_extract _ _

omit h in
theorem act {action : Action Session} (haction : Keeps P action) {p : SessionPool} (id : String)
    (m : Member) (hp : P p.desk) : P (p.act id m action).2.desk := by
  have hd := haction p.desk hp
  unfold SessionPool.act
  rcases hrun : action.run.run p.desk with ⟨result, d⟩
  rw [hrun] at hd
  cases result with
  | error reason => exact hd
  | ok s => exact hd

theorem land {p : SessionPool} (id : String) (m : Member) (hp : P p.desk) :
    P (p.land id m).2.desk := by
  have hd := h.landWith m.session (h.keeps_extraction m) hp
  unfold SessionPool.land
  rcases hrun : (m.session.landWith (SessionPool.extraction m)).run p.desk with ⟨s, d⟩
  rw [hrun] at hd
  simp only
  cases s.failure? with
  | none => exact hd
  | some reason => exact hd

end SearchLasting

namespace Lasting

variable (h : Lasting P)

include h

theorem keeps_record (file : String) (symbol : Option String) :
    Keeps P (Desk.record file symbol) := by
  intro d hd
  rw [record_run]
  exact h.recorded file symbol hd

theorem accept {p : SessionPool} (m : Member) (index : Int) (hp : P p.desk) :
    P (p.accept m index).2.desk := by
  unfold SessionPool.accept
  split
  · exact hp
  · rename_i item _
    have hd := h.keeps_record item.path (some item.symbol) p.desk hp
    split <;> rename_i hrun <;> rw [Session.accept] at hrun <;> rw [hrun] at hd <;> exact hd

theorem step {p : SessionPool} (hp : P p.desk) (event : SessionEvent) :
    P (p.step event).2.desk := by
  cases event with
  | create id kind root announces breakdown => exact hp
  | openSession id =>
      simp only [SessionPool.step]
      cases p.member id with
      | error e => exact hp
      | ok m => exact SearchLasting.act (h.keeps_start _) id m hp
  | filter id value =>
      simp only [SessionPool.step]
      cases p.member id with
      | error e => exact hp
      | ok m =>
          simp only
          cases m.session.setFilter value with
          | error reason => exact hp
          | ok s =>
              exact SearchLasting.act (p := p.put id m s) (SearchLasting.keeps_applyFilter s) id
                m hp
  | close id =>
      simp only [SessionPool.step]
      cases p.member id <;> exact hp
  | land id =>
      simp only [SessionPool.step]
      cases p.member id with
      | error e => exact hp
      | ok m => exact h.land id m hp
  | accept id index =>
      simp only [SessionPool.step]
      cases p.member id with
      | error e => exact hp
      | ok m =>
          have hd := h.accept m index hp
          simp only
          split <;> rename_i haccept <;> rw [haccept] at hd <;> exact hd
  | invalidate key => exact h.cached _ hp
  | record file symbol =>
      have hd := h.keeps_record file symbol p.desk hp
      simp only [SessionPool.step]
      split <;> rename_i hrun <;> rw [hrun] at hd <;> exact hd
  | setClock now => exact h.timed now hp

end Lasting

section Clients

/-- Something done with a client that a property of the desk survives. -/
def ClientKeeps (P : Desk → Prop) (action : ClientAction α) : Prop :=
  ∀ c, P c.desk → P (action.run.run c).2.desk

theorem clientKeeps_iff {x : ClientAction α} :
    ClientKeeps P x ↔ Yields (fun c => P c.desk) x fun _ => True := by
  simp [ClientKeeps, Yields]

theorem ClientKeeps.bind {x : ClientAction α} {f : α → ClientAction β} (hx : ClientKeeps P x)
    (hf : ∀ a, ClientKeeps P (f a)) : ClientKeeps P (x >>= f) :=
  clientKeeps_iff.mpr ((clientKeeps_iff.mp hx).bind fun a _ => clientKeeps_iff.mp (hf a))

theorem clientKeeps_pure (a : α) : ClientKeeps P (pure a) :=
  fun _ hc => hc

theorem clientKeeps_give (result : Except Failure α) : ClientKeeps P (Client.give result) := by
  intro c hc
  rw [ClientSearch.give_run]
  exact hc

theorem Yields.atDesk {Q : α → Prop} {action : Action α} (h : Yields P action Q) :
    Yields (fun c => P c.desk) (Client.atDesk action) Q := by
  intro c hc
  have hd := h c.desk hc
  rcases hrun : action.run.run c.desk with ⟨result, d⟩
  rw [hrun] at hd
  rw [ClientSearch.atDesk_run hrun]
  exact hd

theorem Keeps.atDesk {action : Action α} (h : Keeps P action) :
    ClientKeeps P (Client.atDesk action) :=
  clientKeeps_iff.mpr (keeps_iff.mp h).atDesk

theorem clientKeeps_resolveRoot (root : Json) : ClientKeeps P (Client.resolveRoot root) := by
  intro c hc
  rw [ClientSearch.resolveRoot_run rfl]
  exact hc

theorem keeps_rank (items : List Item) (query : Json) : Keeps P (Desk.rank items query) := by
  intro d hd
  rw [rank_run]
  exact hd

theorem clientKeeps_answer (q : SearchTerms) (items : List Item) :
    ClientKeeps P (Client.atDesk (Desk.rank items q.query) >>= fun found =>
      Client.give (Argument.limited q.maxResults found)) :=
  (keeps_rank items q.query).atDesk.bind fun _ => clientKeeps_give _

theorem SearchLasting.clientKeeps_scanThenAnswer (h : SearchLasting P) (q : SearchTerms)
    (root : String) :
    ClientKeeps P (scanThenAnswer q root) := by
  refine (h.keeps_extract q.kind root).atDesk.bind fun occurrences => ?_
  refine (h.keeps_build root occurrences).atDesk.bind fun items => ?_
  exact (h.keeps_keep _ items).atDesk.bind fun _ => clientKeeps_answer q items

theorem SearchLasting.clientKeeps_search (h : SearchLasting P) (q : SearchTerms) (refresh : Bool) :
    ClientKeeps P (Client.search q refresh) := by
  refine (clientKeeps_resolveRoot q.root).bind fun root => ?_
  cases refresh with
  | true => exact h.clientKeeps_scanThenAnswer q root
  | false =>
      have hlookup : Keeps P (Desk.cached (Cache.key q.kind root)) := fun _ hd => hd
      refine hlookup.atDesk.bind fun cached => ?_
      cases cached with
      | none => exact h.clientKeeps_scanThenAnswer q root
      | some items => exact (h.keeps_rescore items).atDesk.bind (clientKeeps_answer q)

theorem clientKeeps_answerFrom (q : SearchTerms) (s : Session) :
    ClientKeeps P (answerFrom q s) := by
  intro c hc
  rw [client_answerFrom]
  exact hc

theorem SearchLasting.clientKeeps_await (h : SearchLasting P) (s : Session) :
    ClientKeeps P (Client.await s) := by
  refine ClientKeeps.bind ?_ fun s => ?_
  · intro c hc
    exact h.landWith s (h.keeps_extract s.kind s.root) hc
  · split
    · exact fun _ hc => hc
    · exact clientKeeps_pure s

theorem SearchLasting.clientKeeps_searchStale (h : SearchLasting P) (q : SearchTerms)
    (waitFresh : Bool) :
    ClientKeeps P (Client.searchStale q waitFresh) := by
  refine (clientKeeps_resolveRoot q.root).bind fun root => ?_
  refine (h.keeps_start (Session.new q.kind root)).atDesk.bind fun s => ?_
  dsimp only
  split
  · exact (h.clientKeeps_await s).bind (clientKeeps_answerFrom q)
  · intro c hc
    exact clientKeeps_answerFrom q s ⟨c.desk, c.background ++ [s.close]⟩ hc

end Clients

theorem lasting_config (config : Config) : Lasting fun d => d.config = config where
  loaded _ hd := hd
  called _ hd := hd
  cached _ hd := hd
  recorded _ _ hd := hd
  timed _ hd := hd

theorem lasting_loaded : Lasting fun d => d.tracker.loaded = true where
  loaded hload _ := loaded_of_load hload
  called _ hd := hd
  cached _ hd := hd
  recorded file symbol hd := loaded_record hd _ _ _ file symbol
  timed _ hd := hd

end SymbolSearch.Proofs.DeskInvariants
