import SymbolSearch.Proofs.CacheHistory
import SymbolSearch.Proofs.JobSchedules
import SymbolSearch.Proofs.SessionView

namespace SymbolSearch.Proofs.FailedRescans

open CacheHistory
open ClientSearch
open DeskActions
open DeskInvariants
open JobSchedules
open PoolSteps
open Rescans
open Scanning
open SessionLifecycle
open SessionSteps
open SessionView
open TrackerSteps

variable {d : Desk} {s s₀ : Session} {m : Member} {w : Workplace} {id : String} {a : Activity}
  {items : List Item} {activities : List Activity}

section Scans

/-- Every call that a scan of a kind below a root makes at a desk comes to nothing. -/
def AllCallsFail (d : Desk) (kind : Json) (root : String) : Prop :=
  ∀ job ∈ jobsFor d.extractor kind,
    callFails d.extractor.ripgrep (d.tool (d.extractor.invocation root job)) = true

variable {kind : Json} {root : String}

theorem occurrences_of_allCallsFail (h : AllCallsFail d kind root) {scan : Scan}
    (hscan : d.extractor.extract d.tool kind root = .ok scan) : scan.occurrences = [] := by
  rcases extract_cases d.extractor root d.tool d.tool kind with
    ⟨failure, hfailed, -⟩ | ⟨rules, hjobs, hok, -⟩
  · rw [hfailed] at hscan
    cases hscan
  · rw [hok] at hscan
    obtain rfl := Except.ok.inj hscan
    have hnothing : (jobsOf rules).flatMap (d.extractor.result d.tool root) = [] := by
      rw [List.flatMap_eq_nil_iff]
      intro job hjob
      rw [← hjobs] at hjob
      apply result_of_fails
      rw [fails, h job hjob, Bool.true_or]
    rw [scanOf, hnothing]
    rfl

/-- A scan whose calls all fail is no failed scan: its list is empty. -/
theorem scannedList_of_allCallsFail (h : AllCallsFail d kind root)
    (hloaded : d.tracker.loaded = true) {scan : Scan}
    (hscan : d.extractor.extract d.tool kind root = .ok scan) :
    scannedList d kind root = .ok [] := by
  have hbuild (t : Tracker) : Ranking.build t d.config d.now root [] = .ok [] := by
    rw [Ranking.build, Ranking.rescore]
    exact congrArg Except.ok sort_nil
  unfold scannedList
  rw [hscan, load_of_loaded hloaded]
  refine Eq.trans ?_ (hbuild d.tracker)
  rw [← occurrences_of_allCallsFail h hscan]
  rfl

theorem shown_nil (config : Config) (hfilter : ∃ text, s.filter = .string text) :
    shown config s [] = .ok [] := by
  obtain ⟨text, htext⟩ := hfilter
  unfold shown
  split
  · rename_i hgiven
    rw [htext] at hgiven ⊢
    cases hrank : Ranking.rank config [] (.string text) with
    | ok found => rw [eq_nil_of_rank_nil hrank]
    | error failure =>
        rw [Ranking.rank, hgiven, Query.findAll, hgiven] at hrank
        simp [Query.needle, Similarity.Needle.findAll, bind, Except.bind, pure, Except.pure]
          at hrank
  · rfl

end Scans

section Waiting

/-- A session as it stands while its rescan is under way. -/
structure UnderWay (s₀ s : Session) : Prop where
  kind : s.kind = s₀.kind
  root : s.root = s₀.root
  pending : s.rescan = .pending
  text : ∃ text, s.filter = .string text

/-- What may happen while the rescan of a session is under way: anything but its landing, and no
other session takes its name. It is filtered by texts only. -/
def Between (id : String) (a : Activity) : Prop :=
  ∀ event, a = .session event → ¬Creates id event ∧ event ≠ .land id ∧
    ∀ value, event = .filter id value → ∃ text, value = .string text

theorem UnderWay.filter (h : UnderWay s₀ m.session) (d : Desk) (id text : String) :
    UnderWay s₀ (sessionAfter d m (.filter id (.string text))) := by
  by_cases hs : m.session.phase = .closed
  · simp only [sessionAfter, Session.setFilter, hs, BEq.rfl, if_true]
    exact h
  · obtain ⟨items, hitems⟩ := filter_cases hs d id text
    rw [hitems]
    exact ⟨h.kind, h.root, h.pending, text, rfl⟩

theorem UnderWay.sessionAfter {event : SessionEvent} (h : UnderWay s₀ m.session)
    (hm : OrderedMap.get? id w.members = some m) (htarget : target? event = some id)
    (hbetween : Between id (.session event)) :
    UnderWay s₀ (sessionAfter w.client.desk m event) := by
  obtain ⟨-, hland, htext⟩ := hbetween event rfl
  cases event with
  | openSession id' =>
      obtain rfl := Option.some.inj htarget
      rcases open_cases (p := w.pool) hm with ⟨-, hsame⟩ | ⟨-, phase, base, hopened, -⟩
      · exact hsame ▸ h
      · exact hopened ▸ ⟨h.kind, h.root, rfl, h.text⟩
  | filter id' value =>
      obtain rfl := Option.some.inj htarget
      obtain ⟨text, rfl⟩ := htext value rfl
      exact h.filter _ _ text
  | close id' => exact ⟨h.kind, h.root, h.pending, h.text⟩
  | land id' =>
      obtain rfl := Option.some.inj htarget
      exact absurd rfl hland
  | create id' kind root announces breakdown => exact h
  | accept id' index => exact h
  | invalidate key => exact h
  | record file symbol => exact h
  | setClock now => exact h

/-- A session whose rescan is under way, and a tracker that has been loaded. -/
structure Waits (id : String) (m₀ : Member) (w : Workplace) : Prop where
  member : ∃ s, OrderedMap.get? id w.members = some { m₀ with session := s } ∧
    UnderWay m₀.session s
  loaded : w.client.desk.tracker.loaded = true

variable {m₀ : Member}

theorem loaded_step (h : w.client.desk.tracker.loaded = true) (a : Activity) :
    (w.step a).client.desk.tracker.loaded = true := by
  cases a with
  | session event => exact lasting_loaded.step (p := w.pool) h event
  | search q refresh => exact lasting_loaded.clientKeeps_search q refresh w.client h
  | searchStale q waitFresh => exact lasting_loaded.clientKeeps_searchStale q waitFresh w.client h
  | landBackground index =>
      rw [Workplace.step]
      split
      · exact h
      · exact lasting_loaded.landWith _ (lasting_loaded.keeps_extract _ _) h
  | clearRecency =>
      change (Tracker.clear w.client.desk.config w.client.desk.store).1.loaded = true
      rw [tracker_clear]
  | setWorld tool files catalog => exact h

theorem Waits.step (h : Waits id m₀ w) (ha : Between id a) : Waits id m₀ (w.step a) := by
  refine ⟨?_, loaded_step h.loaded a⟩
  obtain ⟨s, hs, hunder⟩ := h.member
  cases a with
  | session event =>
      have hstep := get?_step (p := w.pool) hs (ha event rfl).1
      refine ⟨_, hstep, ?_⟩
      split
      · rename_i htarget
        exact UnderWay.sessionAfter (m := { m₀ with session := s }) hunder hs htarget ha
      · exact hunder
  | landBackground index =>
      rw [Workplace.step]
      split <;> exact ⟨s, hs, hunder⟩
  | _ => exact ⟨s, hs, hunder⟩

theorem Waits.run (h : Waits id m₀ w) (hbetween : ∀ a ∈ activities, Between id a) :
    Waits id m₀ (w.run activities) := by
  induction activities generalizing w with
  | nil => exact h
  | cons a activities ih =>
      refine ih (h.step (hbetween a List.mem_cons_self)) ?_
      intro b hb
      exact hbetween b (List.mem_cons_of_mem a hb)

theorem start_cached_cases (hcached : OrderedMap.get? s.key d.cache.current = some items)
    (hok : (s.start.run.run d).1.isOk = true) :
    ∃ t notices base, d.tracker.load d.config d.store = .ok (t, notices) ∧
      s.start.run.run d = (.ok (opened s .revalidating base), { d with tracker := t }) := by
  have hphase : s.phase = .empty := by
    by_contra hs
    rw [start_again hs] at hok
    cases hok
  rw [start_cached_eq hphase hcached] at hok ⊢
  cases hload : d.tracker.load d.config d.store with
  | error failure =>
      rw [hload] at hok
      cases hok
  | ok loaded =>
      obtain ⟨t, notices⟩ := loaded
      simp only [hload] at hok ⊢
      cases hscored : Ranking.rescore t d.config d.now items with
      | error failure =>
          rw [hscored] at hok
          cases hok
      | ok base => exact ⟨t, notices, base, rfl, rfl⟩

theorem waits_of_open (hm : OrderedMap.get? id w.members = some m)
    (htext : ∃ text, m.session.filter = .string text)
    (hcached : w.entry m.session.key = some items)
    (hopen : startsRescan id w.pool (.openSession id) = true) :
    Waits id m (w.step (.session (.openSession id))) := by
  have hok : (m.session.start.run.run w.client.desk).1.isOk = true := by
    simp only [startsRescan, decide_true, Bool.true_and, isOk_step_open (p := w.pool) hm] at hopen
    exact hopen
  obtain ⟨t, notices, base, hload, hstart⟩ := start_cached_cases hcached hok
  have hstep : (w.pool.step (.openSession id)).2 =
      { w.pool with desk := { w.client.desk with tracker := t } }.put id m
        (opened m.session .revalidating base) := by
    simp only [SessionPool.step, member_eq (p := w.pool) hm, SessionPool.act]
    rw [show m.session.start.run.run w.pool.desk = _ from hstart]
  refine ⟨⟨opened m.session .revalidating base, ?_, rfl, rfl, rfl, htext⟩, ?_⟩
  · rw [Workplace.step, hstep]
    exact get?_put_self ..
  · rw [Workplace.step, hstep]
    exact loaded_of_load hload

end Waiting

section Landing

/-- A rescan whose calls all fail, but which otherwise goes through, is taken for one that found
nothing. -/
theorem land_of_allCallsFail (hm : OrderedMap.get? id w.members = some m)
    (hpending : m.session.rescan = .pending) (htext : ∃ text, m.session.filter = .string text)
    (hloaded : w.client.desk.tracker.loaded = true)
    (hfails : AllCallsFail w.client.desk m.session.kind m.session.root)
    (hextracts : Extracts w.client.desk m) :
    (w.step (.session (.land id))).entry m.session.key = some [] ∧
      sessionAfter w.client.desk m (.land id) =
        if m.session.phase = .closed then { m.session with rescan := .finished }
        else published m.session [] [] := by
  obtain ⟨occurrences, hok⟩ := hextracts
  have hsound : m.breakdown = none := by
    cases hbreakdown : m.breakdown with
    | none => rfl
    | some reason =>
        rw [SessionPool.extraction, hbreakdown] at hok
        cases hok
  rw [SessionPool.extraction, hsound, extract_run] at hok
  cases hscan : w.client.desk.extractor.extract w.client.desk.tool m.session.kind
      m.session.root with
  | error failure =>
      rw [hscan] at hok
      cases hok
  | ok scan =>
      have hlist := scannedList_of_allCallsFail hfails hloaded hscan
      refine ⟨?_, ?_⟩
      · rw [entry_step_of_publishes (.land hm hpending hsound hlist), if_pos rfl]
      · obtain ⟨d', hland, -⟩ := land_of_scannedList hpending hlist
        rw [PoolSteps.sessionAfter, SessionPool.extraction, hsound]
        refine (congrArg Prod.fst hland).trans ?_
        rw [landed, shown_nil _ htext]

theorem land_of_not_extracts (hm : OrderedMap.get? id w.members = some m)
    (hpending : m.session.rescan = .pending) (hextracts : ¬Extracts w.client.desk m)
    (key : String) :
    (w.step (.session (.land id))).entry key = w.entry key ∧
      sessionAfter w.client.desk m (.land id) = m.session.settled := by
  rcases hrun : (SessionPool.extraction m).run.run w.client.desk with ⟨result, d'⟩
  cases result with
  | ok occurrences => exact absurd ⟨occurrences, congrArg Prod.fst hrun⟩ hextracts
  | error failure =>
      have hquiet : Quiet w (.session (.land id)) := .failed hm (congrArg Prod.fst hrun)
      refine ⟨entry_step_of_not_touches (hquiet.not_touches key), ?_⟩
      exact congrArg Prod.fst (landWith_failed hpending hrun)

end Landing

/-- What becomes of a list when all calls of a rescan fail. A session is opened on a cached list,
and by the time its rescan lands the tool has failed at every call. Unless the extraction itself
breaks down, the list is lost: the cache has an empty one instead, and so has the session when it is
open. Only a breakdown keeps the list. With a kind that can be looked up and somebody to do the
work there is no breakdown. -/
theorem failing_calls_lose_list (hm : OrderedMap.get? id w.members = some m)
    (htext : ∃ text, m.session.filter = .string text)
    (hcached : w.entry m.session.key = some items)
    (hopen : startsRescan id w.pool (.openSession id) = true)
    (hbetween : ∀ a ∈ activities, Between id a) {v : Workplace}
    (hv : v = (w.step (.session (.openSession id))).run activities)
    (hfails : AllCallsFail v.client.desk m.session.kind m.session.root) :
    ∃ s s', OrderedMap.get? id v.members = some { m with session := s } ∧
      OrderedMap.get? id (v.step (.session (.land id))).members = some { m with session := s' } ∧
      (m.breakdown = none → IsSelector m.session.kind → Staffed v.client.desk.config.workers →
        Extracts v.client.desk { m with session := s }) ∧
      (Extracts v.client.desk { m with session := s } →
        (v.step (.session (.land id))).entry m.session.key = some [] ∧
          s' = if s.phase = .closed then { s with rescan := .finished }
            else published s [] []) ∧
      (¬Extracts v.client.desk { m with session := s } →
        (v.step (.session (.land id))).entry m.session.key = v.entry m.session.key ∧
          s' = s.settled) := by
  obtain ⟨⟨s, hs, hunder⟩, hloaded⟩ := (waits_of_open hm htext hcached hopen).run hbetween
  rw [← hv] at hs hloaded
  have hkey : s.key = m.session.key := by rw [Session.key, hunder.kind, hunder.root, Session.key]
  have hcreates : ¬Creates id (.land id) := by simp [Creates]
  have hland := get?_step_of_target (p := v.pool) hs rfl hcreates
  refine ⟨s, _, hs, hland, ?_, ?_, ?_⟩
  · intro hsound hkind hworkers
    obtain ⟨scan, hscan⟩ := extract_ok v.client.desk.extractor s.root hworkers v.client.desk.tool
      (hunder.kind ▸ hkind)
    refine ⟨scan.occurrences, ?_⟩
    rw [SessionPool.extraction, hsound, extract_run, hscan]
  · intro hextracts
    rw [← hunder.kind, ← hunder.root] at hfails
    rw [← hkey]
    exact land_of_allCallsFail hs hunder.pending hunder.text hloaded hfails hextracts
  · intro hextracts
    exact land_of_not_extracts hs hunder.pending hextracts m.session.key

section Sample

/-- A search has found one class, and there is a session that has not been opened yet. -/
def sampleBefore : Workplace :=
  (CacheHistory.sampleWorkplace.run [.search (sampleTerms "") false]).step
    (.session (.create "s" (.string "all") "/" true none))

/-- The tool goes missing. -/
def sampleLoss : List Activity :=
  [.setWorld (fun _ => .missing) sampleFiles (Catalog.ofRules [sampleRule])]

/-- The session is open and waits for a rescan that cannot call the tool. -/
def sampleWaiting : Workplace :=
  (sampleBefore.step (.session (.openSession "s"))).run sampleLoss

theorem allCallsFail_sample : AllCallsFail sampleWaiting.client.desk (.string "all") "/" :=
  fun _ _ => rfl

/-- The class that was on show is gone after the rescan, also from the cache. -/
theorem failing_calls_lose_list_sample :
    ∃ s s', OrderedMap.get? "s" sampleWaiting.members = some ⟨s, true, none⟩ ∧
      OrderedMap.get? "s" (sampleWaiting.step (.session (.land "s"))).members =
        some ⟨s', true, none⟩ ∧
      s.phase = .revalidating ∧ s.items.length = 1 ∧ s' = published s [] [] ∧
      (sampleWaiting.step (.session (.land "s"))).entry "all::/" = some [] := by
  have hm : OrderedMap.get? "s" sampleBefore.members =
      some ⟨Session.new (.string "all") "/", true, none⟩ := rfl
  obtain ⟨items, hitems⟩ := Option.isSome_iff_exists.mp
    (by decide +kernel : (sampleBefore.entry "all::/").isSome = true)
  have hopen : startsRescan "s" sampleBefore.pool (.openSession "s") = true := by
    decide +kernel
  have hbetween : ∀ a ∈ sampleLoss, Between "s" a := by
    simp [sampleLoss, Between]
  have hshown : (OrderedMap.get? "s" sampleWaiting.members).all (fun m =>
      decide (m.session.phase = .revalidating ∧ m.session.items.length = 1)) = true := by
    decide +kernel
  obtain ⟨s, s', hs, hs', hsound, hlost, -⟩ :=
    failing_calls_lose_list hm ⟨"", rfl⟩ hitems hopen hbetween (rfl : sampleWaiting = _)
      allCallsFail_sample
  rw [hs] at hshown
  obtain ⟨hphase, hlength⟩ := of_decide_eq_true hshown
  obtain ⟨hentry, hsession⟩ :=
    hlost (hsound rfl (isSelector_string "all") (by decide +kernel))
  rw [if_neg (by rw [hphase]; decide)] at hsession
  exact ⟨s, s', hs, hs', hphase, hlength, hsession, hentry⟩

/-- A pattern is searched for, every call of the rescan fails, and the open session does not show
what it showed before, nor is it cached any more. -/
theorem failed_calls_change_list :
    jobsFor sampleWaiting.client.desk.extractor (.string "all") ≠ [] ∧
      AllCallsFail sampleWaiting.client.desk (.string "all") "/" ∧
      ∃ m m', OrderedMap.get? "s" sampleWaiting.members = some m ∧
        OrderedMap.get? "s" (sampleWaiting.step (.session (.land "s"))).members = some m' ∧
        m.session.phase = .revalidating ∧ m.session.items.length = 1 ∧ m'.session.items = [] ∧
        (sampleWaiting.entry "all::/").map List.length = some 1 ∧
        (sampleWaiting.step (.session (.land "s"))).entry "all::/" = some [] := by
  have hbefore : (OrderedMap.get? "s" sampleWaiting.members).any (fun m =>
      decide (m.session.phase = .revalidating ∧ m.session.items.length = 1)) = true := by
    decide +kernel
  have hafter : (OrderedMap.get? "s" (sampleWaiting.step (.session (.land "s"))).members).any
      (fun m => m.session.items.isEmpty) = true := by
    decide +kernel
  have hentry : ((sampleWaiting.step (.session (.land "s"))).entry "all::/").any
      List.isEmpty = true := by
    decide +kernel
  obtain ⟨m, hm, hshown⟩ := (Option.any_eq_true _ _).mp hbefore
  obtain ⟨m', hm', hempty⟩ := (Option.any_eq_true _ _).mp hafter
  obtain ⟨cached, hcached, hnil⟩ := (Option.any_eq_true _ _).mp hentry
  obtain ⟨hphase, hlength⟩ := of_decide_eq_true hshown
  refine ⟨by decide +kernel, allCallsFail_sample, m, m', hm, hm', hphase, hlength,
    List.isEmpty_iff.mp hempty, by decide +kernel, ?_⟩
  rw [hcached, List.isEmpty_iff.mp hnil]

end Sample

end SymbolSearch.Proofs.FailedRescans
