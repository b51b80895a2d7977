import SymbolSearch.Proofs.ClientSearch
import SymbolSearch.Proofs.PoolSteps

namespace SymbolSearch.Proofs.SessionLifecycle

open Blending
open ClientSearch
open DeskActions
open PoolSteps
open Rescoring
open SessionSteps

/-- How far a session has come in its life, given whether it has been opened and closed, whether its
rescan has finished, and whether that brought it a fresh list. -/
structure Life (s : Session) (opened closed finished updated : Prop) : Prop where
  finished_opened : finished → opened
  closed_iff : s.phase = .closed ↔ closed
  busy_iff : s.phase = .loading ∨ s.phase = .revalidating ↔ opened ∧ ¬closed ∧ ¬finished
  ready_iff : s.phase = .ready ↔ opened ∧ ¬closed ∧ finished
  empty_iff : s.phase = .empty ↔ ¬opened ∧ ¬closed
  pending_iff : s.rescan = .pending ↔ opened ∧ ¬finished
  updated_finished : updated → finished
  updates_eq : s.updates = 0 ∧ ¬updated ∨ s.updates = 1 ∧ updated
  text_filter : ∃ text, s.filter = .string text

variable {s : Session} {o c f u : Prop} {d : Desk} {m : Member}

theorem life_new (kind : Json) (root : String) :
    Life (Session.new kind root) False False False False := by
  constructor <;> simp [Session.new]

theorem Life.start (h : Life m.session o c f u) (hd : ScoresAt d) (id : String) :
    Life (sessionAfter d m (.openSession id)) (o ∨ ¬c) c f u := by
  by_cases hs : m.session.phase = .empty
  · obtain ⟨phase, base, hphase, hstart⟩ : ∃ phase base,
        (phase = .loading ∨ phase = .revalidating) ∧
          sessionAfter d m (.openSession id) = opened m.session phase base := by
      cases hlookup : OrderedMap.get? m.session.key d.cache.current with
      | none =>
          exact ⟨.loading, [], .inl rfl, by simp only [sessionAfter, start_uncached hs hlookup]⟩
      | some items =>
          refine ⟨.revalidating, freshAt d items, .inr rfl, ?_⟩
          simp only [sessionAfter, start_cached hs hlookup (hd.rescoresAt items)]
    obtain ⟨ho, hc⟩ := h.empty_iff.mp hs
    have hf : ¬f := fun hf => ho (h.finished_opened hf)
    have hu : ¬u := fun hu => hf (h.updated_finished hu)
    have hupdates : m.session.updates = 0 := by simpa [hu] using h.updates_eq
    rw [hstart]
    constructor
    case text_filter => exact h.text_filter
    all_goals
      rcases hphase with rfl | rfl <;> simp [opened, hc, hf, hu, hupdates]
  · have hsame : sessionAfter d m (.openSession id) = m.session := by
      simp only [sessionAfter, start_again hs]
    have ho : o ∨ ¬c ↔ o := by
      refine ⟨?_, .inl⟩
      rintro (ho | hc)
      · exact ho
      · by_contra ho
        exact hs (h.empty_iff.mpr ⟨ho, hc⟩)
    rw [hsame, propext ho]
    exact h

theorem Life.filter (h : Life m.session o c f u) (d : Desk) (id text : String) :
    Life (sessionAfter d m (.filter id (.string text))) o c f u := by
  have hframe : ∀ value items, (∃ text, value = .string text) →
      Life { m.session with filter := value, items := items } o c f u :=
    fun value items hvalue => ⟨h.finished_opened, h.closed_iff, h.busy_iff, h.ready_iff,
      h.empty_iff, h.pending_iff, h.updated_finished, h.updates_eq, hvalue⟩
  cases hset : m.session.setFilter (.string text) with
  | error reason =>
      simp only [sessionAfter, hset]
      exact h
  | ok s =>
      obtain ⟨value, hvalue, rfl⟩ : ∃ value, (∃ text, value = .string text) ∧
          s = { m.session with filter := value } := by
        unfold Session.setFilter at hset
        split at hset
        · cases hset
        · refine ⟨_, ?_, (Except.ok.inj hset).symm⟩
          split
          · exact ⟨text, rfl⟩
          · exact ⟨"", rfl⟩
      simp only [sessionAfter, hset, applyFilter_run]
      cases shown d.config { m.session with filter := value } m.session.base with
      | error reason => exact hframe value m.session.items hvalue
      | ok items => exact hframe value items hvalue

theorem Life.close (h : Life m.session o c f u) (d : Desk) (id : String) :
    Life (sessionAfter d m (.close id)) o True f u := by
  constructor
  case finished_opened => exact h.finished_opened
  case pending_iff => exact h.pending_iff
  case updated_finished => exact h.updated_finished
  case updates_eq => exact h.updates_eq
  case text_filter => exact h.text_filter
  all_goals simp [sessionAfter, Session.close]

theorem shown_ok {config : Config} (hblend : Blendable config) {base : List Item}
    (hbase : Scored base) (hfilter : ∃ text, s.filter = .string text) :
    ∃ items, shown config s base = .ok items := by
  obtain ⟨text, htext⟩ := hfilter
  unfold shown
  split
  · rw [htext]
    exact rank_ok hblend hbase text
  · exact ⟨base, rfl⟩

/-- The extraction of a session succeeds at a desk. -/
def Extracts (d : Desk) (m : Member) : Prop :=
  ∃ occurrences, ((SessionPool.extraction m).run.run d).1 = .ok occurrences

theorem extraction_called {occurrences : List Occurrence} {d' : Desk}
    (h : (SessionPool.extraction m).run.run d = (.ok occurrences, d')) :
    ∃ calls, d' = called d calls := by
  unfold SessionPool.extraction at h
  split at h
  · cases h
  · rw [extract_run] at h
    split at h
    · cases h
      exact ⟨_, rfl⟩
    · cases h

theorem land_cases (hrescan : m.session.rescan = .pending) (hd : ScoresAt d)
    (hblend : Blendable d.config) (hfilter : ∃ text, m.session.filter = .string text)
    (id : String) :
    (¬Extracts d m ∧ sessionAfter d m (.land id) = m.session.settled) ∨
      (Extracts d m ∧ m.session.phase = .closed ∧
        sessionAfter d m (.land id) = { m.session with rescan := .finished }) ∨
      (Extracts d m ∧ m.session.phase ≠ .closed ∧
        ∃ fresh items, sessionAfter d m (.land id) = published m.session fresh items) := by
  rcases hrun : (SessionPool.extraction m).run.run d with ⟨result, d'⟩
  cases result with
  | error failure =>
      refine .inl ⟨?_, ?_⟩
      · rintro ⟨occurrences, hok⟩
        rw [hrun] at hok
        cases hok
      · exact congrArg Prod.fst (landWith_failed hrescan hrun)
  | ok occurrences =>
      have hextracts : Extracts d m := ⟨occurrences, by rw [hrun]⟩
      obtain ⟨calls, rfl⟩ := extraction_called hrun
      have hscored := (hd.rescoresAt (itemsOf m.session.root occurrences)).called calls
      by_cases hclosed : m.session.phase = .closed
      · have hland := landWith_extracted hrescan hrun hscored (publish_closed hclosed _ _)
        exact .inr (.inl ⟨hextracts, hclosed, congrArg Prod.fst hland⟩)
      · obtain ⟨items, hitems⟩ := shown_ok (s := m.session) hblend
          (scored_refreshed (trackerOf d) d.config d.now (itemsOf m.session.root occurrences))
          hfilter
        have hland := landWith_extracted hrescan hrun hscored (publish_open hclosed hitems)
        exact .inr (.inr ⟨hextracts, hclosed, _, items, congrArg Prod.fst hland⟩)

/-- A landing finishes the rescan of an opened session. It brings a fresh list when the extraction
succeeds and the session is still open, and only the first landing counts. -/
theorem Life.land (h : Life m.session o c f u) (hd : ScoresAt d) (hblend : Blendable d.config)
    (id : String) :
    Life (sessionAfter d m (.land id)) o c (f ∨ o) (u ∨ o ∧ ¬c ∧ ¬f ∧ Extracts d m) := by
  by_cases hrescan : m.session.rescan = .pending
  · obtain ⟨ho, hf⟩ := h.pending_iff.mp hrescan
    have hu : ¬u := fun hu => hf (h.updated_finished hu)
    have hupdates : m.session.updates = 0 := by simpa [hu] using h.updates_eq
    rcases land_cases hrescan hd hblend h.text_filter id with
      ⟨hextracts, hs⟩ | ⟨hextracts, hphase, hs⟩ | ⟨hextracts, hphase, fresh, items, hs⟩
    · rw [hs]
      by_cases hphase : m.session.phase = .closed
      · have hc := h.closed_iff.mp hphase
        constructor
        case text_filter => exact h.text_filter
        all_goals simp [Session.settled, Session.isOpen, hphase, ho, hc, hu, hupdates]
      · have hc : ¬c := fun hc => hphase (h.closed_iff.mpr hc)
        constructor
        case text_filter => exact h.text_filter
        all_goals
          simp [Session.settled, Session.isOpen, hphase, ho, hc, hu, hextracts, hupdates]
    · have hc := h.closed_iff.mp hphase
      rw [hs]
      constructor
      case text_filter => exact h.text_filter
      all_goals simp [hphase, ho, hc, hu, hupdates]
    · have hc : ¬c := fun hc => hphase (h.closed_iff.mpr hc)
      rw [hs]
      constructor
      case text_filter => exact h.text_filter
      all_goals simp [published, ho, hc, hf, hextracts, hupdates]
  · have hsame : sessionAfter d m (.land id) = m.session := by
      simp only [sessionAfter, landWith_idle hrescan]
    have hdone : o → f := by
      intro ho
      by_contra hf
      exact hrescan (h.pending_iff.mpr ⟨ho, hf⟩)
    have hf : f ∨ o ↔ f := or_iff_left_of_imp hdone
    have hu : u ∨ o ∧ ¬c ∧ ¬f ∧ Extracts d m ↔ u :=
      or_iff_left fun hnow => hnow.2.2.1 (hdone hnow.1)
    rw [hsame, propext hf, propext hu]
    exact h

theorem sessionAfter_closed (hs : m.session.phase = .closed) (d : Desk) (event : SessionEvent) :
    ∃ rescan, sessionAfter d m event = { m.session with rescan := rescan } := by
  cases event with
  | openSession id =>
      refine ⟨m.session.rescan, ?_⟩
      have hagain := start_again (s := m.session) (by simp [hs]) d
      simp only [sessionAfter, hagain]
  | filter id value =>
      refine ⟨m.session.rescan, ?_⟩
      have hset : m.session.setFilter value = .error (.session (.closed m.session.key)) := by
        rw [Session.setFilter, hs]
        rfl
      simp only [sessionAfter, hset]
  | close id =>
      refine ⟨m.session.rescan, ?_⟩
      rw [sessionAfter, Session.close, ← hs]
  | land id => exact landWith_closed hs _ d
  | create id kind root announces breakdown => exact ⟨m.session.rescan, rfl⟩
  | accept id index => exact ⟨m.session.rescan, rfl⟩
  | invalidate key => exact ⟨m.session.rescan, rfl⟩
  | record file symbol => exact ⟨m.session.rescan, rfl⟩
  | setClock now => exact ⟨m.session.rescan, rfl⟩

/-- A pool after some events. -/
def run (p : SessionPool) (events : List SessionEvent) : SessionPool :=
  events.foldl (fun p event => (p.step event).2) p

variable {p : SessionPool} {id : String} {events : List SessionEvent}

theorem run_append (p : SessionPool) (xs ys : List SessionEvent) :
    run p (xs ++ ys) = run (run p xs) ys :=
  List.foldl_append ..

theorem config_run (p : SessionPool) (events : List SessionEvent) :
    (run p events).desk.config = p.desk.config := by
  induction events generalizing p with
  | nil => rfl
  | cons event events ih => exact (ih (p.step event).2).trans (config_step p event)

/-- Once closed, a session never changes again except for the state of its rescan. -/
theorem closed_run (hm : OrderedMap.get? id p.members = some m) (hs : m.session.phase = .closed)
    (hkept : ∀ event ∈ events, ¬Creates id event) :
    ∃ rescan, OrderedMap.get? id (run p events).members =
      some { m with session := { m.session with rescan := rescan } } := by
  induction events generalizing p m with
  | nil => exact ⟨m.session.rescan, hm⟩
  | cons event events ih =>
      have hstep := get?_step hm (hkept event List.mem_cons_self)
      have hrest : ∀ event ∈ events, ¬Creates id event :=
        fun e he => hkept e (List.mem_cons_of_mem event he)
      obtain ⟨rescan, hrescan⟩ := sessionAfter_closed hs p.desk event
      have hframe : ∃ rescan, (if target? event = some id then sessionAfter p.desk m event
          else m.session) = { m.session with rescan := rescan } := by
        split
        · exact ⟨rescan, hrescan⟩
        · exact ⟨m.session.rescan, rfl⟩
      obtain ⟨rescan, hnext⟩ := hframe
      rw [hnext] at hstep
      obtain ⟨last, hlast⟩ := ih hstep hs hrest
      exact ⟨last, hlast⟩

/-- An event has happened at a moment when what came before it had some property. -/
def Happened (events : List SessionEvent) (event : SessionEvent)
    (before : List SessionEvent → Prop) : Prop :=
  ∃ earlier later, events = earlier ++ event :: later ∧ before earlier

theorem happened_snoc {event last : SessionEvent} {before : List SessionEvent → Prop} :
    Happened (events ++ [last]) event before ↔
      Happened events event before ∨ last = event ∧ before events := by
  constructor
  · rintro ⟨earlier, later, heq, hbefore⟩
    rcases List.eq_nil_or_concat later with rfl | ⟨later, last', rfl⟩
    · obtain ⟨rfl, hlast⟩ := List.append_inj' heq rfl
      exact .inr ⟨(List.cons.inj hlast).1, hbefore⟩
    · rw [List.concat_eq_append, ← List.cons_append, ← List.append_assoc] at heq
      exact .inl ⟨earlier, later, (List.append_inj' heq rfl).1, hbefore⟩
  · rintro (⟨earlier, later, rfl, hbefore⟩ | ⟨rfl, hbefore⟩)
    · exact ⟨earlier, later ++ [last], by simp, hbefore⟩
    · exact ⟨events, [], rfl, hbefore⟩

/-- A session has been closed. -/
def Closed (id : String) (events : List SessionEvent) : Prop :=
  .close id ∈ events

/-- A session has been opened: opening a closed one comes to nothing. -/
def Opened (id : String) (events : List SessionEvent) : Prop :=
  Happened events (.openSession id) fun earlier => ¬Closed id earlier

/-- The rescan of a session has finished: it has landed after the session was opened. -/
def Finished (id : String) (events : List SessionEvent) : Prop :=
  Happened events (.land id) (Opened id)

/-- The rescan of a session has succeeded while the session was still open: its one landing came
before the session was closed, at a moment when the extraction gave a result. -/
def Updated (p : SessionPool) (id : String) (events : List SessionEvent) : Prop :=
  Happened events (.land id) fun earlier =>
    Opened id earlier ∧ ¬Closed id earlier ∧ ¬Finished id earlier ∧
      ∃ m, OrderedMap.get? id (run p earlier).members = some m ∧
        Extracts (run p earlier).desk m

theorem closed_snoc {last : SessionEvent} :
    Closed id (events ++ [last]) ↔ Closed id events ∨ last = .close id := by
  simp [Closed, eq_comm]

theorem opened_snoc {last : SessionEvent} :
    Opened id (events ++ [last]) ↔
      Opened id events ∨ last = .openSession id ∧ ¬Closed id events :=
  happened_snoc

theorem finished_snoc {last : SessionEvent} :
    Finished id (events ++ [last]) ↔ Finished id events ∨ last = .land id ∧ Opened id events :=
  happened_snoc

theorem updated_snoc (hm : OrderedMap.get? id (run p events).members = some m)
    {last : SessionEvent} :
    Updated p id (events ++ [last]) ↔
      Updated p id events ∨ last = .land id ∧ Opened id events ∧ ¬Closed id events ∧
        ¬Finished id events ∧ Extracts (run p events).desk m := by
  have hextracts : (∃ m, OrderedMap.get? id (run p events).members = some m ∧
      Extracts (run p events).desk m) ↔ Extracts (run p events).desk m := by
    simp [hm]
  rw [Updated, happened_snoc, hextracts, ← Updated]

theorem life_snoc (hm : OrderedMap.get? id (run p events).members = some m)
    (hlife : Life m.session (Opened id events) (Closed id events) (Finished id events)
      (Updated p id events))
    {last : SessionEvent} (hkept : ¬Creates id last) (hscores : ScoresAt (run p events).desk)
    (hblend : Blendable p.desk.config)
    (hfilter : ∀ value, last = .filter id value → ∃ text, value = .string text) :
    ∃ s, OrderedMap.get? id (run p (events ++ [last])).members = some { m with session := s } ∧
      Life s (Opened id (events ++ [last])) (Closed id (events ++ [last]))
        (Finished id (events ++ [last])) (Updated p id (events ++ [last])) := by
  have hrun : run p (events ++ [last]) = ((run p events).step last).2 := run_append ..
  have hblend' : Blendable (run p events).desk.config := by rwa [config_run]
  refine ⟨_, hrun ▸ get?_step hm hkept, ?_⟩
  rw [propext opened_snoc, propext closed_snoc, propext finished_snoc, propext (updated_snoc hm)]
  by_cases htarget : target? last = some id
  · rw [if_pos htarget]
    cases last with
    | create id' kind root announces breakdown =>
        obtain rfl := Option.some.inj htarget
        exact absurd ⟨kind, root, announces, breakdown, rfl⟩ hkept
    | openSession id' =>
        obtain rfl := Option.some.inj htarget
        simpa using hlife.start hscores id'
    | filter id' value =>
        obtain rfl := Option.some.inj htarget
        obtain ⟨text, rfl⟩ := hfilter value rfl
        simpa using hlife.filter (run p events).desk id' text
    | close id' =>
        obtain rfl := Option.some.inj htarget
        simpa using hlife.close (run p events).desk id'
    | land id' =>
        obtain rfl := Option.some.inj htarget
        simpa using hlife.land hscores hblend' id'
    | accept id' index => simpa [sessionAfter] using hlife
    | invalidate key => cases htarget
    | record file symbol => cases htarget
    | setClock now => cases htarget
  · have hne : last ≠ .openSession id ∧ last ≠ .close id ∧ last ≠ .land id := by
      refine ⟨?_, ?_, ?_⟩ <;> rintro rfl <;> exact htarget rfl
    rw [if_neg htarget]
    simpa [hne] using hlife

/-- A run in which nothing goes wrong for a session: it is not replaced by a new one, the keys of
the moment always have their scores, and what is filtered by is text that can be ranked. -/
structure Orderly (p : SessionPool) (id : String) (events : List SessionEvent) : Prop where
  kept : ∀ event ∈ events, ¬Creates id event
  scores : ∀ earlier later, events = earlier ++ later → ScoresAt (run p earlier).desk
  filters : ∀ value, .filter id value ∈ events → ∃ text, value = .string text
  blendable : Blendable p.desk.config

theorem Orderly.init {last : SessionEvent} (h : Orderly p id (events ++ [last])) :
    Orderly p id events where
  kept event hevent := h.kept event (List.mem_append_left _ hevent)
  scores earlier later heq := h.scores earlier (later ++ [last]) (by simp [heq])
  filters value hvalue := h.filters value (List.mem_append_left _ hvalue)
  blendable := h.blendable

section Created

variable {kind : Json} {root : String} {announces : Bool} {breakdown : Option String}

theorem not_happened_nil {event : SessionEvent} {before : List SessionEvent → Prop} :
    ¬Happened [] event before := by
  rintro ⟨earlier, later, heq, -⟩
  simp at heq

/-- The life of a session that has just been made. -/
theorem life_run
    (hm : OrderedMap.get? id p.members = some ⟨Session.new kind root, announces, breakdown⟩)
    (h : Orderly p id events) :
    ∃ s, OrderedMap.get? id (run p events).members = some ⟨s, announces, breakdown⟩ ∧
      Life s (Opened id events) (Closed id events) (Finished id events)
        (Updated p id events) := by
  induction events using List.reverseRecOn with
  | nil =>
      refine ⟨_, hm, ?_⟩
      simpa [Opened, Finished, Updated, Closed, not_happened_nil] using life_new kind root
  | append_singleton events last ih =>
      obtain ⟨s, hs, hlife⟩ := ih h.init
      exact life_snoc hs hlife (h.kept last (by simp)) (h.scores events [last] rfl) h.blendable
        fun value hvalue => h.filters value (by simp [hvalue])

end Created

/-- How many rescans a session starts in a run. -/
def starts (id : String) : SessionPool → List SessionEvent → Nat
  | _, [] => 0
  | p, event :: events =>
      (if startsRescan id p event then 1 else 0) + starts id (p.step event).2 events

theorem starts_snoc (p : SessionPool) (events : List SessionEvent) (last : SessionEvent) :
    starts id p (events ++ [last]) =
      starts id p events + if startsRescan id (run p events) last then 1 else 0 := by
  induction events generalizing p with
  | nil => exact Nat.add_comm _ 0
  | cons event events ih =>
      rw [List.cons_append, starts, ih, starts, Nat.add_assoc]
      rfl

theorem startsRescan_iff (hm : OrderedMap.get? id p.members = some m) (hd : ScoresAt p.desk)
    (event : SessionEvent) :
    startsRescan id p event = true ↔ event = .openSession id ∧ m.session.phase = .empty := by
  cases event with
  | openSession id' =>
      by_cases hid : id' = id
      · subst hid
        simp only [startsRescan, decide_true, Bool.true_and, isOk_step_open hm, true_and]
        by_cases hs : m.session.phase = .empty
        · cases hlookup : OrderedMap.get? m.session.key p.desk.cache.current with
          | none => simp [start_uncached hs hlookup, hs, Except.isOk, Except.toBool]
          | some items =>
              simp [start_cached hs hlookup (hd.rescoresAt items), hs, Except.isOk, Except.toBool]
        · simp [start_again hs, hs, Except.isOk, Except.toBool]
      · simp [startsRescan, hid]
  | _ => simp [startsRescan]

theorem starts_run {kind : Json} {root : String} {announces : Bool} {breakdown : Option String}
    (hm : OrderedMap.get? id p.members = some ⟨Session.new kind root, announces, breakdown⟩)
    (h : Orderly p id events) :
    starts id p events = 0 ∧ ¬Opened id events ∨ starts id p events = 1 ∧ Opened id events := by
  induction events using List.reverseRecOn with
  | nil => exact .inl ⟨rfl, not_happened_nil⟩
  | append_singleton events last ih =>
      obtain ⟨s, hs, hlife⟩ := life_run hm h.init
      have hstart := startsRescan_iff hs (h.scores events [last] rfl) last
      have hcount := ih h.init
      rw [hlife.empty_iff] at hstart
      rw [starts_snoc, opened_snoc]
      by_cases hnew : startsRescan id (run p events) last = true
      · obtain ⟨hlast, hopened, hclosed⟩ := hstart.mp hnew
        have hzero := (hcount.resolve_right fun hone => hopened hone.2).1
        rw [if_pos hnew, hzero]
        exact .inr ⟨rfl, .inr ⟨hlast, hclosed⟩⟩
      · rw [if_neg hnew]
        rcases hcount with ⟨hzero, hopened⟩ | ⟨hone, hopened⟩
        · refine .inl ⟨hzero, ?_⟩
          rintro (hbefore | ⟨hlast, hclosed⟩)
          · exact hopened hbefore
          · exact hnew (hstart.mpr ⟨hlast, hopened, hclosed⟩)
        · exact .inr ⟨hone, .inl hopened⟩

/-- How often a session has called back. -/
def announced (m : Member) : Nat :=
  if m.announces then m.session.updates else 0

/-- A pool with a session that has just been made. -/
def created (p : SessionPool) (id : String) (kind : Json) (root : String) (announces : Bool)
    (breakdown : Option String) : SessionPool :=
  (p.step (.create id kind root announces breakdown)).2

/-- The life of a session among others, whatever happens to them in whatever order. Its phase tells
whether it has been opened and closed and whether its rescan has finished. It starts at most one
rescan, and calls back at most once, when that rescan succeeds before the session is closed. A
closed session stays as it is. -/
theorem session_lifecycle (p : SessionPool) (id : String) (kind : Json) (root : String)
    (announces : Bool) (breakdown : Option String) {p' : SessionPool}
    (hp : p' = created p id kind root announces breakdown) {events : List SessionEvent}
    (h : Orderly p' id events) :
    ∃ m, OrderedMap.get? id (run p' events).members = some m ∧
      (m.session.phase = .closed ↔ Closed id events) ∧
      (m.session.phase = .loading ∨ m.session.phase = .revalidating ↔
        Opened id events ∧ ¬Closed id events ∧ ¬Finished id events) ∧
      (m.session.phase = .ready ↔ Opened id events ∧ ¬Closed id events ∧ Finished id events) ∧
      (m.session.phase = .empty ↔ ¬Opened id events ∧ ¬Closed id events) ∧
      starts id p' events ≤ 1 ∧ (starts id p' events = 1 ↔ Opened id events) ∧
      announced m ≤ 1 ∧ (announced m = 1 ↔ announces = true ∧ Updated p' id events) ∧
      (Closed id events → ∀ later, (∀ event ∈ later, ¬Creates id event) →
        ∃ m', OrderedMap.get? id (run p' (events ++ later)).members = some m' ∧
          m'.session.phase = .closed ∧ m'.session.items = m.session.items ∧
          m'.session.filter = m.session.filter ∧ announced m' = announced m) := by
  have hm : OrderedMap.get? id p'.members = some ⟨Session.new kind root, announces, breakdown⟩ := by
    rw [hp, created, SessionPool.step, OrderedMap.get?_insert, if_pos rfl]
  obtain ⟨s, hs, hlife⟩ := life_run hm h
  have hstarts := starts_run hm h
  have hupdates := hlife.updates_eq
  refine ⟨_, hs, hlife.closed_iff, hlife.busy_iff, hlife.ready_iff, hlife.empty_iff,
    by omega, ?_, ?_, ?_, ?_⟩
  · rcases hstarts with ⟨hzero, hopened⟩ | ⟨hone, hopened⟩
    · simp [hzero, hopened]
    · simp [hone, hopened]
  · unfold announced
    split
    · change s.updates ≤ 1
      omega
    · exact Nat.zero_le 1
  · rcases hupdates with ⟨hzero, hupdated⟩ | ⟨hone, hupdated⟩
    · simp [announced, hzero, hupdated]
    · simp [announced, hone, hupdated]
  · intro hclosed later hkept
    have hphase := hlife.closed_iff.mpr hclosed
    obtain ⟨rescan, hlater⟩ := closed_run hs hphase hkept
    rw [run_append]
    exact ⟨_, hlater, hphase, rfl, rfl, rfl⟩

theorem scoresAt_of_isEmpty {d : Desk} (hreadable : Readable d)
    (hentries : (trackerOf d).entries.isEmpty = true) : ScoresAt d := by
  refine ⟨hreadable, fun key => ⟨Score.zero, ?_⟩⟩
  rw [Tracker.score, List.isEmpty_iff.mp hentries]
  rfl

/-- A session is opened, its rescan lands, and nothing that is tried after it is closed has any
effect. -/
def sampleEvents : List SessionEvent :=
  [.openSession "s", .land "s", .close "s", .filter "s" (.string "b"), .land "s", .openSession "s"]

/-- That session has started one rescan and called back once. -/
theorem session_lifecycle_sample :
    let p := created ⟨(sampleClient sampleOutput).desk, []⟩ "s" (.string "all") "/" true none
    ∃ m, OrderedMap.get? "s" (run p sampleEvents).members = some m ∧
      m.session.phase = .closed ∧ starts "s" p sampleEvents = 1 ∧ announced m = 1 := by
  intro p
  have hscores : ∀ earlier ∈ sampleEvents.inits, Readable (run p earlier).desk ∧
      (trackerOf (run p earlier).desk).entries.isEmpty = true := by
    decide +kernel
  have horderly : Orderly p "s" sampleEvents := by
    refine ⟨?_, ?_, ?_, ?_⟩
    · simp [sampleEvents, Creates]
    · intro earlier later heq
      obtain ⟨hreadable, hentries⟩ := hscores earlier ((List.mem_inits _ _).mpr ⟨later, heq.symm⟩)
      exact scoresAt_of_isEmpty hreadable hentries
    · intro value hvalue
      simp [sampleEvents] at hvalue
      exact ⟨"b", hvalue⟩
    · exact blendable_sample sampleOutput
  obtain ⟨m, hm, hclosed, -, -, -, -, hstarts, -, hannounced, -⟩ :=
    session_lifecycle _ _ _ _ _ _ rfl horderly
  have hopened : Opened "s" [.openSession "s"] := ⟨[], [], rfl, by simp [Closed]⟩
  have hupdated : Updated p "s" sampleEvents := by
    refine ⟨[.openSession "s"], _, rfl, hopened, by simp [Closed], ?_, ?_⟩
    · rintro ⟨earlier, later, heq, -⟩
      have hmem : SessionEvent.land "s" ∈ [.openSession "s"] := by
        rw [heq]
        simp
      simp at hmem
    · obtain ⟨scan, hscan, -⟩ := extract_sample
      refine ⟨_, rfl, scan.occurrences, ?_⟩
      exact congrArg Prod.fst (extract_run_ok hscan)
  refine ⟨m, hm, hclosed.mpr (by simp [Closed, sampleEvents]), hstarts.mpr ?_,
    hannounced.mpr ⟨rfl, hupdated⟩⟩
  exact ⟨[], _, rfl, by simp [Closed]⟩

end SymbolSearch.Proofs.SessionLifecycle
