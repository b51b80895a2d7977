import SymbolSearch.Proofs.Rescans
import SymbolSearch.Proofs.SessionLifecycle

namespace SymbolSearch.Proofs.SessionView

open Blending
open ClientSearch
open DeskActions
open PoolSteps
open Rescans
open Rescoring
open SessionLifecycle
open SessionSteps

/-- A session shows what its filter lets through of its list, whenever that can be told. -/
def Faithful (config : Config) (s : Session) : Prop :=
  ∀ found, shown config s s.base = .ok found → s.items = found

variable {config : Config} {s : Session} {d : Desk} {m : Member} {p : SessionPool} {id : String}
  {events : List SessionEvent} {last : SessionEvent}

theorem faithful_of_shown (h : shown config s s.base = .ok s.items) : Faithful config s := by
  intro found hfound
  rw [h] at hfound
  exact Except.ok.inj hfound

theorem faithful_of_not_shown {failure : Failure} (h : shown config s s.base = .error failure) :
    Faithful config s := by
  intro found hfound
  rw [h] at hfound
  cases hfound

theorem faithful_of_not_given (hfilter : s.filter.isGiven = false) (hitems : s.items = s.base) :
    Faithful config s := by
  apply faithful_of_shown
  rw [shown, hfilter, hitems]
  rfl

theorem sort_nil : Item.sort [] = [] := by
  simp [Item.sort]

theorem eq_nil_of_rank_nil {query : Json} {found : List Item}
    (h : Ranking.rank config [] query = .ok found) : found = [] := by
  unfold Ranking.rank at h
  split at h
  · rw [← Except.ok.inj h, sort_nil]
  · rename_i hgiven
    have hgiven' : query.isGiven = true := by simpa using hgiven
    rw [Query.findAll, hgiven'] at h
    cases hneedle : Query.needle query with
    | error failure =>
        rw [hneedle] at h
        cases h
    | ok needle =>
        have hnone : (needle.elim [] fun n => n.findAll (fun item : Item => item.symbol) []) =
            ([] : List (Similarity.Hit Item)) := by
          cases needle with
          | none => rfl
          | some n => simp [Similarity.Needle.findAll]
        rw [hneedle] at h
        simp only [bind, Except.bind, pure, Except.pure, Bool.not_true, Bool.false_eq_true,
          if_false, hnone] at h
        rw [← Except.ok.inj h]
        exact sort_nil

theorem faithful_of_base_nil (hbase : s.base = []) (hitems : s.items = []) :
    Faithful config s := by
  intro found hfound
  rw [hitems]
  rw [shown, hbase] at hfound
  split at hfound
  · exact (eq_nil_of_rank_nil hfound).symm
  · exact Except.ok.inj hfound

theorem faithful_filter (hs : m.session.phase ≠ .closed) (d : Desk) (id : String) (value : Json) :
    Faithful d.config (sessionAfter d m (.filter id value)) := by
  have hphase : (m.session.phase == .closed) = false := by simpa using hs
  simp only [sessionAfter, Session.setFilter, hphase, Bool.false_eq_true, if_false,
    applyFilter_run]
  generalize (if value.isGiven = true then value else .string "") = filter
  cases hshown : shown d.config { m.session with filter := filter } m.session.base with
  | error failure => exact faithful_of_not_shown hshown
  | ok items => exact faithful_of_shown hshown

theorem faithful_landed (hs : s.phase ≠ .closed) (config : Config) (fresh : List Item) :
    Faithful config (landed config s fresh) := by
  rw [landed, if_neg hs]
  cases hshown : shown config s fresh with
  | error failure => exact faithful_of_not_shown hshown
  | ok items => exact faithful_of_shown hshown

theorem scored_of_rescore {t : Tracker} {now : Int} {items scored : List Item}
    (h : Ranking.rescore t config now items = .ok scored) : Scored scored := by
  rw [eq_refreshed_of_rescore h]
  exact scored_refreshed t config now items

theorem scored_scannedList {kind : Json} {root : String} {fresh : List Item}
    (h : scannedList d kind root = .ok fresh) : Scored fresh := by
  obtain ⟨scan, -, rfl⟩ := scannedList_eq_freshAt h
  exact scored_refreshed _ _ _ _

theorem open_cases (hm : OrderedMap.get? id p.members = some m) :
    startsRescan id p (.openSession id) = false ∧
        sessionAfter p.desk m (.openSession id) = m.session ∨
      startsRescan id p (.openSession id) = true ∧ ∃ phase base,
        sessionAfter p.desk m (.openSession id) = opened m.session phase base ∧ Scored base ∧
          (base = [] ∨ (OrderedMap.get? m.session.key p.desk.cache.current).isSome = true) := by
  have hstarts : startsRescan id p (.openSession id) =
      (m.session.start.run.run p.desk).1.isOk := by
    simp only [startsRescan, decide_true, Bool.true_and, isOk_step_open hm]
  rw [hstarts, sessionAfter]
  by_cases hs : m.session.phase = .empty
  · cases hlookup : OrderedMap.get? m.session.key p.desk.cache.current with
    | none =>
        rw [start_uncached hs hlookup]
        refine .inr ⟨rfl, .loading, [], rfl, ?_, .inl rfl⟩
        intro i hi
        cases hi
    | some items =>
        rw [start_cached_eq hs hlookup]
        cases p.desk.tracker.load p.desk.config p.desk.store with
        | error failure => exact .inl ⟨rfl, rfl⟩
        | ok loaded =>
            obtain ⟨t, notices⟩ := loaded
            simp only
            cases hscored : Ranking.rescore t p.desk.config p.desk.now items with
            | error failure => exact .inl ⟨rfl, rfl⟩
            | ok base =>
                exact .inr ⟨rfl, .revalidating, base, rfl, scored_of_rescore hscored, .inr rfl⟩
  · rw [start_again hs]
    exact .inl ⟨rfl, rfl⟩

/-- An event opens a session on a cached list while a filter is set. -/
def OpensFiltered (id : String) (p : SessionPool) (event : SessionEvent) : Prop :=
  startsRescan id p event = true ∧ ∃ m, OrderedMap.get? id p.members = some m ∧
    m.session.filter.isGiven = true ∧
      (OrderedMap.get? m.session.key p.desk.cache.current).isSome = true

/-- An event makes the view of a session anew: it filters the session, or brings it a list. -/
def Reshapes (id : String) (p : SessionPool) (event : SessionEvent) : Prop :=
  (∃ value, event = .filter id value) ∨
    event = .land id ∧ ∃ m fresh, OrderedMap.get? id p.members = some m ∧
      broughtBy p.desk m = some fresh

/-- The filter of a session has been passed over: it was set when the session was opened on a
cached list, and nothing has made the view anew since. -/
inductive Bypassed (p : SessionPool) (id : String) : List SessionEvent → Prop
  | opened {events : List SessionEvent} {last : SessionEvent}
      (h : OpensFiltered id (run p events) last) : Bypassed p id (events ++ [last])
  | kept {events : List SessionEvent} {last : SessionEvent} (h : Bypassed p id events)
      (hlast : ¬Reshapes id (run p events) last) : Bypassed p id (events ++ [last])

theorem bypassed_snoc :
    Bypassed p id (events ++ [last]) ↔
      OpensFiltered id (run p events) last ∨
        Bypassed p id events ∧ ¬Reshapes id (run p events) last := by
  constructor
  · intro h
    generalize hall : events ++ [last] = all at h
    cases h with
    | opened h =>
        obtain ⟨rfl, hlast⟩ := List.append_inj' hall rfl
        obtain rfl := (List.cons.inj hlast).1
        exact .inl h
    | kept h hkept =>
        obtain ⟨rfl, hlast⟩ := List.append_inj' hall rfl
        obtain rfl := (List.cons.inj hlast).1
        exact .inr ⟨h, hkept⟩
  · rintro (h | ⟨h, hkept⟩)
    · exact .opened h
    · exact .kept h hkept

theorem not_bypassed_nil : ¬Bypassed p id [] := by
  intro h
  generalize hall : ([] : List SessionEvent) = all at h
  cases h <;> simp at hall

/-- An event that neither opens nor reshapes a session does not tell whether its filter has been
passed over. -/
theorem bypassed_snoc_of_plain (hopens : startsRescan id (run p events) last = false)
    (hreshapes : ¬Reshapes id (run p events) last) :
    Bypassed p id (events ++ [last]) ↔ Bypassed p id events := by
  rw [bypassed_snoc]
  constructor
  · rintro (⟨hstarts, -⟩ | ⟨h, -⟩)
    · rw [hopens] at hstarts
      cases hstarts
    · exact h
  · intro h
    exact .inr ⟨h, hreshapes⟩

/-- What a session shows, given whether its filter has been passed over. -/
structure View (config : Config) (s : Session) (bypassed : Prop) : Prop where
  faithful : s.phase ≠ .closed → ¬bypassed → Faithful config s
  whole : s.phase ≠ .closed → bypassed → s.items = s.base
  scored : Scored s.base
  text : ∃ text, s.filter = .string text

theorem view_new (config : Config) (kind : Json) (root : String) :
    View config (Session.new kind root) False where
  faithful _ _ := faithful_of_not_given rfl rfl
  whole _ h := h.elim
  scored i hi := by cases hi
  text := ⟨"", rfl⟩

theorem View.congr {s' : Session} {bypassed : Prop} (h : View config s bypassed)
    (hbase : s'.base = s.base) (hitems : s'.items = s.items) (hfilter : s'.filter = s.filter)
    (hphase : s'.phase ≠ .closed → s.phase ≠ .closed) : View config s' bypassed := by
  have hshown : shown config s' = shown config s := by
    unfold shown
    rw [hfilter]
  refine ⟨?_, ?_, by rw [hbase]; exact h.scored, by rw [hfilter]; exact h.text⟩
  · intro hs hbypassed
    rw [Faithful, hshown, hbase, hitems]
    exact h.faithful (hphase hs) hbypassed
  · intro hs hbypassed
    rw [hbase, hitems]
    exact h.whole (hphase hs) hbypassed

theorem View.of_closed {s' : Session} {bypassed bypassed' : Prop} (h : View config s bypassed)
    (hs : s'.phase = .closed) (hbase : s'.base = s.base) (hfilter : s'.filter = s.filter) :
    View config s' bypassed' where
  faithful hopen := absurd hs hopen
  whole hopen := absurd hs hopen
  scored := by rw [hbase]; exact h.scored
  text := by rw [hfilter]; exact h.text

theorem View.start (h : View config m.session (Bypassed p id events))
    (hm : OrderedMap.get? id (run p events).members = some m) :
    View config (sessionAfter (run p events).desk m (.openSession id))
      (Bypassed p id (events ++ [.openSession id])) := by
  have hreshapes : ¬Reshapes id (run p events) (.openSession id) := by
    rintro (⟨value, hvalue⟩ | ⟨hland, -⟩)
    · cases hvalue
    · cases hland
  rcases open_cases hm with ⟨hstarts, hsame⟩ | ⟨hstarts, phase, base, hs, hscored, hbase⟩
  · rw [hsame, propext (bypassed_snoc_of_plain hstarts hreshapes)]
    exact h
  · rw [hs]
    refine ⟨?_, fun _ _ => rfl, hscored, h.text⟩
    intro _ hbypassed
    cases hgiven : m.session.filter.isGiven with
    | false => exact faithful_of_not_given hgiven rfl
    | true =>
        -- A filter that is set is not passed over only where there is no list to serve.
        have hnil : base = [] := by
          refine hbase.resolve_right fun hcached => hbypassed (bypassed_snoc.mpr (.inl ?_))
          exact ⟨hstarts, m, hm, hgiven, hcached⟩
        exact faithful_of_base_nil hnil hnil

theorem not_bypassed_filter (p : SessionPool) (id : String) (events : List SessionEvent)
    (value : Json) : ¬Bypassed p id (events ++ [.filter id value]) := by
  rw [bypassed_snoc]
  rintro (⟨hstarts, -⟩ | ⟨-, hkept⟩)
  · cases hstarts
  · exact hkept (.inl ⟨value, rfl⟩)

theorem filter_cases (hs : m.session.phase ≠ .closed) (d : Desk) (id text : String) :
    ∃ items, sessionAfter d m (.filter id (.string text)) =
      { m.session with filter := .string text, items := items } := by
  have hphase : (m.session.phase == .closed) = false := by simpa using hs
  have hvalue : (if (Json.string text).isGiven = true then .string text else .string "") =
      Json.string text := by
    simp only [Json.isGiven, bne_iff_ne]
    split
    · rfl
    · rename_i hempty
      rw [Decidable.not_not.mp hempty]
  simp only [sessionAfter, Session.setFilter, hphase, Bool.false_eq_true, if_false, hvalue,
    applyFilter_run]
  cases shown d.config { m.session with filter := .string text } m.session.base with
  | error failure => exact ⟨m.session.items, rfl⟩
  | ok items => exact ⟨items, rfl⟩

theorem View.filter (h : View config m.session (Bypassed p id events))
    (hconfig : (run p events).desk.config = config) (text : String) :
    View config (sessionAfter (run p events).desk m (.filter id (.string text)))
      (Bypassed p id (events ++ [.filter id (.string text)])) := by
  have hbypassed := not_bypassed_filter p id events (.string text)
  by_cases hs : m.session.phase = .closed
  · obtain ⟨rescan, hsame⟩ := sessionAfter_closed hs (run p events).desk (.filter id (.string text))
    rw [hsame]
    exact h.of_closed hs rfl rfl
  · obtain ⟨items, hitems⟩ := filter_cases hs (run p events).desk id text
    have hfaithful := faithful_filter hs (run p events).desk id (.string text)
    rw [hconfig] at hfaithful
    refine ⟨fun _ _ => hfaithful, fun _ hpassed => absurd hpassed hbypassed, ?_, ?_⟩
    · rw [hitems]
      exact h.scored
    · rw [hitems]
      exact ⟨text, rfl⟩

theorem View.land (h : View config m.session (Bypassed p id events))
    (hconfig : (run p events).desk.config = config)
    (hm : OrderedMap.get? id (run p events).members = some m) :
    View config (sessionAfter (run p events).desk m (.land id))
      (Bypassed p id (events ++ [.land id])) := by
  obtain ⟨s', d', hland, hcases⟩ := member_land_cases (run p events).desk m
  rw [sessionAfter, hland]
  rcases hcases with ⟨fresh, hfresh, rfl, -⟩ | ⟨hnone, -, hsame⟩
  · by_cases hs : m.session.phase = .closed
    · rw [landed, if_pos hs]
      exact h.of_closed hs rfl rfl
    · have hreshapes : Reshapes id (run p events) (.land id) := .inr ⟨rfl, m, fresh, hm, hfresh⟩
      have hbypassed : ¬Bypassed p id (events ++ [.land id]) := by
        rw [bypassed_snoc]
        rintro (⟨hstarts, -⟩ | ⟨-, hkept⟩)
        · cases hstarts
        · exact hkept hreshapes
      have hscored := scored_scannedList (broughtBy_eq_some_iff.mp hfresh).2.2
      rw [hconfig]
      refine ⟨fun _ _ => faithful_landed hs config fresh,
        fun _ hpassed => absurd hpassed hbypassed, ?_, ?_⟩
      · rw [landed, if_neg hs]
        split <;> exact hscored
      · rw [landed, if_neg hs]
        split <;> exact h.text
  · have hreshapes : ¬Reshapes id (run p events) (.land id) := by
      rintro (⟨value, hvalue⟩ | ⟨-, m', fresh, hm', hfresh⟩)
      · cases hvalue
      · obtain rfl : m = m' := Option.some.inj (hm.symm.trans hm')
        rw [hnone] at hfresh
        cases hfresh
    rw [propext (bypassed_snoc_of_plain rfl hreshapes)]
    rcases hsame with rfl | rfl | ⟨reason, rfl⟩
    · exact h
    · refine h.congr rfl rfl rfl ?_
      intro hs hclosed
      apply hs
      rw [Session.settled, Session.isOpen, hclosed]
      rfl
    · exact h.congr rfl rfl rfl fun hs => hs

/-- One more event, and what the session shows is still told by its list and its filter. -/
theorem view_snoc (hm : OrderedMap.get? id (run p events).members = some m)
    (h : View p.desk.config m.session (Bypassed p id events)) (hkept : ¬Creates id last)
    (htext : ∀ value, last = .filter id value → ∃ text, value = .string text) :
    ∃ s, OrderedMap.get? id (run p (events ++ [last])).members = some { m with session := s } ∧
      View p.desk.config s (Bypassed p id (events ++ [last])) := by
  have hrun : run p (events ++ [last]) = ((run p events).step last).2 := run_append ..
  have hconfig := config_run p events
  refine ⟨_, hrun ▸ get?_step hm hkept, ?_⟩
  have hplain (hopens : startsRescan id (run p events) last = false)
      (hreshapes : ¬Reshapes id (run p events) last) :
      View p.desk.config m.session (Bypassed p id (events ++ [last])) := by
    rw [propext (bypassed_snoc_of_plain hopens hreshapes)]
    exact h
  by_cases htarget : target? last = some id
  · rw [if_pos htarget]
    cases last with
    | create id' kind root announces breakdown =>
        obtain rfl := Option.some.inj htarget
        exact absurd ⟨kind, root, announces, breakdown, rfl⟩ hkept
    | openSession id' =>
        obtain rfl := Option.some.inj htarget
        exact h.start hm
    | filter id' value =>
        obtain rfl := Option.some.inj htarget
        obtain ⟨text, rfl⟩ := htext value rfl
        exact h.filter hconfig text
    | close id' =>
        obtain rfl := Option.some.inj htarget
        exact h.of_closed rfl rfl rfl
    | land id' =>
        obtain rfl := Option.some.inj htarget
        exact h.land hconfig hm
    | accept id' index => exact hplain rfl (by simp [Reshapes])
    | invalidate key => cases htarget
    | record file symbol => cases htarget
    | setClock now => cases htarget
  · have hopens : startsRescan id (run p events) last = false := by
      cases last with
      | openSession id' =>
          have hne : id' ≠ id := fun he => htarget (congrArg some he)
          simp [startsRescan, hne]
      | _ => rfl
    have hreshapes : ¬Reshapes id (run p events) last := by
      rintro (⟨value, rfl⟩ | ⟨rfl, -⟩) <;> exact htarget rfl
    rw [if_neg htarget]
    exact hplain hopens hreshapes

theorem exists_view_run {kind : Json} {root : String} {announces : Bool} {breakdown : Option String}
    (hm : OrderedMap.get? id p.members = some ⟨Session.new kind root, announces, breakdown⟩)
    (hkept : ∀ event ∈ events, ¬Creates id event)
    (htext : ∀ value, .filter id value ∈ events → ∃ text, value = .string text) :
    ∃ s, OrderedMap.get? id (run p events).members = some ⟨s, announces, breakdown⟩ ∧
      View p.desk.config s (Bypassed p id events) := by
  induction events using List.reverseRecOn with
  | nil =>
      refine ⟨_, hm, ?_⟩
      rw [propext (iff_false_intro not_bypassed_nil)]
      exact view_new _ kind root
  | append_singleton events last ih =>
      obtain ⟨s, hs, hview⟩ := ih (fun event hevent => hkept event (List.mem_append_left _ hevent))
        fun value hvalue => htext value (List.mem_append_left _ hvalue)
      exact view_snoc hs hview (hkept last (by simp)) fun value hvalue =>
        htext value (by simp [hvalue])

/-- A session shows its whole list without a filter, and otherwise what the filter finds in the
list, best first. Where the settings allow for ranking, the filter always finds something or
nothing. -/
def ShowsFiltered (config : Config) (s : Session) : Prop :=
  (s.filter = .string "" → s.items = s.base) ∧
    (s.filter ≠ .string "" →
      (∀ found, Ranking.rank config s.base s.filter = .ok found → s.items = found) ∧
        (Blendable config → Ranking.rank config s.base s.filter = .ok s.items))

theorem showsFiltered_of_faithful (h : Faithful config s) (hscored : Scored s.base)
    (htext : ∃ text, s.filter = .string text) : ShowsFiltered config s := by
  obtain ⟨text, htext⟩ := htext
  refine ⟨?_, ?_⟩
  · intro hempty
    apply h
    rw [shown, hempty]
    rfl
  · intro hne
    have hgiven : s.filter.isGiven = true := by
      rw [htext] at hne ⊢
      simpa [Json.isGiven] using hne
    have hrank : ∀ found, Ranking.rank config s.base s.filter = .ok found → s.items = found := by
      intro found hfound
      apply h
      rw [shown, if_pos hgiven]
      exact hfound
    refine ⟨hrank, ?_⟩
    intro hblend
    obtain ⟨found, hfound⟩ := rank_ok hblend hscored text
    rw [← htext] at hfound
    rw [hfound, hrank found hfound]

/-- What a session shows is told by its list and its filter, in whatever order it is filtered and
opened and its rescan lands. There is one exception: a filter set before the session is opened on a
cached list is passed over, and the whole list is shown until the next filter or fresh list. A
filter always shows what it finds in the list of the moment, whatever was filtered by before. -/
theorem view_told_by_filter (p : SessionPool) (id : String) (kind : Json) (root : String)
    (announces : Bool) (breakdown : Option String) {p' : SessionPool}
    (hp : p' = created p id kind root announces breakdown) {events : List SessionEvent}
    (hkept : ∀ event ∈ events, ¬Creates id event)
    (htext : ∀ value, .filter id value ∈ events → ∃ text, value = .string text) :
    ∃ m, OrderedMap.get? id (run p' events).members = some m ∧
      (m.session.phase ≠ .closed →
        (¬Bypassed p' id events → ShowsFiltered p.desk.config m.session) ∧
        (Bypassed p' id events → m.session.items = m.session.base) ∧
        ∀ text, ∃ m', OrderedMap.get? id (run p' (events ++ [.filter id (.string text)])).members =
            some m' ∧ m'.session.phase = m.session.phase ∧ m'.session.filter = .string text ∧
          m'.session.base = m.session.base ∧ ShowsFiltered p.desk.config m'.session) := by
  have hm : OrderedMap.get? id p'.members = some ⟨Session.new kind root, announces, breakdown⟩ := by
    rw [hp, created, SessionPool.step, OrderedMap.get?_insert, if_pos rfl]
  have hconfig : p'.desk.config = p.desk.config := by rw [hp]; rfl
  obtain ⟨s, hs, hview⟩ := exists_view_run hm hkept htext
  rw [hconfig] at hview
  refine ⟨_, hs, fun hopen => ⟨?_, hview.whole hopen, ?_⟩⟩
  · intro hbypassed
    exact showsFiltered_of_faithful (hview.faithful hopen hbypassed) hview.scored hview.text
  · intro text
    have hcreates : ¬Creates id (.filter id (.string text)) := by simp [Creates]
    obtain ⟨items, hitems⟩ := filter_cases (m := ⟨s, announces, breakdown⟩) hopen
      (run p' events).desk id text
    have hafter := hview.filter (m := ⟨s, announces, breakdown⟩)
      ((config_run p' events).trans hconfig) text
    have hstep := get?_step_of_target hs rfl hcreates
    rw [hitems] at hafter hstep
    rw [run_append]
    refine ⟨_, hstep, rfl, rfl, rfl, ?_⟩
    exact showsFiltered_of_faithful (hafter.faithful hopen (not_bypassed_filter p' id events _))
      hafter.scored hafter.text

section Sample

/-- Two sessions that have just been made, and a tool that finds one class. -/
def samplePool : SessionPool :=
  created (created ⟨(sampleClient "a.js:1:1:class A\n").desk, []⟩ "a" (.string "all") "/" true none)
    "b" (.string "all") "/" true none

/-- The first session fills the cache; the second is filtered before it is opened. -/
def sampleFiltering : List SessionEvent :=
  [.openSession "a", .land "a", .filter "b" (.string "z"), .openSession "b"]

theorem bypassed_sample : Bypassed samplePool "b" sampleFiltering := by
  suffices h : OpensFiltered "b" (run samplePool (sampleFiltering.take 3)) (.openSession "b") from
    .opened h
  refine ⟨by decide +kernel, ?_⟩
  have hcached : (OrderedMap.get? "b" (run samplePool (sampleFiltering.take 3)).members).any
      (fun m => m.session.filter.isGiven && (OrderedMap.get? m.session.key
        (run samplePool (sampleFiltering.take 3)).desk.cache.current).isSome) = true := by
    decide +kernel
  obtain ⟨m, hm, hgiven⟩ := (Option.any_eq_true _ _).mp hcached
  exact ⟨m, hm, Bool.and_eq_true_iff.mp hgiven⟩

/-- The second session shows the whole list at first, and after one more filter what that finds. -/
theorem view_told_by_filter_sample :
    ∃ m m', OrderedMap.get? "b" (run samplePool sampleFiltering).members = some m ∧
      m.session.items = m.session.base ∧
      OrderedMap.get? "b"
        (run samplePool (sampleFiltering ++ [.filter "b" (.string "a")])).members = some m' ∧
      Ranking.rank samplePool.desk.config m.session.base (.string "a") = .ok m'.session.items := by
  have hphase : (OrderedMap.get? "b" (run samplePool sampleFiltering).members).all
      (fun m => decide (m.session.phase ≠ .closed)) = true := by
    decide +kernel
  have hkept : ∀ event ∈ sampleFiltering, ¬Creates "b" event := by
    simp [sampleFiltering, Creates]
  obtain ⟨m, hm, hview⟩ := view_told_by_filter _ "b" (.string "all") "/" true none
    (rfl : samplePool = _) hkept (by simp [sampleFiltering])
  rw [hm] at hphase
  obtain ⟨-, hwhole, hnext⟩ := hview (by simpa using hphase)
  obtain ⟨m', hm', -, hfilter, hbase, -, hshows⟩ := hnext "a"
  obtain ⟨-, hrank⟩ := hshows (by simp [hfilter])
  refine ⟨m, m', hm, hwhole bypassed_sample, hm', ?_⟩
  rw [← hbase, ← hfilter]
  exact hrank (blendable_sample _)

/-- A filter that finds nothing is set, and yet the one class is on show. -/
theorem open_bypasses_filter :
    ∃ m, OrderedMap.get? "b" (run samplePool sampleFiltering).members = some m ∧
      m.session.phase ≠ .closed ∧ m.session.filter.isGiven = true ∧
      Ranking.rank samplePool.desk.config m.session.base m.session.filter = .ok [] ∧
      m.session.items ≠ [] := by
  have hview : (OrderedMap.get? "b" (run samplePool sampleFiltering).members).any
      (fun m => decide (m.session.phase ≠ .closed) && m.session.filter.isGiven &&
        ((Ranking.rank samplePool.desk.config m.session.base m.session.filter).toOption.any
          List.isEmpty) && !m.session.items.isEmpty) = true := by
    decide +kernel
  obtain ⟨m, hm, hshown⟩ := (Option.any_eq_true _ _).mp hview
  simp only [Bool.and_eq_true, decide_eq_true_eq, Bool.not_eq_true', List.isEmpty_eq_false_iff]
    at hshown
  obtain ⟨⟨⟨hphase, hgiven⟩, hrank⟩, hitems⟩ := hshown
  refine ⟨m, hm, hphase, hgiven, ?_, hitems⟩
  cases hresult : Ranking.rank samplePool.desk.config m.session.base m.session.filter with
  | error failure =>
      rw [hresult] at hrank
      cases hrank
  | ok found =>
      rw [hresult] at hrank
      rw [List.isEmpty_iff.mp hrank]

end Sample

end SymbolSearch.Proofs.SessionView
