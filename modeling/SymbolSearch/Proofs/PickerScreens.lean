import SymbolSearch.CommandLine.Picker
import SymbolSearch.Proofs.NumberedListings

namespace SymbolSearch.Proofs.PickerScreens

open CommandLine
open DeskActions
open DeskInvariants
open ListSources
open NumberedListings
open PublishedOrder
open Rescans
open SessionSteps
open StaleSearch
open TrackerSteps
open Traversal

section Screens

/-- The last listing on a screen is that of the given items. Before the first one nothing is listed;
after it there are only questions, typed lines and messages about numbers without an item. -/
inductive Screen : String → List Item → Prop
  | blank : Screen (Text.withoutControlSequences "  Scanning…" ++ "\n") []
  | listing (before : String) {text : String} {items : List Item} (h : Lists text items) :
      Screen (before ++ Text.withoutControlSequences text ++ "\n") items
  | asked {screen : String} {items : List Item} (h : Screen screen items) :
      Screen (screen ++ Picker.prompt) items
  | typed {screen : String} {items : List Item} (h : Screen screen items) (line : String) :
      Screen (screen ++ line ++ "\n") items
  | missing {screen : String} {items : List Item} (h : Screen screen items) (digits : String) :
      Screen (screen ++ Text.withoutControlSequences ("  No item " ++ digits ++ ".") ++ "\n") items

/-- The listing that a picker has shown last is that of the items which it lets open, and stands
last on the screen. -/
structure Shows (config : Config) (p : Picker) : Prop where
  visible : p.session.visible config = .ok p.shown
  screen : Screen p.printed p.shown

variable {config : Config} {d : Desk} {columns : Int} {p p' : Picker} {items : List Item}

theorem Shows.ask (h : Shows config p) : Shows config p.ask :=
  ⟨h.visible, h.screen.asked⟩

theorem Shows.hear (h : Shows config p) (line : String) : Shows config (p.hear line) :=
  ⟨h.visible, h.screen.typed line⟩

theorem listing_eq_ok {visible : List Item} {text : String}
    (h : p.listing d columns = .ok (visible, text)) :
    p.session.visible d.config = .ok visible ∧ Lists text visible := by
  obtain ⟨items, hvisible, h⟩ := bind_eq_ok_iff.mp h
  obtain ⟨listed, hlisted, h⟩ := bind_eq_ok_iff.mp h
  cases h
  exact ⟨hvisible, lists_console rfl hlisted⟩

theorem shows_of_render (h : p.render d columns = (p', .goOn)) :
    Shows d.config p' ∧ p'.session = p.session ∧ p'.opened = p.opened := by
  rw [Picker.render] at h
  split at h
  · rename_i visible text hlisting
    cases h
    obtain ⟨hvisible, hlists⟩ := listing_eq_ok hlisting
    exact ⟨⟨hvisible, .listing _ hlists⟩, rfl, rfl⟩
  · cases h

theorem opened_render (d : Desk) (columns : Int) (p : Picker) :
    (p.render d columns).1.opened = p.opened := by
  rw [Picker.render]
  split <;> rfl

end Screens

section Desks

/-- Nothing has been recorded at a desk. Its accesses may have been loaded. -/
structure Untouched (d₀ d : Desk) : Prop where
  config : d.config = d₀.config
  store : d.store = d₀.store
  tracker : d.tracker = d₀.tracker ∨ Readable d₀ ∧ d.tracker = trackerOf d₀

/-- Exactly one access has been recorded at a desk, to an item. -/
def RecordedOnce (d₀ : Desk) (item : Item) (d : Desk) : Prop :=
  let after := (trackerOf d₀).record d₀.config d₀.store d.now item.path (some item.symbol)
  (∃ e, after.entry = .ok e) ∧ d.tracker = after.tracker ∧ d.store = after.store

variable {d₀ d : Desk} {item : Item}

theorem Untouched.load (h : Untouched d₀ d) {t : Tracker} {notices : List Notice}
    (hload : d.tracker.load d.config d.store = .ok (t, notices)) :
    Readable d₀ ∧ t = trackerOf d₀ := by
  rw [h.config, h.store] at hload
  rcases h.tracker with hsame | ⟨hreadable, hloaded⟩
  · rw [hsame] at hload
    exact ⟨⟨_, hload⟩, by rw [trackerOf, hload]⟩
  · rw [hloaded, load_trackerOf hreadable] at hload
    cases hload
    exact ⟨hreadable, rfl⟩

theorem Untouched.readable (h : Untouched d₀ d) (hd : Readable d) : Readable d₀ := by
  obtain ⟨⟨t, notices⟩, hload⟩ := hd
  exact (h.load hload).1

end Desks

section Sessions

variable {s : Session} {d : Desk}

theorem narrow_cases (hs : s.phase ≠ .closed) (value : Json) (d : Desk) :
    (∃ reason, (s.narrow value).run.run d = (.error reason, d)) ∨
      ∃ filter items, (s.narrow value).run.run d =
          (.ok { s with filter := filter, items := items }, d) ∧ DrawnFrom items s.base := by
  have hphase : (s.phase == .closed) = false := by simpa using hs
  have hset : ∃ s', s.setFilter value = .ok s' := by
    rw [Session.setFilter, hphase]
    exact ⟨_, rfl⟩
  obtain ⟨s', hs'⟩ := hset
  obtain ⟨filter, rfl⟩ := eq_of_setFilter hs'
  have hgive := give_run (s.setFilter value) d
  rw [hs'] at hgive
  rw [Session.narrow, hs', run_bind_ok hgive, applyFilter_run]
  cases hshown : shown d.config { s with filter := filter } s.base with
  | error reason => exact .inl ⟨reason, rfl⟩
  | ok items => exact .inr ⟨filter, items, rfl, drawnFrom_of_shown hshown⟩

end Sessions

section Pickers

/-- A picker whose session is open, and which has opened nothing. The lists of the session have been
scored by the accesses of the start. -/
structure Open (d₀ : Desk) (root : String) (p : Picker) (d : Desk) : Prop where
  untouched : Untouched d₀ d
  tool : PrintsNoNull d.tool
  root : p.session.root = root
  phase : p.session.phase ≠ .closed
  opened : p.opened = []
  scored : p.session.base ≠ [] ∨ p.session.items ≠ [] → Readable d₀

variable {d₀ d d' : Desk} {root : String} {columns : Int} {p p' : Picker} {v : Verdict}

theorem Open.congr (h : Open d₀ root p d) (hsession : p'.session = p.session)
    (hopened : p'.opened = p.opened) : Open d₀ root p' d where
  untouched := h.untouched
  tool := h.tool
  root := hsession ▸ h.root
  phase := hsession ▸ h.phase
  opened := hopened.trans h.opened
  scored := hsession ▸ h.scored

theorem Open.ask (h : Open d₀ root p d) : Open d₀ root p.ask d :=
  h.congr rfl rfl

theorem Open.hear (h : Open d₀ root p d) (line : String) : Open d₀ root (p.hear line) d :=
  h.congr rfl rfl

theorem Open.echo (h : Open d₀ root p d) (text : String) : Open d₀ root (p.echo text) d :=
  h.congr rfl rfl

theorem render_shows (h : Open d₀ root p d) (hrender : p.render d columns = (p', .goOn)) :
    Open d₀ root p' d ∧ Shows d.config p' := by
  obtain ⟨hshows, hsession, hopened⟩ := shows_of_render hrender
  exact ⟨h.congr hsession hopened, hshows⟩

/-- How a picker ends: it has opened one item and recorded that access, or it has opened nothing and
recorded nothing. -/
def Ended (d₀ : Desk) (p : Picker) (d : Desk) : Prop :=
  p.opened = [] ∧ Untouched d₀ d ∨ ∃ item, p.opened = [item] ∧ RecordedOnce d₀ item d

theorem Open.ended (h : Open d₀ root p d) : Ended d₀ p d :=
  .inl ⟨h.opened, h.untouched⟩

theorem eq_nil_of_drawnFrom_nil {items : List Item} (h : DrawnFrom items []) : items = [] := by
  apply List.eq_nil_iff_forall_not_mem.mpr
  intro i hi
  obtain ⟨j, hj, -⟩ := h i hi
  cases hj

theorem filter_cases (h : Open d₀ root p d) (columns : Int) (value : Json) :
    ∃ p' v, (p.filter columns value).run d = ((p', v), d) ∧ p'.opened = [] ∧
      (v = .goOn → Open d₀ root p' d ∧ Shows d.config p') := by
  rcases narrow_cases h.phase value d with ⟨reason, hrun⟩ | ⟨filter, items, hrun, hdrawn⟩
  · refine ⟨p, .broken reason, ?_, h.opened, by simp⟩
    rw [Picker.filter, stateRun_bind hrun]
    rfl
  · let q : Picker := { p with session := { p.session with filter := filter, items := items } }
    have hscored : p.session.base ≠ [] ∨ items ≠ [] → Readable d₀ := by
      rintro (hbase | hitems)
      · exact h.scored (.inl hbase)
      · refine h.scored (.inl fun hnil => hitems (eq_nil_of_drawnFrom_nil ?_))
        rwa [hnil] at hdrawn
    have hq : Open d₀ root q d := ⟨h.untouched, h.tool, h.root, h.phase, h.opened, hscored⟩
    refine ⟨(q.render d columns).1, (q.render d columns).2, ?_, ?_, ?_⟩
    · rw [Picker.filter, stateRun_bind hrun]
      rfl
    · exact (opened_render d columns q).trans h.opened
    · exact fun hgoOn => render_shows hq (Prod.ext rfl hgoOn)

theorem land_run {s' : Session} (hland : p.session.land.run d = (s', d')) (columns : Int) :
    (p.land columns).run d =
      match s'.failure? with
      | some reason => (({ p with session := s' }, .broken reason), d')
      | none =>
          if p.session.updates < s'.updates then
            (({ p with session := s' }.echo "\n  Scan finished, list refreshed.").render d' columns,
              d')
          else (({ p with session := s' }, .goOn), d') := by
  rw [Picker.land, stateRun_bind hland]
  cases s'.failure? with
  | some reason => rfl
  | none =>
      simp only
      split <;> rfl

end Pickers

end SymbolSearch.Proofs.PickerScreens
