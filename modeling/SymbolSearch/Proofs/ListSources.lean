import SymbolSearch.Proofs.PublishedOrder

namespace SymbolSearch.Proofs.ListSources

open CacheHistory
open ClientSearch
open DeskActions
open DeskInvariants
open ItemOrder
open PoolSteps
open PublishedOrder
open Rescans
open Rescoring
open SessionSteps
open StaleSearch
open Traversal

section Lists

variable {items found whole : List Item} {config : Config}

/-- A list has its items from another one, whatever has become of their scores. -/
def DrawnFrom (items whole : List Item) : Prop :=
  ∀ i ∈ items, ∃ j ∈ whole, i = j.withScore i.score

theorem drawnFrom_of_subset (h : items ⊆ whole) : DrawnFrom items whole :=
  fun i hi => ⟨i, h hi, rfl⟩

theorem drawnFrom_refl (items : List Item) : DrawnFrom items items :=
  drawnFrom_of_subset (List.Subset.refl items)

theorem DrawnFrom.trans (h : DrawnFrom found items) (hitems : DrawnFrom items whole) :
    DrawnFrom found whole := by
  intro i hi
  obtain ⟨j, hj, hij⟩ := h i hi
  obtain ⟨k, hk, hjk⟩ := hitems j hj
  refine ⟨k, hk, ?_⟩
  rw [hij, hjk]
  rfl

theorem drawnFrom_refreshed (t : Tracker) (config : Config) (now : Int) (items : List Item) :
    DrawnFrom (refreshed t config now items) items := by
  intro i hi
  obtain ⟨j, hj, rfl⟩ := List.mem_map.mp ((refreshed_perm t config now items).mem_iff.mp hi)
  exact ⟨j, hj, rfl⟩

theorem drawnFrom_of_rescore {t : Tracker} {now : Int}
    (h : Ranking.rescore t config now items = .ok found) : DrawnFrom found items := by
  rw [eq_refreshed_of_rescore h]
  exact drawnFrom_refreshed t config now items

theorem item_mem_of_findAll {query : Json} {hits : List (Similarity.Hit Item)}
    {hit : Similarity.Hit Item} (hhit : hit ∈ hits)
    (h : Query.findAll (fun item : Item => item.symbol) items query = .ok hits) :
    hit.item ∈ items := by
  rw [Query.findAll] at h
  split at h
  · cases h
    cases hhit
  · obtain ⟨needle, -, hfound⟩ := bind_eq_ok_iff.mp h
    cases hfound
    cases needle with
    | none => cases hhit
    | some n =>
        have hperm := map_item_findAll_perm n (fun item : Item => item.symbol) items
        have hmem := hperm.mem_iff.mp (List.mem_map_of_mem hhit)
        exact List.mem_of_mem_filter hmem

theorem drawnFrom_of_rank {query : Json} (h : Ranking.rank config items query = .ok found) :
    DrawnFrom found items := by
  rw [Ranking.rank] at h
  split at h
  · cases h
    exact drawnFrom_of_subset (sort_perm items).subset
  · obtain ⟨hits, hfind, h⟩ := bind_eq_ok_iff.mp h
    obtain ⟨ranked, hscored, h⟩ := bind_eq_ok_iff.mp h
    cases h
    intro i hi
    obtain ⟨hit, hhit, hi⟩ := exists_of_mem_mapM hscored ((sort_perm ranked).mem_iff.mp hi)
    obtain ⟨score, -, hscore⟩ := bind_eq_ok_iff.mp hi
    cases hscore
    exact ⟨hit.item, item_mem_of_findAll hhit hfind, rfl⟩

theorem drawnFrom_of_limited {value : Json} (h : Argument.limited value whole = .ok found) :
    DrawnFrom found whole :=
  drawnFrom_of_subset (sublist_of_limited h).subset

theorem drawnFrom_of_answer {q : SearchTerms} (h : answer config whole q = .ok found) :
    DrawnFrom found whole := by
  obtain ⟨ranked, hrank, hlimited⟩ := bind_eq_ok_iff.mp h
  exact (drawnFrom_of_limited hlimited).trans (drawnFrom_of_rank hrank)

theorem drawnFrom_of_shown {s : Session} (h : shown config s whole = .ok found) :
    DrawnFrom found whole := by
  rw [shown] at h
  split at h
  · exact drawnFrom_of_rank h
  · cases h
    exact drawnFrom_refl found

end Lists

section Sessions

variable {w : Workplace} {a : Activity} {s s₀ s' : Session} {m : Member} {items whole : List Item}

/-- The lists that a session can take items from while something happens: its own ones, the cached
one of its key, and one that is brought for its key. -/
inductive Offers (w : Workplace) (a : Activity) (s : Session) : List Item → Prop
  | base : Offers w a s s.base
  | items : Offers w a s s.items
  | cached {whole : List Item} (h : w.entry s.key = some whole) : Offers w a s whole
  | brought {whole : List Item} (h : Publishes w a s.key whole) : Offers w a s whole

/-- The items of a list are taken from what is offered to a session. -/
def Takes (w : Workplace) (a : Activity) (s : Session) (items : List Item) : Prop :=
  ∃ whole, Offers w a s whole ∧ DrawnFrom items whole

theorem Takes.of_drawnFrom (h : Takes w a s whole) (hitems : DrawnFrom items whole) :
    Takes w a s items := by
  obtain ⟨list, hlist, hwhole⟩ := h
  exact ⟨list, hlist, hitems.trans hwhole⟩

theorem takes_of_offers (h : Offers w a s items) : Takes w a s items :=
  ⟨items, h, drawnFrom_refl items⟩

theorem takes_nil (w : Workplace) (a : Activity) (s : Session) : Takes w a s [] :=
  (takes_of_offers .base).of_drawnFrom (drawnFrom_of_subset (List.nil_subset _))

/-- A session is what has become of another one: it has the same kind and root, and takes its items
from what was offered to that one. -/
structure Follows (w : Workplace) (a : Activity) (s s' : Session) : Prop where
  kind : s'.kind = s.kind
  root : s'.root = s.root
  base : Takes w a s s'.base
  items : Takes w a s s'.items

theorem follows_self (w : Workplace) (a : Activity) (s : Session) : Follows w a s s :=
  ⟨rfl, rfl, takes_of_offers .base, takes_of_offers .items⟩

theorem follows_start (h : (s.start.run.run w.client.desk).1 = .ok s') : Follows w a s s' := by
  by_cases hs : s.phase = .empty
  · cases hlookup : OrderedMap.get? s.key w.client.desk.cache.current with
    | none =>
        rw [start_uncached hs hlookup] at h
        cases h
        exact ⟨rfl, rfl, takes_nil w a s, takes_nil w a s⟩
    | some items =>
        rw [start_cached_eq hs hlookup] at h
        split at h
        · cases h
        · obtain ⟨base, hbase, rfl⟩ := map_eq_ok_iff.mp h
          have htakes : Takes w a s base :=
            (takes_of_offers (.cached hlookup)).of_drawnFrom (drawnFrom_of_rescore hbase)
          exact ⟨rfl, rfl, htakes, htakes⟩
  · rw [start_again hs] at h
    cases h

theorem Follows.applyFilter {d : Desk} {shownSession : Session} (h : Follows w a s₀ s)
    (hshown : (s.applyFilter.run.run d).1 = .ok shownSession) : Follows w a s₀ shownSession := by
  rw [applyFilter_run] at hshown
  obtain ⟨items, hitems, rfl⟩ := map_eq_ok_iff.mp hshown
  exact ⟨h.kind, h.root, h.base, h.base.of_drawnFrom (drawnFrom_of_shown hitems)⟩

theorem Follows.setFilter {value : Json} (h : Follows w a s₀ s)
    (hset : s.setFilter value = .ok s') : Follows w a s₀ s' := by
  obtain ⟨filter, rfl⟩ := eq_of_setFilter hset
  exact ⟨h.kind, h.root, h.base, h.items⟩

theorem Follows.landed {config : Config} {fresh : List Item} (h : Follows w a s₀ s)
    (hfresh : Takes w a s₀ fresh) : Follows w a s₀ (landed config s fresh) := by
  rw [Rescans.landed]
  split
  · exact ⟨h.kind, h.root, h.base, h.items⟩
  · split
    · rename_i hshown
      exact ⟨h.kind, h.root, hfresh, hfresh.of_drawnFrom (drawnFrom_of_shown hshown)⟩
    · exact ⟨h.kind, h.root, hfresh, h.items⟩

theorem Follows.land {d : Desk} (h : Follows w a s₀ m.session)
    (hbrought : ∀ fresh, broughtBy d m = some fresh → Publishes w a s₀.key fresh) :
    Follows w a s₀ ((m.session.landWith (SessionPool.extraction m)).run d).1 := by
  obtain ⟨s', d', hrun, hcases⟩ := member_land_cases d m
  rw [hrun]
  rcases hcases with ⟨fresh, hfresh, rfl, -⟩ | ⟨-, -, hsame⟩
  · exact h.landed (takes_of_offers (.brought (hbrought fresh hfresh)))
  · rcases hsame with rfl | rfl | ⟨reason, rfl⟩ <;> exact ⟨h.kind, h.root, h.base, h.items⟩

theorem follows_sessionAfter {id : String} (hm : OrderedMap.get? id w.members = some m)
    {event : SessionEvent} (htarget : target? event = some id) :
    Follows w (.session event) m.session (sessionAfter w.client.desk m event) := by
  have hself := follows_self w (.session event) m.session
  cases event with
  | openSession id' =>
      rw [sessionAfter]
      split
      · rename_i hstart
        exact follows_start hstart
      · exact hself
  | filter id' value =>
      rw [sessionAfter]
      split
      · exact hself
      · rename_i s hset
        split
        · rename_i hshown
          exact (hself.setFilter hset).applyFilter hshown
        · exact hself.setFilter hset
  | close id' => exact ⟨rfl, rfl, hself.base, hself.items⟩
  | land id' =>
      obtain rfl := Option.some.inj htarget
      refine hself.land fun fresh hfresh => ?_
      obtain ⟨hpending, hsound, hlist⟩ := broughtBy_eq_some_iff.mp hfresh
      exact .land hm hpending hsound hlist
  | _ => exact hself

theorem member_step {id : String} {m' : Member}
    (hm : OrderedMap.get? id (w.step a).members = some m') :
    (∃ kind root announces breakdown,
        a = .session (.create id kind root announces breakdown) ∧
          m'.session = Session.new kind root) ∨
      ∃ m, OrderedMap.get? id w.members = some m ∧ Follows w a m.session m'.session := by
  have hsame (hm : OrderedMap.get? id w.members = some m') :
      ∃ m, OrderedMap.get? id w.members = some m ∧ Follows w a m.session m'.session :=
    ⟨m', hm, follows_self w a m'.session⟩
  cases a with
  | session event =>
      change OrderedMap.get? id (w.pool.step event).2.members = some m' at hm
      by_cases hcreate : Creates id event
      · obtain ⟨kind, root, announces, breakdown, rfl⟩ := hcreate
        simp only [SessionPool.step, OrderedMap.get?_insert, if_true] at hm
        cases hm
        exact .inl ⟨kind, root, announces, breakdown, rfl, rfl⟩
      · obtain ⟨m, hold, rfl⟩ := exists_of_get?_step hm hcreate
        refine .inr ⟨m, hold, ?_⟩
        dsimp only
        split
        · rename_i htarget
          exact follows_sessionAfter hold htarget
        · exact follows_self ..
  | landBackground index =>
      simp only [Workplace.step] at hm
      split at hm <;> exact .inr (hsame hm)
  | _ => exact .inr (hsame hm)

end Sessions

section Searches

variable {w : Workplace} {a : Activity} {q : SearchTerms} {root : String} {s s₀ : Session}
  {found : List Item}

/-- A search has its answer from what was offered to a session of its kind and root. -/
theorem takes_of_search {refresh : Bool}
    (h : ((Client.search q refresh).run.run w.client).1 = .ok found) :
    ∃ root, rootOf w.client.desk.files q.root = .ok root ∧
      Takes w (.search q refresh) (Session.new q.kind root) found := by
  cases hroot : rootOf w.client.desk.files q.root with
  | error failure =>
      rw [search_no_root hroot] at h
      cases h
  | ok root =>
      refine ⟨root, rfl, ?_⟩
      rcases cold_or_cached w.client q root refresh with hcold | ⟨rfl, items, hitems⟩
      · obtain ⟨d, hrun, -⟩ := search_cold_run hroot hcold
        rw [hrun] at h
        obtain ⟨items, hlist, hanswer⟩ := bind_eq_ok_iff.mp h
        exact ⟨items, .brought (.search hroot hcold hlist), drawnFrom_of_answer hanswer⟩
      · obtain ⟨d, hrun, -⟩ := search_warm_run hroot hitems
        rw [hrun] at h
        dsimp only at h
        split at h
        · cases h
        · obtain ⟨scored, hscored, hanswer⟩ := bind_eq_ok_iff.mp h
          exact ⟨items, .cached hitems,
            (drawnFrom_of_answer hanswer).trans (drawnFrom_of_rescore hscored)⟩

theorem background_search (q : SearchTerms) (refresh : Bool) (c : Client) :
    ((Client.search q refresh).run.run c).2.background = c.background := by
  cases hroot : rootOf c.desk.files q.root with
  | error failure => rw [search_no_root hroot]
  | ok root =>
      rcases cold_or_cached c q root refresh with hcold | ⟨rfl, items, hitems⟩
      · obtain ⟨d, hrun, -⟩ := search_cold_run hroot hcold
        rw [hrun]
      · obtain ⟨d, hrun, -⟩ := search_warm_run hroot hitems
        rw [hrun]

theorem Follows.answerFrom {c : Client} (h : Follows w a s₀ s)
    (hfound : ((answerFrom q s).run.run c).1 = .ok found) : Takes w a s₀ found := by
  have hnarrow : Yields (fun _ : Desk => True) (s.narrow q.query) (Follows w a s₀) := by
    refine Yields.bind (Q := Follows w a s₀) ?_ fun s' hs' => ?_
    · intro d hd
      rw [DeskActions.give_run]
      exact ⟨hd, fun s' hs' => h.setFilter hs'⟩
    · exact fun d hd => ⟨hd, fun s'' hs'' => hs'.applyFilter hs''⟩
  have hlimited {s' : Session} (hs' : Follows w a s₀ s') :
      Yields (fun _ : Client => True) (Client.give (Argument.limited q.maxResults s'.items))
        (Takes w a s₀) := by
    intro c hc
    rw [ClientSearch.give_run]
    exact ⟨hc, fun found hfound => hs'.items.of_drawnFrom (drawnFrom_of_limited hfound)⟩
  have hanswer : Yields (fun _ : Client => True) (StaleSearch.answerFrom q s) (Takes w a s₀) := by
    rw [StaleSearch.answerFrom]
    split
    · exact hnarrow.atDesk.bind fun s' hs' => hlimited hs'
    · exact hlimited h
  exact (hanswer c trivial).2 found hfound

theorem searchLasting_scannedList (kind : Json) (root : String)
    (list : Except Failure (List Item)) :
    SearchLasting fun d => scannedList d kind root = list where
  loaded {d t notices} hload hd := by
    have ht : trackerOf d = t := by rw [trackerOf, hload]
    have htracked := scannedList_tracked (d := d) ⟨_, hload⟩ kind root
    rw [tracked, ht] at htracked
    exact htracked.trans hd
  called _ hd := hd
  cached _ hd := hd

section Stale

variable {waitFresh : Bool} {d : Desk} (hroot : rootOf w.client.desk.files q.root = .ok root)
  (hstart : (Session.new q.kind root).start.run.run w.client.desk = (.ok s, d))

include hstart

theorem follows_started : Follows w (.searchStale q waitFresh) (Session.new q.kind root) s :=
  follows_start (congrArg Prod.fst hstart)

include hroot

theorem publishes_of_await (hwait : (waitFresh || s.phase == .loading) = true)
    {fresh : List Item} (hbrought : broughtBy d ⟨s, true, none⟩ = some fresh) :
    Publishes w (.searchStale q waitFresh) (Session.new q.kind root).key fresh := by
  obtain ⟨-, -, hlist⟩ := broughtBy_eq_some_iff.mp hbrought
  have hfollows : Follows w (.searchStale q waitFresh) _ s := follows_started hstart
  have hlasting := (searchLasting_scannedList q.kind root _).keeps_start (Session.new q.kind root)
    w.client.desk rfl
  rw [hstart] at hlasting
  refine .searchStale hroot (awaits_of_start hstart hwait) (hlasting.symm.trans ?_)
  rw [← hlist, hfollows.kind, hfollows.root]
  rfl

theorem takes_of_await (hwait : (waitFresh || s.phase == .loading) = true) {c : Client}
    (h : ((Client.await s >>= answerFrom q).run.run { c with desk := d }).1 = .ok found) :
    Takes w (.searchStale q waitFresh) (Session.new q.kind root) found := by
  have hlanded : Follows w (.searchStale q waitFresh) (Session.new q.kind root) (s.land.run d).1 :=
    Follows.land (m := ⟨s, true, none⟩) (follows_started hstart) fun fresh hfresh =>
      publishes_of_await hroot hstart hwait hfresh
  rcases hland : s.land.run d with ⟨s', d'⟩
  rw [hland] at hlanded
  cases hfailure : s'.failure? with
  | some reason =>
      rw [run_bind_error (await_run_error hland hfailure)] at h
      cases h
  | none =>
      rw [run_bind_ok (await_run hland hfailure)] at h
      exact hlanded.answerFrom h

end Stale

/-- A stale search has its answer from what was offered to a session of its kind and root. -/
theorem takes_of_searchStale {waitFresh : Bool}
    (h : ((Client.searchStale q waitFresh).run.run w.client).1 = .ok found) :
    ∃ root, rootOf w.client.desk.files q.root = .ok root ∧
      Takes w (.searchStale q waitFresh) (Session.new q.kind root) found := by
  cases hroot : rootOf w.client.desk.files q.root with
  | error failure =>
      rw [searchStale_no_root hroot] at h
      cases h
  | ok root =>
      refine ⟨root, rfl, ?_⟩
      rcases hstart : (Session.new q.kind root).start.run.run w.client.desk with ⟨result, d⟩
      cases result with
      | error failure =>
          rw [searchStale_no_start hroot hstart] at h
          cases h
      | ok s =>
          cases hwait : waitFresh || s.phase == .loading with
          | true =>
              rw [searchStale_wait waitFresh hroot hstart hwait] at h
              exact takes_of_await hroot hstart hwait h
          | false =>
              rw [searchStale_go waitFresh hroot hstart hwait] at h
              exact (follows_started hstart).answerFrom h

theorem background_searchStale {waitFresh : Bool}
    (hs : s ∈ ((Client.searchStale q waitFresh).run.run w.client).2.background) :
    s ∈ w.client.background ∨ ∃ root, rootOf w.client.desk.files q.root = .ok root ∧
      Follows w (.searchStale q waitFresh) (Session.new q.kind root) s := by
  cases hroot : rootOf w.client.desk.files q.root with
  | error failure =>
      rw [searchStale_no_root hroot] at hs
      exact .inl hs
  | ok root =>
      rcases hstart : (Session.new q.kind root).start.run.run w.client.desk with ⟨result, d⟩
      cases result with
      | error failure =>
          rw [searchStale_no_start hroot hstart] at hs
          exact .inl hs
      | ok started =>
          cases hwait : waitFresh || started.phase == .loading with
          | true =>
              rw [searchStale_wait waitFresh hroot hstart hwait, client_await_answerFrom] at hs
              exact .inl hs
          | false =>
              rw [searchStale_go waitFresh hroot hstart hwait, client_answerFrom] at hs
              rcases List.mem_append.mp hs with hs | hs
              · exact .inl hs
              · obtain rfl := List.mem_singleton.mp hs
                have h : Follows w (.searchStale q waitFresh) _ started := follows_started hstart
                exact .inr ⟨root, rfl, h.kind, h.root, h.base, h.items⟩

theorem background_step (hs : s ∈ (w.step a).client.background) :
    s ∈ w.client.background ∨ ∃ q waitFresh root, a = .searchStale q waitFresh ∧
      rootOf w.client.desk.files q.root = .ok root ∧ Follows w a (Session.new q.kind root) s := by
  cases a with
  | search q refresh =>
      simp only [Workplace.step, background_search] at hs
      exact .inl hs
  | searchStale q waitFresh =>
      refine (background_searchStale hs).imp_right ?_
      rintro ⟨root, hroot, hfollows⟩
      exact ⟨q, waitFresh, root, rfl, hroot, hfollows⟩
  | landBackground index =>
      simp only [Workplace.step] at hs
      split at hs
      · exact .inl hs
      · exact .inl (List.mem_of_mem_eraseIdx hs)
  | _ => exact .inl hs

end Searches

end SymbolSearch.Proofs.ListSources
