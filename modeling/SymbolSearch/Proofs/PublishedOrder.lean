import SymbolSearch.Proofs.CacheHistory

namespace SymbolSearch.Proofs.PublishedOrder

open CacheHistory
open CachedSearch
open ClientSearch
open DeskActions
open DeskInvariants
open ItemOrder
open PoolSteps
open Rescans
open Rescoring
open Scanning
open SessionSteps
open StaleSearch
open Traversal

section Lists

variable {items found whole : List Item} {config : Config}

/-- No two items of a list agree in symbol, file and line. -/
def Distinct (items : List Item) : Prop :=
  (items.map identity).Nodup

/-- All scores of a list can be compared. -/
def AllPlaced (items : List Item) : Prop :=
  ∀ i ∈ items, i.isPlaced = true

/-- Each item of a list comes before the next: by a higher score, or else by symbol, file and
line. -/
def StrictlySorted (items : List Item) : Prop :=
  items.Pairwise fun a b => sortKey a < sortKey b

/-- A list is what sorting makes of items that differ. -/
def Arranged (items : List Item) : Prop :=
  ∃ xs, items = Item.sort xs ∧ Distinct xs

theorem arranged_nil : Arranged [] := by
  refine ⟨[], ?_, List.nodup_nil⟩
  simp [Item.sort]

theorem Arranged.distinct (h : Arranged items) : Distinct items := by
  obtain ⟨xs, rfl, hdistinct⟩ := h
  exact ((sort_perm xs).map identity).nodup_iff.mpr hdistinct

theorem Arranged.strictlySorted (h : Arranged items) (hplaced : AllPlaced items) :
    StrictlySorted items := by
  have hne : items.Pairwise fun a b => identity a ≠ identity b := List.pairwise_map.mp h.distinct
  obtain ⟨xs, rfl, -⟩ := h
  have hsorted : (Item.sort xs).Pairwise fun a b => sortKey a ≤ sortKey b := by
    apply sort_pairwise
    intro i hi
    exact hplaced i ((sort_perm xs).mem_iff.mpr hi)
  refine hsorted.imp₂ ?_ hne
  intro a b hle hab
  exact lt_of_le_of_ne hle fun heq => hab (identity_eq_of_sortKey_eq heq)

theorem arranged_refreshed (h : Distinct items) (t : Tracker) (config : Config) (now : Int) :
    Arranged (refreshed t config now items) := by
  refine ⟨_, rfl, ?_⟩
  rwa [Distinct, map_identity_restamped]

theorem arranged_of_rescore {t : Tracker} {now : Int} (h : Distinct items)
    (hrescore : Ranking.rescore t config now items = .ok found) : Arranged found := by
  rw [eq_refreshed_of_rescore hrescore]
  exact arranged_refreshed h t config now

theorem arranged_freshAt {d : Desk} {kind : Json} {root : String} {scan : Scan}
    (h : d.extractor.extract d.tool kind root = .ok scan) :
    Arranged (freshAt d (itemsOf root scan.occurrences)) := by
  apply arranged_refreshed
  exact nodup_identity_itemsOf root (nodup_key_extract _ root h)

theorem arranged_scannedList {d : Desk} {kind : Json} {root : String}
    (h : scannedList d kind root = .ok items) : Arranged items := by
  obtain ⟨scan, hscan, rfl⟩ := scannedList_eq_freshAt h
  exact arranged_freshAt hscan

theorem map_item_findAll_perm {α : Type} (n : Similarity.Needle) (text : α → String)
    (candidates : List α) :
    ((n.findAll text candidates).map Similarity.Hit.item).Perm
      (candidates.filter fun item => n.isIn (text item).toList) := by
  rw [Similarity.Needle.findAll]
  refine ((List.mergeSort_perm _ _).map _).trans (.of_eq ?_)
  have hindex : candidates.filter (fun item => n.isIn (text item).toList) =
      (candidates.zipIdx.map Prod.fst).filterMap
        (Option.guard fun item => n.isIn (text item).toList) := by
    rw [List.zipIdx_map_fst, List.filterMap_eq_filter]
  rw [hindex, List.map_filterMap, List.filterMap_map]
  congr 1
  funext place
  obtain ⟨item, index⟩ := place
  simp only [Function.comp_apply, Option.guard]
  split <;> rfl

theorem distinct_findAll {query : Json} {hits : List (Similarity.Hit Item)} (h : Distinct items)
    (hfind : Query.findAll (fun item : Item => item.symbol) items query = .ok hits) :
    Distinct (hits.map Similarity.Hit.item) := by
  rw [Query.findAll] at hfind
  split at hfind
  · cases hfind
    exact List.nodup_nil
  · obtain ⟨needle, -, hfound⟩ := bind_eq_ok_iff.mp hfind
    cases hfound
    cases needle with
    | none => exact List.nodup_nil
    | some n =>
        have hperm := map_item_findAll_perm n (fun item : Item => item.symbol) items
        refine (hperm.map identity).nodup_iff.mpr ?_
        exact h.sublist (List.filter_sublist.map identity)

theorem identity_scored {best : Float} {hit : Similarity.Hit Item} {i : Item}
    (h : Ranking.scored config best hit = .ok i) : identity i = identity hit.item := by
  obtain ⟨score, -, hscored⟩ := bind_eq_ok_iff.mp h
  cases hscored
  rfl

theorem arranged_rank {query : Json} (h : Distinct items)
    (hrank : Ranking.rank config items query = .ok found) : Arranged found := by
  rw [Ranking.rank] at hrank
  split at hrank
  · cases hrank
    exact ⟨items, rfl, h⟩
  · obtain ⟨hits, hfind, hrank⟩ := bind_eq_ok_iff.mp hrank
    obtain ⟨ranked, hscored, hrank⟩ := bind_eq_ok_iff.mp hrank
    cases hrank
    refine ⟨ranked, rfl, ?_⟩
    have hidentity : ranked.map identity = hits.map (fun hit => identity hit.item) :=
      map_eq_of_mapM (fun _ _ => identity_scored) hscored
    rw [Distinct, hidentity]
    simpa [Distinct, Function.comp_def] using distinct_findAll h hfind

theorem sublist_of_limited {value : Json} (h : Argument.limited value whole = .ok found) :
    found.Sublist whole := by
  rw [Argument.limited] at h
  split at h
  · obtain ⟨bound, -, hfront⟩ := bind_eq_ok_iff.mp h
    cases bound with
    | none =>
        cases hfront
        exact List.Sublist.refl _
    | some n =>
        cases hfront
        rw [takeTo]
        split <;> exact List.take_sublist _ _
  · cases h
    exact List.Sublist.refl _

end Lists

section Sessions

variable {d d' : Desk} {s : Session} {items : List Item} {m : Member}

/-- The items of every cached list differ. -/
def CacheDistinct (d : Desk) : Prop :=
  ∀ key items, OrderedMap.get? key d.cache.current = some items → Distinct items

/-- The lists of a session are arranged, the whole one and the one on show. -/
structure Tidy (s : Session) : Prop where
  base : Arranged s.base
  items : Arranged s.items

theorem tidy_new (kind : Json) (root : String) : Tidy (Session.new kind root) :=
  ⟨arranged_nil, arranged_nil⟩

theorem tidy_opened (s : Session) (phase : Phase) (h : Arranged items) :
    Tidy (opened s phase items) :=
  ⟨h, h⟩

theorem CacheDistinct.insert (h : CacheDistinct d) {key : String} (hitems : Distinct items)
    (hcache : d'.cache = d.cache.modify (OrderedMap.insert key items)) : CacheDistinct d' := by
  intro key' items' hlookup
  rw [hcache, current_modify, OrderedMap.get?_insert] at hlookup
  split at hlookup
  · cases hlookup
    exact hitems
  · exact h key' items' hlookup

theorem arranged_shown {config : Config} {base : List Item} (h : Arranged base)
    (hshown : shown config s base = .ok items) : Arranged items := by
  rw [shown] at hshown
  split at hshown
  · exact arranged_rank h.distinct hshown
  · cases hshown
    exact h

theorem yields_rescore (h : Distinct items) :
    Yields CacheDistinct (Desk.rescore items) Arranged := by
  intro d hd
  rw [rescore_run_eq]
  split
  · exact ⟨hd, by simp⟩
  · exact ⟨hd, fun found hfound => arranged_of_rescore h hfound⟩

theorem yields_cached (key : String) :
    Yields CacheDistinct (Desk.cached key) fun found => ∀ items, found = some items →
      Distinct items := by
  intro d hd
  refine ⟨hd, ?_⟩
  rintro found hfound items rfl
  exact hd key items (Except.ok.inj hfound)

theorem yields_extract (kind : Json) (root : String) :
    Yields CacheDistinct (Desk.extract kind root) fun occurrences =>
      (occurrences.map Occurrence.key).Nodup := by
  intro d hd
  rw [extract_run]
  cases hscan : d.extractor.extract d.tool kind root with
  | error failure => exact ⟨hd, by simp⟩
  | ok scan =>
      refine ⟨hd, ?_⟩
      rintro occurrences ⟨⟩
      exact nodup_key_extract _ root hscan

theorem yields_build (root : String) {occurrences : List Occurrence}
    (h : (occurrences.map Occurrence.key).Nodup) :
    Yields CacheDistinct (Desk.build root occurrences) Arranged :=
  yields_rescore (nodup_identity_itemsOf root h)

theorem yields_keep (key : String) (h : Distinct items) :
    Yields CacheDistinct (Desk.keep key items) fun _ => True :=
  fun _ hd => ⟨hd.insert h rfl, fun _ _ => trivial⟩

theorem yields_rank (query : Json) (h : Distinct items) :
    Yields CacheDistinct (Desk.rank items query) Arranged := by
  intro d hd
  rw [rank_run]
  exact ⟨hd, fun found hfound => arranged_rank h hfound⟩

theorem yields_start (s : Session) : Yields CacheDistinct s.start Tidy := by
  intro d hd
  by_cases hs : s.phase = .empty
  · cases hlookup : OrderedMap.get? s.key d.cache.current with
    | none =>
        rw [start_uncached hs hlookup]
        refine ⟨hd, ?_⟩
        rintro s' ⟨⟩
        exact tidy_opened s .loading arranged_nil
    | some items =>
        rw [start_cached_eq hs hlookup]
        split
        · exact ⟨hd, by simp⟩
        · refine ⟨hd, ?_⟩
          intro s' hs'
          obtain ⟨base, hbase, rfl⟩ := map_eq_ok_iff.mp hs'
          exact tidy_opened s .revalidating (arranged_of_rescore (hd _ _ hlookup) hbase)
  · rw [start_again hs]
    exact ⟨hd, by simp⟩

theorem yields_applyFilter (h : Arranged s.base) : Yields CacheDistinct s.applyFilter Tidy := by
  intro d hd
  rw [applyFilter_run]
  refine ⟨hd, ?_⟩
  intro s' hs'
  obtain ⟨items, hitems, rfl⟩ := map_eq_ok_iff.mp hs'
  exact ⟨h, arranged_shown h hitems⟩

theorem eq_of_setFilter {s' : Session} {value : Json} (h : s.setFilter value = .ok s') :
    ∃ filter, s' = { s with filter := filter } := by
  rw [Session.setFilter] at h
  split at h <;> cases h
  exact ⟨_, rfl⟩

theorem yields_narrow (value : Json) (h : Arranged s.base) :
    Yields CacheDistinct (s.narrow value) Tidy := by
  have hset : Yields CacheDistinct (Desk.give (s.setFilter value)) fun s' =>
      s'.base = s.base := by
    intro d hd
    rw [DeskActions.give_run]
    refine ⟨hd, ?_⟩
    intro s' hs'
    obtain ⟨filter, rfl⟩ := eq_of_setFilter hs'
    rfl
  refine hset.bind fun s' hbase => ?_
  apply yields_applyFilter
  rw [hbase]
  exact h

theorem tidy_landed {config : Config} {fresh : List Item} (h : Tidy s) (hfresh : Arranged fresh) :
    Tidy (landed config s fresh) := by
  rw [landed]
  split
  · exact ⟨h.base, h.items⟩
  · split
    · rename_i hshown
      exact ⟨hfresh, arranged_shown hfresh hshown⟩
    · exact ⟨hfresh, h.items⟩

theorem tidy_land (hd : CacheDistinct d) (h : Tidy m.session) :
    Tidy ((m.session.landWith (SessionPool.extraction m)).run d).1 ∧
      CacheDistinct ((m.session.landWith (SessionPool.extraction m)).run d).2 := by
  obtain ⟨s', d', hrun, hcases⟩ := member_land_cases d m
  rw [hrun]
  rcases hcases with ⟨fresh, hbrought, rfl, hcache⟩ | ⟨-, hcache, hsame⟩
  · have hfresh : Arranged fresh := arranged_scannedList (broughtBy_eq_some_iff.mp hbrought).2.2
    exact ⟨tidy_landed h hfresh, hd.insert hfresh.distinct hcache⟩
  · refine ⟨?_, by rw [CacheDistinct, hcache]; exact hd⟩
    rcases hsame with rfl | rfl | ⟨reason, rfl⟩ <;> exact ⟨h.base, h.items⟩

theorem tidy_sessionAfter (hd : CacheDistinct d) (h : Tidy m.session) (event : SessionEvent) :
    Tidy (sessionAfter d m event) := by
  cases event with
  | openSession id =>
      rw [sessionAfter]
      split
      · rename_i hstart
        exact (yields_start m.session d hd).2 _ hstart
      · exact h
  | filter id value =>
      rw [sessionAfter]
      split
      · exact h
      · rename_i s hset
        obtain ⟨filter, rfl⟩ := eq_of_setFilter hset
        split
        · rename_i hfilter
          exact (yields_applyFilter (s := { m.session with filter := filter }) h.base d hd).2 _
            hfilter
        · exact ⟨h.base, h.items⟩
  | close id => exact ⟨h.base, h.items⟩
  | land id => exact (tidy_land hd h).1
  | _ => exact h

end Sessions

section Clients

variable {c : Client} {s : Session} {q : SearchTerms} {items found : List Item} {α : Type}
  {Q : α → Prop}

/-- The lists of a client are arranged: the items of its cached lists differ, and the sessions in
the background are tidy. -/
structure OrderlyClient (c : Client) : Prop where
  cache : CacheDistinct c.desk
  background : ∀ s ∈ c.background, Tidy s

theorem yields_atDesk {action : Action α} (h : Yields CacheDistinct action Q) :
    Yields OrderlyClient (Client.atDesk action) Q := by
  intro c hc
  obtain ⟨hd, hgiven⟩ := h c.desk hc.cache
  rcases hrun : action.run.run c.desk with ⟨result, d⟩
  rw [hrun] at hd hgiven
  rw [atDesk_run hrun]
  exact ⟨⟨hd, hc.background⟩, hgiven⟩

theorem yields_give {result : Except Failure α} (h : ∀ a, result = .ok a → Q a) :
    Yields OrderlyClient (Client.give result) Q := by
  intro c hc
  rw [ClientSearch.give_run]
  exact ⟨hc, h⟩

theorem yields_resolveRoot (root : Json) :
    Yields OrderlyClient (Client.resolveRoot root) fun _ => True := by
  intro c hc
  rw [resolveRoot_run rfl]
  exact ⟨hc, fun _ _ => trivial⟩

/-- What a search may answer: an arranged list, up to the limit. -/
def Answers (q : SearchTerms) (found : List Item) : Prop :=
  ∃ whole, Arranged whole ∧ Argument.limited q.maxResults whole = .ok found

theorem yields_answer (q : SearchTerms) (h : Distinct items) :
    Yields OrderlyClient
      (Client.atDesk (Desk.rank items q.query) >>= fun whole =>
        Client.give (Argument.limited q.maxResults whole)) (Answers q) := by
  refine (yields_atDesk (yields_rank q.query h)).bind fun whole hwhole => ?_
  exact yields_give fun found hfound => ⟨whole, hwhole, hfound⟩

theorem yields_scanThenAnswer (q : SearchTerms) (root : String) :
    Yields OrderlyClient (scanThenAnswer q root) (Answers q) := by
  refine (yields_atDesk (yields_extract q.kind root)).bind fun occurrences hdistinct => ?_
  refine (yields_atDesk (yields_build root hdistinct)).bind fun items hitems => ?_
  refine (yields_atDesk (yields_keep _ hitems.distinct)).bind fun _ _ => ?_
  exact yields_answer q hitems.distinct

theorem yields_search (q : SearchTerms) (refresh : Bool) :
    Yields OrderlyClient (Client.search q refresh) (Answers q) := by
  refine (yields_resolveRoot q.root).bind fun root _ => ?_
  cases refresh with
  | true => exact yields_scanThenAnswer q root
  | false =>
      refine (yields_atDesk (yields_cached (Cache.key q.kind root))).bind fun cached hcached => ?_
      cases cached with
      | none => exact yields_scanThenAnswer q root
      | some items =>
          refine (yields_atDesk (yields_rescore (hcached items rfl))).bind fun scored hscored => ?_
          exact yields_answer q hscored.distinct

theorem yields_await (h : Tidy s) : Yields OrderlyClient (Client.await s) Tidy := by
  have hland : Yields OrderlyClient (Client.land s) Tidy := by
    intro c hc
    obtain ⟨hs, hd⟩ := tidy_land (m := ⟨s, true, none⟩) hc.cache h
    refine ⟨⟨hd, hc.background⟩, ?_⟩
    rintro s' ⟨⟩
    exact hs
  refine hland.bind fun s' hs' => ?_
  split
  · refine fun c hc => ⟨hc, ?_⟩
    rintro _ ⟨⟩
  · refine fun c hc => ⟨hc, ?_⟩
    rintro _ ⟨⟩
    exact hs'

theorem yields_answerFrom (q : SearchTerms) (h : Tidy s) :
    Yields OrderlyClient (answerFrom q s) (Answers q) := by
  rw [answerFrom]
  split
  · refine (yields_atDesk (yields_narrow q.query h.base)).bind fun s' hs' => ?_
    exact yields_give fun found hfound => ⟨s'.items, hs'.items, hfound⟩
  · exact yields_give fun found hfound => ⟨s.items, h.items, hfound⟩

theorem yields_searchStale (q : SearchTerms) (waitFresh : Bool) :
    Yields OrderlyClient (Client.searchStale q waitFresh) (Answers q) := by
  refine (yields_resolveRoot q.root).bind fun root _ => ?_
  refine (yields_atDesk (yields_start (Session.new q.kind root))).bind fun s hs => ?_
  dsimp only
  split
  · exact (yields_await hs).bind fun s' hs' => yields_answerFrom q hs'
  · intro c hc
    refine yields_answerFrom q hs ⟨c.desk, c.background ++ [s.close]⟩ ⟨hc.cache, ?_⟩
    intro s' hs'
    obtain hmem | hlast := List.mem_append.mp hs'
    · exact hc.background s' hmem
    · obtain rfl := List.mem_singleton.mp hlast
      exact ⟨hs.base, hs.items⟩

/-- The same search without a limit. -/
def unlimited (q : SearchTerms) : SearchTerms :=
  { q with maxResults := .null }

theorem limited_null (xs : List Item) : Argument.limited .null xs = .ok xs := by
  rfl

theorem give_ok (a : α) : Client.give (.ok a) = pure a := by
  rfl

theorem search_eq_limited (q : SearchTerms) (refresh : Bool) :
    Client.search q refresh = Client.search (unlimited q) refresh >>= fun whole =>
      Client.give (Argument.limited q.maxResults whole) := by
  simp only [Client.search, unlimited, bind_assoc, limited_null, give_ok]
  congr 1
  funext root
  cases refresh with
  | true => simp only [if_true, bind_assoc, pure_bind]
  | false =>
      simp only [Bool.false_eq_true, if_false, bind_assoc]
      congr 1
      funext cached
      cases cached with
      | none => simp only [bind_assoc, pure_bind]
      | some items => simp only [bind_assoc, pure_bind]

theorem searchStale_eq_limited (q : SearchTerms) (waitFresh : Bool) :
    Client.searchStale q waitFresh = Client.searchStale (unlimited q) waitFresh >>= fun whole =>
      Client.give (Argument.limited q.maxResults whole) := by
  have hanswer : answerFrom q = fun s => answerFrom (unlimited q) s >>= fun whole =>
      Client.give (Argument.limited q.maxResults whole) := by
    funext s
    simp only [answerFrom, unlimited, limited_null, give_ok]
    split <;> simp only [bind_assoc, pure_bind]
  have hstale (q : SearchTerms) : Client.searchStale q waitFresh = (do
      let root ← Client.resolveRoot q.root
      let s ← Client.atDesk (Session.new q.kind root).start
      if waitFresh || s.phase == .loading then Client.await s >>= answerFrom q
      else do
        modify fun c => { c with background := c.background ++ [s.close] }
        answerFrom q s) := rfl
  rw [hstale, hstale, hanswer]
  simp only [bind_assoc]
  congr 1
  funext root
  congr 1
  funext s
  split <;> simp only [bind_assoc]

theorem exists_whole {x : ClientAction (List Item)} {value : Json}
    (h : ((x >>= fun whole => Client.give (Argument.limited value whole)).run.run c).1 =
      .ok found) :
    ∃ whole, (x.run.run c).1 = .ok whole ∧ Argument.limited value whole = .ok found := by
  rcases hrun : x.run.run c with ⟨result, c'⟩
  cases result with
  | error failure =>
      rw [run_bind_error hrun] at h
      cases h
  | ok whole =>
      rw [run_bind_ok hrun, ClientSearch.give_run] at h
      exact ⟨whole, rfl, h⟩

/-- An answer to a search that can be given in full: its items differ, and they are in order if the
scores of the full answer can be compared. -/
def InOrder (full : Except Failure (List Item)) (found : List Item) : Prop :=
  Distinct found ∧ ∃ whole, full = .ok whole ∧ (AllPlaced whole → StrictlySorted found)

theorem inOrder_of_limited {x : ClientAction (List Item)} (hc : OrderlyClient c)
    (hx : Yields OrderlyClient x (Answers (unlimited q)))
    (h : ((x >>= fun whole => Client.give (Argument.limited q.maxResults whole)).run.run c).1 =
      .ok found) : InOrder (x.run.run c).1 found := by
  obtain ⟨whole, hwhole, hlimited⟩ := exists_whole h
  obtain ⟨whole', harranged, hall⟩ := (hx c hc).2 whole hwhole
  obtain rfl : whole' = whole := Except.ok.inj hall
  have hsub := sublist_of_limited hlimited
  refine ⟨harranged.distinct.sublist (hsub.map identity), whole', hwhole, ?_⟩
  intro hplaced
  exact (harranged.strictlySorted hplaced).sublist hsub

end Clients

section Workplaces

variable {w : Workplace}

/-- Every list at a workplace is arranged, those of the sessions included. -/
structure Orderly (w : Workplace) : Prop where
  client : OrderlyClient w.client
  members : ∀ id m, OrderedMap.get? id w.members = some m → Tidy m.session

theorem cacheDistinct_step (h : CacheDistinct w.client.desk) (a : Activity) :
    CacheDistinct (w.step a).client.desk := by
  intro key items hlookup
  change (w.step a).entry key = some items at hlookup
  by_cases htouches : Touches w a key
  · rcases htouches with ⟨items', hpublishes⟩ | hdrops
    · obtain ⟨kind, root, scan, -, hscan, rfl⟩ := hpublishes.whole
      rw [entry_step_of_publishes hpublishes, if_pos rfl] at hlookup
      cases hlookup
      exact (arranged_freshAt hscan).distinct
    · rw [entry_step_of_drops hdrops] at hlookup
      cases hlookup
  · rw [entry_step_of_not_touches htouches] at hlookup
    exact h key items hlookup

theorem Orderly.tidy_step_session (h : Orderly w) (event : SessionEvent) {id : String}
    {m : Member} (hm : OrderedMap.get? id (w.pool.step event).2.members = some m) :
    Tidy m.session := by
  by_cases hcreate : Creates id event
  · obtain ⟨kind, root, announces, breakdown, rfl⟩ := hcreate
    simp only [SessionPool.step, OrderedMap.get?_insert, if_true] at hm
    cases hm
    exact tidy_new kind root
  · obtain ⟨m', hold, rfl⟩ := exists_of_get?_step hm hcreate
    have htidy := h.members id m' hold
    dsimp only
    split
    · exact tidy_sessionAfter h.client.cache htidy event
    · exact htidy

theorem Orderly.background_step (h : Orderly w) (a : Activity) :
    ∀ s ∈ (w.step a).client.background, Tidy s := by
  cases a with
  | search q refresh => exact (yields_search q refresh w.client h.client).1.background
  | searchStale q waitFresh => exact (yields_searchStale q waitFresh w.client h.client).1.background
  | landBackground index =>
      intro s hs
      simp only [Workplace.step] at hs
      split at hs
      · exact h.client.background s hs
      · exact h.client.background s (List.mem_of_mem_eraseIdx hs)
  | _ => exact h.client.background

theorem Orderly.step (h : Orderly w) (a : Activity) : Orderly (w.step a) := by
  refine ⟨⟨cacheDistinct_step h.client.cache a, h.background_step a⟩, ?_⟩
  cases a with
  | session event =>
      intro id m hm
      exact h.tidy_step_session event hm
  | landBackground index =>
      simp only [Workplace.step]
      split <;> exact h.members
  | _ => exact h.members

theorem Orderly.run (h : Orderly w) (activities : List Activity) : Orderly (w.run activities) := by
  induction activities generalizing w with
  | nil => exact h
  | cons a activities ih => exact ih (h.step a)

theorem orderly_of_empty (hcache : w.client.desk.cache.current = [])
    (hbackground : w.client.background = []) (hmembers : w.members = []) : Orderly w := by
  refine ⟨⟨?_, ?_⟩, ?_⟩
  · intro key items hlookup
    rw [hcache] at hlookup
    cases hlookup
  · rw [hbackground]
    simp
  · intro id m hm
    rw [hmembers] at hm
    cases hm

end Workplaces

/-- Whatever sessions and searches have done since the cache was empty, every list that is on show
or answered is in strict order, and so no two of its items agree in symbol, file and line. The order
needs scores that can be compared; that the items differ does not. -/
theorem published_lists_strictly_sorted {w : Workplace}
    (hcache : w.client.desk.cache.current = []) (hbackground : w.client.background = [])
    (hmembers : w.members = []) (activities : List Activity) :
    (∀ id m, OrderedMap.get? id (w.run activities).members = some m →
      Distinct m.session.items ∧ (AllPlaced m.session.items → StrictlySorted m.session.items)) ∧
    (∀ s ∈ (w.run activities).client.background,
      Distinct s.items ∧ (AllPlaced s.items → StrictlySorted s.items)) ∧
    (∀ q refresh found,
      ((Client.search q refresh).run.run (w.run activities).client).1 = .ok found →
      InOrder ((Client.search (unlimited q) refresh).run.run (w.run activities).client).1 found) ∧
    ∀ q waitFresh found,
      ((Client.searchStale q waitFresh).run.run (w.run activities).client).1 = .ok found →
      InOrder ((Client.searchStale (unlimited q) waitFresh).run.run (w.run activities).client).1
        found := by
  have horderly : Orderly (w.run activities) :=
    (orderly_of_empty hcache hbackground hmembers).run activities
  have hlist {s : Session} (hs : Tidy s) :
      Distinct s.items ∧ (AllPlaced s.items → StrictlySorted s.items) :=
    ⟨hs.items.distinct, hs.items.strictlySorted⟩
  refine ⟨fun id m hm => hlist (horderly.members id m hm),
    fun s hs => hlist (horderly.client.background s hs), ?_, ?_⟩
  · intro q refresh found hfound
    rw [search_eq_limited] at hfound
    exact inOrder_of_limited horderly.client (yields_search (unlimited q) refresh) hfound
  · intro q waitFresh found hfound
    rw [searchStale_eq_limited] at hfound
    exact inOrder_of_limited horderly.client (yields_searchStale (unlimited q) waitFresh) hfound

section Sample

/-- A workplace without sessions, where two classes are to be found. -/
def orderSample : Workplace :=
  ⟨sampleClient sampleOutput, []⟩

/-- A session is opened on nothing. -/
def openActivities : List Activity :=
  [.session (.create "s" (.string "all") "/" true none), .session (.openSession "s")]

/-- The session while it waits for its rescan. -/
def waitingSession : Session :=
  opened (Session.new (.string "all") "/") .loading []

theorem run_openActivities :
    orderSample.run openActivities =
      ⟨sampleClient sampleOutput, [("s", ⟨waitingSession, true, none⟩)]⟩ := by
  rfl

/-- The two classes with their scores, in order. -/
def sampleList : List Item :=
  freshAt (sampleClient sampleOutput).desk (itemsOf "/" sampleOccurrences)

theorem sampleList_perm :
    ∃ t config now, Comparable t config now (itemsOf "/" sampleOccurrences) ∧
      sampleList.Perm ((itemsOf "/" sampleOccurrences).map (restamped t config now)) := by
  obtain ⟨scan, hscan, hfound⟩ := extract_sample
  have hcompare := scanCompares_sample "" "/" scan rootOf_sample hscan
  rw [hfound] at hcompare
  refine ⟨_, _, _, hcompare.comparable, ?_⟩
  rw [sampleList, freshAt]
  exact refreshed_perm ..

theorem allPlaced_of_perm_sampleList {items : List Item} (h : items.Perm sampleList) :
    AllPlaced items := by
  obtain ⟨t, config, now, hcompare, hperm⟩ := sampleList_perm
  intro i hi
  obtain ⟨i', hi', rfl⟩ := List.mem_map.mp ((h.trans hperm).mem_iff.mp hi)
  exact isPlaced_restamped hcompare hi'

theorem items_sample :
    ∃ m, OrderedMap.get? "s" (orderSample.run (openActivities ++ [.session (.land "s")])).members =
        some m ∧ m.session.items = sampleList := by
  obtain ⟨scan, hscan, hfound⟩ := extract_sample
  have hcompare := scanCompares_sample "" "/" scan rootOf_sample hscan
  have hland := land_unfiltered (s := waitingSession) rfl (by simp [waitingSession, opened]) rfl
    hscan hcompare.rescoresAt
  rw [run_snoc, run_openActivities, sampleList, ← hfound]
  have hm : OrderedMap.get? "s" [("s", (⟨waitingSession, true, none⟩ : Member))] =
      some ⟨waitingSession, true, none⟩ := rfl
  refine ⟨_, get?_step_of_target hm rfl (by simp [Creates]), ?_⟩
  exact congrArg (fun result => result.1.items) hland

theorem search_sample :
    ((Client.search (sampleTerms "") false).run.run (orderSample.run openActivities).client).1 =
      .ok (Item.sort sampleList) := by
  obtain ⟨scan, hscan, hfound⟩ := extract_sample
  have hcompare := scanCompares_sample "" "/" scan rootOf_sample hscan
  have hcold : Cold (sampleClient sampleOutput) (sampleTerms "") "/" false :=
    .inr (OrderedMap.get?_nil _)
  rw [run_openActivities, search_cold rootOf_sample hcold hscan hcompare.rescoresAt, sampleList,
    ← hfound]
  rfl

/-- The session has both classes in order after its rescan, and so has a search before it. -/
theorem published_lists_strictly_sorted_sample :
    sampleList.length = 2 ∧
      (∃ m, OrderedMap.get? "s"
          (orderSample.run (openActivities ++ [.session (.land "s")])).members = some m ∧
        m.session.items = sampleList ∧ StrictlySorted m.session.items) ∧
      ∃ found,
        ((Client.search (sampleTerms "") false).run.run
          (orderSample.run openActivities).client).1 = .ok found ∧
        found.Perm sampleList ∧ StrictlySorted found := by
  refine ⟨?_, ?_, ?_⟩
  · obtain ⟨t, config, now, -, hperm⟩ := sampleList_perm
    exact hperm.length_eq
  · obtain ⟨m, hm, hitems⟩ := items_sample
    obtain ⟨hsessions, -⟩ := published_lists_strictly_sorted (w := orderSample) rfl rfl rfl
      (openActivities ++ [.session (.land "s")])
    refine ⟨m, hm, hitems, (hsessions "s" m hm).2 ?_⟩
    exact allPlaced_of_perm_sampleList (.of_eq hitems)
  · obtain ⟨-, -, hsearches, -⟩ := published_lists_strictly_sorted (w := orderSample) rfl rfl rfl
      openActivities
    obtain ⟨-, whole, hwhole, hsorted⟩ := hsearches (sampleTerms "") false _ search_sample
    obtain rfl : Item.sort sampleList = whole := Except.ok.inj (search_sample.symm.trans hwhole)
    have hperm := sort_perm sampleList
    exact ⟨_, search_sample, hperm, hsorted (allPlaced_of_perm_sampleList hperm)⟩

end Sample

end SymbolSearch.Proofs.PublishedOrder
