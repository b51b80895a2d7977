import Mathlib.Logic.Function.Basic
import SymbolSearch.Proofs.CacheHistory
import SymbolSearch.Proofs.DeskInvariants

namespace SymbolSearch.Proofs.SharedCaches

open CachedSearch
open CacheHistory
open ClientSearch
open DeskInvariants
open Rescans

/-- Clients, each at a workplace of its own, that have all been handed one cache. -/
structure Team (ι : Type) where
  shared : Cache
  workplaces : ι → Workplace

variable {ι : Type}

namespace Team

/-- The workplace of a client, with what the shared cache holds by now. -/
def workplace (t : Team ι) (i : ι) : Workplace :=
  let w := t.workplaces i
  let slot : CacheSlot := { w.client.desk.cache with given := t.shared }
  { w with client := { w.client with desk := { w.client.desk with cache := slot } } }

/-- A team after something has happened at the workplace of one client. -/
def step [DecidableEq ι] (t : Team ι) (turn : ι × Activity) : Team ι :=
  let w := (t.workplace turn.1).step turn.2
  ⟨w.client.desk.cache.given, Function.update t.workplaces turn.1 w⟩

/-- A team after some turns. -/
def run [DecidableEq ι] (t : Team ι) (turns : List (ι × Activity)) : Team ι :=
  turns.foldl step t

/-- The calls that a client has made. -/
def calls (t : Team ι) (i : ι) : List Invocation :=
  (t.workplaces i).client.desk.calls

/-- Every client has just been handed the shared cache. -/
def Starts (t : Team ι) : Prop :=
  ∀ i, (t.workplaces i).client.desk.cache = CacheSlot.adopt t.shared

/-- Every client works with the cache it was handed. -/
def WorksTogether (t : Team ι) : Prop :=
  ∀ i, (t.workplaces i).client.desk.cache.own = none

/-- Every client works with a cache of its own. -/
def WorksAlone (t : Team ι) : Prop :=
  ∀ i, ∃ own, (t.workplaces i).client.desk.cache.own = some own

end Team

/-- No turn drops cached lists. -/
def DropNothing (turns : List (ι × Activity)) : Prop :=
  ∀ turn ∈ turns, ∀ which, turn.2 ≠ .session (.invalidate which)

/-- A client has no turn. -/
def Rests (i : ι) (turns : List (ι × Activity)) : Prop :=
  ∀ turn ∈ turns, turn.1 ≠ i

variable {t : Team ι} {turn : ι × Activity} {turns : List (ι × Activity)} {i j : ι} {key : String}

section Slots

theorem modify_id (s : CacheSlot) : s.modify id = s := by
  obtain ⟨given, own⟩ := s
  cases own <;> rfl

theorem own_modify (s : CacheSlot) (f : Cache → Cache) : (s.modify f).own = s.own.map f := by
  obtain ⟨given, own⟩ := s
  cases own <;> rfl

theorem given_modify (s : CacheSlot) (f : Cache → Cache) :
    (s.modify f).given = if s.own = none then f s.given else s.given := by
  obtain ⟨given, own⟩ := s
  cases own <;> rfl

theorem exists_modify_of_step (w : Workplace) (a : Activity) :
    ∃ f, (w.step a).client.desk.cache = w.client.desk.cache.modify f ∧
      ((∀ which, a ≠ .session (.invalidate which)) →
        f = id ∨ ∃ key items, f = OrderedMap.insert key items) := by
  rcases cache_step_cases w a with ⟨key, items, hpublishes⟩ | ⟨which, rfl⟩ | hsame
  · exact ⟨_, cache_step_of_publishes hpublishes, fun _ => .inr ⟨key, items, rfl⟩⟩
  · exact ⟨Cache.invalidate which, rfl, fun h => absurd rfl (h which)⟩
  · exact ⟨id, hsame.trans (modify_id _).symm, fun _ => .inl rfl⟩

end Slots

section Starts

theorem worksTogether_of_starts (h : t.Starts) (hshared : t.shared ≠ []) : t.WorksTogether := by
  intro i
  have hfull : t.shared.isEmpty = false := by simpa using hshared
  rw [h i, CacheSlot.adopt, hfull]
  rfl

theorem own_of_starts (h : t.Starts) (hshared : t.shared = []) (i : ι) :
    (t.workplaces i).client.desk.cache.own = some [] := by
  rw [h i, CacheSlot.adopt, hshared]
  rfl

theorem current_of_worksTogether (h : t.WorksTogether) (i : ι) :
    (t.workplace i).client.desk.cache.current = t.shared :=
  congrArg (fun own : Option Cache => own.getD t.shared) (h i)

end Starts

variable [DecidableEq ι]

section Steps

theorem workplaces_step_self (t : Team ι) (i : ι) (a : Activity) :
    (t.step (i, a)).workplaces i = (t.workplace i).step a :=
  Function.update_self ..

theorem workplaces_step_of_ne (t : Team ι) (a : Activity) (h : i ≠ j) :
    (t.step (i, a)).workplaces j = t.workplaces j :=
  Function.update_of_ne h.symm ..

theorem worksTogether_step (h : t.WorksTogether) (turn : ι × Activity) :
    (t.step turn).WorksTogether := by
  obtain ⟨i, a⟩ := turn
  intro j
  by_cases hij : i = j
  · subst hij
    obtain ⟨f, hf, -⟩ := exists_modify_of_step (t.workplace i) a
    rw [workplaces_step_self, hf, own_modify]
    exact congrArg (Option.map f) (h i)
  · rw [workplaces_step_of_ne t a hij]
    exact h j

theorem worksAlone_step (h : t.WorksAlone) (turn : ι × Activity) :
    (t.step turn).WorksAlone ∧ (t.step turn).shared = t.shared := by
  obtain ⟨i, a⟩ := turn
  obtain ⟨own, hown⟩ := h i
  obtain ⟨f, hf, -⟩ := exists_modify_of_step (t.workplace i) a
  have hslot : (t.workplace i).client.desk.cache.own = some own := hown
  refine ⟨?_, ?_⟩
  · intro j
    by_cases hij : i = j
    · subst hij
      exact ⟨f own, by rw [workplaces_step_self, hf, own_modify, hslot, Option.map_some]⟩
    · rw [workplaces_step_of_ne t a hij]
      exact h j
  · have hgiven := congrArg CacheSlot.given hf
    rw [given_modify, hslot, if_neg (Option.some_ne_none own)] at hgiven
    exact hgiven

/-- Clients that work with the shared cache lose nothing of it, unless they are told to. -/
theorem contains_step (h : t.WorksTogether)
    (hkeeps : ∀ which, turn.2 ≠ .session (.invalidate which))
    (hkey : OrderedMap.contains key t.shared = true) :
    OrderedMap.contains key (t.step turn).shared = true := by
  obtain ⟨f, hf, hcases⟩ := exists_modify_of_step (t.workplace turn.1) turn.2
  have hslot : (t.workplace turn.1).client.desk.cache.own = none := h turn.1
  have hshared : (t.step turn).shared = f t.shared := by
    have hgiven := congrArg CacheSlot.given hf
    rw [given_modify, if_pos hslot] at hgiven
    exact hgiven
  rw [hshared]
  rcases hcases hkeeps with rfl | ⟨other, items, rfl⟩
  · exact hkey
  · rw [OrderedMap.contains, OrderedMap.get?_insert]
    split
    · rfl
    · exact hkey

end Steps

section Runs

theorem worksTogether_run (h : t.WorksTogether) (turns : List (ι × Activity)) :
    (t.run turns).WorksTogether := by
  induction turns generalizing t with
  | nil => exact h
  | cons turn turns ih => exact ih (worksTogether_step h turn)

theorem worksAlone_run (h : t.WorksAlone) (turns : List (ι × Activity)) :
    (t.run turns).WorksAlone ∧ (t.run turns).shared = t.shared := by
  induction turns generalizing t with
  | nil => exact ⟨h, rfl⟩
  | cons turn turns ih =>
      obtain ⟨halone, hshared⟩ := worksAlone_step h turn
      obtain ⟨hrun, hsame⟩ := ih halone
      exact ⟨hrun, hsame.trans hshared⟩

theorem contains_run (h : t.WorksTogether) (hturns : DropNothing turns)
    (hkey : OrderedMap.contains key t.shared = true) :
    OrderedMap.contains key (t.run turns).shared = true := by
  induction turns generalizing t with
  | nil => exact hkey
  | cons turn turns ih =>
      have hfirst := hturns turn List.mem_cons_self
      exact ih (worksTogether_step h turn)
        (fun next hnext => hturns next (List.mem_cons_of_mem _ hnext))
        (contains_step h hfirst hkey)

theorem workplaces_run_of_rests (h : Rests i turns) :
    (t.run turns).workplaces i = t.workplaces i := by
  induction turns generalizing t with
  | nil => rfl
  | cons turn turns ih =>
      have hfirst := h turn List.mem_cons_self
      refine (ih fun next hnext => h next (List.mem_cons_of_mem _ hnext)).trans ?_
      exact workplaces_step_of_ne t turn.2 hfirst

end Runs

section Calls

variable {c : Client} {q : SearchTerms} {root : String} {items : List Item}

theorem loadLasting_calls (calls : List Invocation) : LoadLasting fun d => d.calls = calls where
  loaded _ hd := hd

theorem calls_search_warm (hroot : rootOf c.desk.files q.root = .ok root)
    (hcached : OrderedMap.get? (Cache.key q.kind root) c.desk.cache.current = some items) :
    ((Client.search q false).run.run c).2.desk.calls = c.desk.calls := by
  have hlasting := loadLasting_calls c.desk.calls
  have hserve : ClientKeeps (fun d => d.calls = c.desk.calls)
      (Client.atDesk (Desk.rescore items) >>= fun items =>
        Client.atDesk (Desk.rank items q.query) >>= fun found =>
          Client.give (Argument.limited q.maxResults found)) :=
    (hlasting.keeps_rescore items).atDesk.bind (clientKeeps_answer q)
  rw [Client.search, DeskActions.run_bind_ok (resolveRoot_run hroot)]
  simp only [Bool.false_eq_true, if_false]
  rw [DeskActions.run_bind_ok (cached_run _ c), hcached]
  exact hserve c rfl

theorem calls_search_cold {refresh : Bool} {scan : Scan}
    (hroot : rootOf c.desk.files q.root = .ok root) (hcold : Cold c q root refresh)
    (hscan : c.desk.extractor.extract c.desk.tool q.kind root = .ok scan) :
    ((Client.search q refresh).run.run c).2.desk.calls = c.desk.calls ++ scan.invocations := by
  have hlasting := loadLasting_calls (c.desk.calls ++ scan.invocations)
  have hrest (occurrences : List Occurrence) :
      ClientKeeps (fun d => d.calls = c.desk.calls ++ scan.invocations) (do
        let items ← Client.atDesk (Desk.build root occurrences)
        Client.atDesk (Desk.keep (Cache.key q.kind root) items)
        Client.give
          (Argument.limited q.maxResults (← Client.atDesk (Desk.rank items q.query)))) := by
    refine (hlasting.keeps_build root occurrences).atDesk.bind fun items => ?_
    have hkeep : Keeps (fun d => d.calls = c.desk.calls ++ scan.invocations)
        (Desk.keep (Cache.key q.kind root) items) := fun _ hd => hd
    exact hkeep.atDesk.bind fun _ => clientKeeps_answer q items
  rw [search_eq_scanThenAnswer hroot hcold, scanThenAnswer,
    DeskActions.run_bind_ok (atDesk_run (DeskActions.extract_run_ok hscan))]
  exact hrest scan.occurrences _ rfl

theorem contains_search_cold {refresh : Bool} {found : List Item}
    (hroot : rootOf c.desk.files q.root = .ok root) (hcold : Cold c q root refresh)
    (hfound : ((Client.search q refresh).run.run c).1 = .ok found) :
    OrderedMap.contains (Cache.key q.kind root)
      ((Client.search q refresh).run.run c).2.desk.cache.current = true := by
  obtain ⟨d, hrun, hcache⟩ := search_cold_run hroot hcold
  rw [hrun] at hfound ⊢
  cases hlist : scannedList c.desk q.kind root with
  | error failure =>
      rw [hlist] at hfound
      cases hfound
  | ok items =>
      rw [hlist] at hcache
      rw [hcache, current_modify, OrderedMap.contains, OrderedMap.get?_insert, if_pos rfl]
      rfl

end Calls

section Turns

variable {q : SearchTerms} {root : String}

theorem calls_step_search (t : Team ι) (i : ι) (q : SearchTerms) (refresh : Bool) :
    (t.step (i, .search q refresh)).calls i =
      ((Client.search q refresh).run.run (t.workplace i).client).2.desk.calls := by
  rw [Team.calls, workplaces_step_self]
  rfl

theorem contains_step_search (h : t.WorksTogether) {refresh : Bool} {found : List Item}
    (hroot : rootOf (t.workplace i).client.desk.files q.root = .ok root)
    (hcold : Cold (t.workplace i).client q root refresh)
    (hfound : ((Client.search q refresh).run.run (t.workplace i).client).1 = .ok found) :
    OrderedMap.contains (Cache.key q.kind root) (t.step (i, .search q refresh)).shared = true := by
  have hscan := contains_search_cold hroot hcold hfound
  have hown := worksTogether_step h (i, .search q refresh) i
  rw [workplaces_step_self] at hown
  rw [← hscan]
  exact congrArg (fun own : Option Cache => OrderedMap.contains _ (own.getD _)) hown.symm

theorem calls_step_shared (h : t.WorksTogether)
    (hroot : rootOf (t.workplace i).client.desk.files q.root = .ok root)
    (hkey : OrderedMap.contains (Cache.key q.kind root) t.shared = true) :
    (t.step (i, .search q false)).calls i = t.calls i := by
  obtain ⟨items, hitems⟩ := Option.isSome_iff_exists.mp hkey
  rw [← current_of_worksTogether h i] at hitems
  rw [calls_step_search, calls_search_warm hroot hitems]
  rfl

theorem calls_step_alone {scan : Scan} (hown : (t.workplaces i).client.desk.cache.own = some [])
    (hroot : rootOf (t.workplace i).client.desk.files q.root = .ok root)
    (hscan : (t.workplaces i).client.desk.extractor.extract (t.workplaces i).client.desk.tool
      q.kind root = .ok scan) :
    (t.step (i, .search q false)).calls i = t.calls i ++ scan.invocations := by
  have hcurrent : (t.workplace i).client.desk.cache.current = [] :=
    congrArg (fun own : Option Cache => own.getD t.shared) hown
  have hcold : Cold (t.workplace i).client q root false := .inr (by rw [hcurrent]; rfl)
  rw [calls_step_search, calls_search_cold hroot hcold hscan]
  rfl

end Turns

/-- Clients that are handed a cache with lists in it share it. Once a scanning search of one client
has given an answer, the list is in the shared cache, whatever the clients do after that short of
dropping lists; and no client calls the search tool for that list again unless it asks for a fresh
one. Clients that are handed an empty cache leave it empty, and each makes calls of its own. -/
theorem cache_is_shared_unless_empty (hstart : t.Starts) {later : List (ι × Activity)}
    (hlater : DropNothing later) {q q' : SearchTerms} {refresh : Bool} {root : String}
    {found : List Item}
    (hroot : rootOf ((t.run turns).workplace i).client.desk.files q.root = .ok root)
    (hcold : Cold ((t.run turns).workplace i).client q root refresh)
    (hfound : ((Client.search q refresh).run.run ((t.run turns).workplace i).client).1 = .ok found)
    (hkind : q'.kind = q.kind)
    (hroot' : rootOf ((((t.run turns).step (i, .search q refresh)).run later).workplace
      j).client.desk.files q'.root = .ok root) :
    let scanned := ((t.run turns).step (i, .search q refresh)).run later
    (t.shared ≠ [] →
      OrderedMap.contains (Cache.key q.kind root) scanned.shared = true ∧
        (scanned.step (j, .search q' false)).calls j = scanned.calls j) ∧
    (t.shared = [] →
      scanned.shared = [] ∧
        (i ≠ j → Rests j turns → Rests j later → ∀ scan,
          (scanned.workplace j).client.desk.extractor.extract
              (scanned.workplace j).client.desk.tool q'.kind root = .ok scan →
            (scanned.step (j, .search q' false)).calls j =
              scanned.calls j ++ scan.invocations)) := by
  intro scanned
  refine ⟨fun hshared => ?_, fun hshared => ?_⟩
  · have htogether := worksTogether_run (worksTogether_of_starts hstart hshared) turns
    have hscanned := worksTogether_step htogether (i, .search q refresh)
    have hkey := contains_run hscanned hlater (contains_step_search htogether hroot hcold hfound)
    exact ⟨hkey, calls_step_shared (worksTogether_run hscanned later) hroot' (hkind ▸ hkey)⟩
  · have halone : t.WorksAlone := fun i => ⟨[], own_of_starts hstart hshared i⟩
    obtain ⟨hrun, hempty⟩ := worksAlone_run halone turns
    obtain ⟨hstep, hsame⟩ := worksAlone_step hrun (i, .search q refresh)
    have hend := (worksAlone_run hstep later).2
    refine ⟨(hend.trans hsame).trans (hempty.trans hshared), ?_⟩
    intro hij hbefore hafter scan hscan
    have hwork : scanned.workplaces j = t.workplaces j := by
      rw [show scanned.workplaces j = _ from workplaces_run_of_rests hafter,
        workplaces_step_of_ne _ _ hij, workplaces_run_of_rests hbefore]
    have hown : (scanned.workplaces j).client.desk.cache.own = some [] := by
      rw [hwork]
      exact own_of_starts hstart hshared j
    exact calls_step_alone hown hroot' hscan

section Sample

/-- Two clients that have just been handed a cache, with one class to be found. -/
def sampleTeam (shared : Cache) : Team Bool where
  shared := shared
  workplaces := fun _ =>
    let c := sampleClient "a.js:1:1:class A\n"
    ⟨{ c with desk := { c.desk with cache := .adopt shared } }, []⟩

/-- The second client finds what the first has scanned in a cache that held another list. -/
theorem cache_is_shared_unless_empty_sample :
    let t := sampleTeam [("all::/other", [])]
    let scanned := t.step (false, .search (sampleTerms "") false)
    OrderedMap.contains "all::/" scanned.shared = true ∧
      (scanned.step (true, .search (sampleTerms "a") false)).calls true = scanned.calls true := by
  intro t scanned
  have hok : ((Client.search (sampleTerms "") false).run.run
      (t.workplace false).client).1.toOption.isSome = true := by
    decide +kernel
  obtain ⟨found, hfound⟩ := Option.isSome_iff_exists.mp hok
  have hanswer : ((Client.search (sampleTerms "") false).run.run
      ((t.run []).workplace false).client).1 = .ok found :=
    Traversal.toOption_eq_some_iff.mp hfound
  have hstart : t.Starts := fun _ => rfl
  have hlater : DropNothing ([] : List (Bool × Activity)) := by simp [DropNothing]
  have hcold : Cold ((t.run []).workplace false).client (sampleTerms "") "/" false :=
    .inr (by decide +kernel)
  have hroot : rootOf ((t.run []).workplace false).client.desk.files (sampleTerms "").root =
      .ok "/" := rootOf_sample
  have hroot' : rootOf ((scanned.run []).workplace true).client.desk.files
      (sampleTerms "a").root = .ok "/" := rootOf_sample
  have hkind : (sampleTerms "a").kind = (sampleTerms "").kind := rfl
  have hshared := cache_is_shared_unless_empty hstart hlater hroot hcold hanswer hkind hroot'
  have hfull : t.shared ≠ [] := nofun
  have hkey : Cache.key (sampleTerms "").kind "/" = "all::/" := by decide
  simp only [hkey, Team.run, List.foldl_nil] at hshared
  exact hshared.1 hfull

/-- Clients that are handed one empty cache do not share it: what the first has scanned is not in
it, and the second scans again. -/
theorem empty_cache_is_not_shared :
    let t := (sampleTeam []).step (false, .search (sampleTerms "") false)
    OrderedMap.contains "all::/" t.shared = false ∧
      ((t.step (true, .search (sampleTerms "") false)).calls true).length =
        (t.calls true).length + 1 := by
  decide +kernel

end Sample

end SymbolSearch.Proofs.SharedCaches
