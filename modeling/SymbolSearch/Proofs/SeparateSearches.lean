import SymbolSearch.Proofs.CacheKeys
import SymbolSearch.Proofs.ListSources
import SymbolSearch.Proofs.OccurrenceOrigins

namespace SymbolSearch.Proofs.SeparateSearches

open CacheHistory
open CacheKeys
open ClientSearch
open ListSources
open OccurrenceOrigins
open Rescans
open Rescoring
open Traversal

section Items

variable {d : Desk} {kind : Json} {root : String} {items : List Item} {i j : Item}

/-- An item belongs to a kind below a root at a desk: it has that root, and it comes from a rule
that the kind stands for there. -/
structure FoundAt (d : Desk) (kind : Json) (root : String) (i : Item) : Prop where
  below : i.root = root
  byRule : ∃ rules, d.extractor.rulesFor kind = .ok rules ∧ ∃ rule ∈ rules,
    ComesFrom d.extractor d.tool root rule i.toOccurrence

theorem FoundAt.withScore (h : FoundAt d kind root i) (score : Number) :
    FoundAt d kind root (i.withScore score) :=
  ⟨h.below, h.byRule⟩

theorem foundAt_of_scannedList (h : scannedList d kind root = .ok items) (hi : i ∈ items) :
    FoundAt d kind root i := by
  obtain ⟨scan, hscan, rfl⟩ := scannedList_eq_freshAt h
  obtain ⟨j, hj, hij⟩ := drawnFrom_refreshed _ _ _ _ i hi
  obtain ⟨o, ho, rfl⟩ := List.mem_map.mp hj
  obtain ⟨rules, hrules, rule, hrule, source, hsource, hresult⟩ :=
    mem_result_of_mem_extract hscan ho
  rw [hij]
  exact ⟨rfl, rules, hrules, rule, hrule, comesFrom_of_mem_result hsource hresult⟩

end Items

variable {w : Workplace} {activities : List Activity} {a : Activity} {kind : Json} {root : String}
  {items found : List Item} {s s' : Session}

/-- Where a list for a kind and a root has its items from, if it has any: from one list that was
brought in the course of a run, under the key of that kind and that root, and all of them belong
there at that moment. -/
inductive ScannedFor (w : Workplace) (activities : List Activity) (kind : Json) (root : String) :
    List Item → Prop
  | nothing : ScannedFor w activities kind root []
  | scanned {earlier later : List Activity} {a : Activity} {items whole : List Item}
      (hsplit : activities = earlier ++ a :: later)
      (hbrought : Publishes (w.run earlier) a (Cache.key kind root) whole)
      (hdrawn : DrawnFrom items whole)
      (hfound : ∀ i ∈ items, FoundAt (w.run earlier).client.desk kind root i) :
      ScannedFor w activities kind root items

theorem ScannedFor.snoc (h : ScannedFor w activities kind root items) (a : Activity) :
    ScannedFor w (activities ++ [a]) kind root items := by
  cases h with
  | nothing => exact .nothing
  | scanned hsplit hbrought hdrawn hfound =>
      subst hsplit
      exact .scanned (List.append_assoc ..) hbrought hdrawn hfound

theorem ScannedFor.of_drawnFrom (h : ScannedFor w activities kind root items)
    (hdrawn : DrawnFrom found items) : ScannedFor w activities kind root found := by
  cases h with
  | nothing =>
      obtain rfl : found = [] := by
        rw [List.eq_nil_iff_forall_not_mem]
        intro i hi
        obtain ⟨j, hj, -⟩ := hdrawn i hi
        cases hj
      exact .nothing
  | scanned hsplit hbrought hwhole hfound =>
      refine .scanned hsplit hbrought (hdrawn.trans hwhole) fun i hi => ?_
      obtain ⟨j, hj, hij⟩ := hdrawn i hi
      rw [hij]
      exact (hfound j hj).withScore i.score

/-- An activity that asks for symbols by plain selectors only, and makes sessions below absolute
roots only. -/
def AsksPlainly : Activity → Prop
  | .session (.create _ kind root _ _) => IsPlainKind kind ∧ IsAbsolute root
  | .search q _ => IsPlainKind q.kind
  | .searchStale q _ => IsPlainKind q.kind
  | _ => True

/-- A session with a plain kind below an absolute root, whose lists hold what was found for
these. -/
structure KeepsApart (w : Workplace) (activities : List Activity) (s : Session) : Prop where
  kind : IsPlainKind s.kind
  root : IsAbsolute s.root
  base : ScannedFor w activities s.kind s.root s.base
  items : ScannedFor w activities s.kind s.root s.items

theorem keepsApart_new (hkind : IsPlainKind kind) (hroot : IsAbsolute root) :
    KeepsApart w activities (Session.new kind root) :=
  ⟨hkind, hroot, .nothing, .nothing⟩

theorem KeepsApart.snoc (h : KeepsApart w activities s) (a : Activity) :
    KeepsApart w (activities ++ [a]) s :=
  ⟨h.kind, h.root, h.base.snoc a, h.items.snoc a⟩

/-- After a run, every list that is cached under the key of a kind and a root holds what was found
for these, and so do the lists of every session. -/
structure Apart (w : Workplace) (activities : List Activity) : Prop where
  cache : ∀ kind root items, IsPlainKind kind → IsAbsolute root →
    (w.run activities).entry (Cache.key kind root) = some items →
      ScannedFor w activities kind root items
  members : ∀ id m, OrderedMap.get? id (w.run activities).members = some m →
    KeepsApart w activities m.session
  background : ∀ s ∈ (w.run activities).client.background, KeepsApart w activities s

section Step

variable (h : Apart w activities) (ha : AsksPlainly a)

include h ha

/-- A list that is brought was scanned for a plain kind and an absolute root, and its key is the key
of these. -/
theorem Apart.scanned_of_publishes {key : String}
    (hbrought : Publishes (w.run activities) a key items) :
    ∃ kind root, IsPlainKind kind ∧ IsAbsolute root ∧ key = Cache.key kind root ∧
      scannedList (w.run activities).client.desk kind root = .ok items := by
  cases hbrought with
  | land hm hpending hsound hlist =>
      have hsession := h.members _ _ hm
      exact ⟨_, _, hsession.kind, hsession.root, rfl, hlist⟩
  | background hs hpending hlist =>
      have hsession := h.background _ (List.mem_of_getElem? hs)
      exact ⟨_, _, hsession.kind, hsession.root, rfl, hlist⟩
  | search hroot hcold hlist => exact ⟨_, _, ha, isAbsolute_of_rootOf hroot, rfl, hlist⟩
  | searchStale hroot hawaits hlist => exact ⟨_, _, ha, isAbsolute_of_rootOf hroot, rfl, hlist⟩

theorem Apart.scannedFor_of_publishes (hkind : IsPlainKind kind) (hroot : IsAbsolute root)
    (hbrought : Publishes (w.run activities) a (Cache.key kind root) items) :
    ScannedFor w (activities ++ [a]) kind root items := by
  obtain ⟨kind', root', hkind', hroot', hkey, hlist⟩ := h.scanned_of_publishes ha hbrought
  -- The key alone tells for what the list was scanned.
  obtain ⟨rfl, rfl⟩ := key_inj hkind hkind' hroot hroot' hkey
  exact .scanned rfl hbrought (drawnFrom_refl items) fun i hi => foundAt_of_scannedList hlist hi

theorem Apart.scannedFor_of_takes (hs : KeepsApart w activities s)
    (htakes : Takes (w.run activities) a s items) :
    ScannedFor w (activities ++ [a]) s.kind s.root items := by
  obtain ⟨whole, hoffers, hdrawn⟩ := htakes
  refine ScannedFor.of_drawnFrom ?_ hdrawn
  cases hoffers with
  | base => exact hs.base.snoc a
  | items => exact hs.items.snoc a
  | cached hlookup => exact (h.cache _ _ _ hs.kind hs.root hlookup).snoc a
  | brought hbrought => exact h.scannedFor_of_publishes ha hs.kind hs.root hbrought

theorem Apart.keepsApart_of_follows (hs : KeepsApart w activities s)
    (hfollows : Follows (w.run activities) a s s') : KeepsApart w (activities ++ [a]) s' := by
  obtain ⟨hkind, hroot, hbase, hitems⟩ := hfollows
  refine ⟨hkind ▸ hs.kind, hroot ▸ hs.root, ?_, ?_⟩
  · rw [hkind, hroot]
    exact h.scannedFor_of_takes ha hs hbase
  · rw [hkind, hroot]
    exact h.scannedFor_of_takes ha hs hitems

theorem Apart.cache_step (hkind : IsPlainKind kind) (hroot : IsAbsolute root)
    (hlookup : ((w.run activities).step a).entry (Cache.key kind root) = some items) :
    ScannedFor w (activities ++ [a]) kind root items := by
  by_cases htouches : Touches (w.run activities) a (Cache.key kind root)
  · rcases htouches with ⟨items', hbrought⟩ | hdrops
    · rw [entry_step_of_publishes hbrought, if_pos rfl] at hlookup
      cases hlookup
      exact h.scannedFor_of_publishes ha hkind hroot hbrought
    · rw [entry_step_of_drops hdrops] at hlookup
      cases hlookup
  · rw [entry_step_of_not_touches htouches] at hlookup
    exact (h.cache _ _ _ hkind hroot hlookup).snoc a

theorem Apart.step : Apart w (activities ++ [a]) := by
  refine ⟨?_, ?_, ?_⟩ <;> rw [run_snoc]
  · intro kind root items hkind hroot hlookup
    exact h.cache_step ha hkind hroot hlookup
  · intro id m hm
    rcases member_step hm with ⟨kind, root, announces, breakdown, rfl, hnew⟩ | ⟨m', hm', hfollows⟩
    · rw [hnew]
      exact keepsApart_new ha.1 ha.2
    · exact h.keepsApart_of_follows ha (h.members id m' hm') hfollows
  · intro s hs
    rcases background_step hs with hold | ⟨q, waitFresh, root, rfl, hroot, hfollows⟩
    · exact (h.background s hold).snoc a
    · have hnew : KeepsApart w activities (Session.new q.kind root) :=
        keepsApart_new ha (isAbsolute_of_rootOf hroot)
      exact h.keepsApart_of_follows ha hnew hfollows

end Step

theorem apart_run (hcache : w.client.desk.cache.current = [])
    (hbackground : w.client.background = []) (hmembers : w.members = [])
    (hplain : ∀ a ∈ activities, AsksPlainly a) : Apart w activities := by
  induction activities using List.reverseRecOn with
  | nil =>
      refine ⟨?_, ?_, ?_⟩
      · intro kind root items _ _ hlookup
        change OrderedMap.get? _ w.client.desk.cache.current = some items at hlookup
        rw [hcache] at hlookup
        cases hlookup
      · intro id m hm
        change OrderedMap.get? id w.members = some m at hm
        rw [hmembers] at hm
        cases hm
      · intro s hs
        change s ∈ w.client.background at hs
        rw [hbackground] at hs
        cases hs
  | append_singleton activities a ih =>
      have hearlier : Apart w activities := ih fun b hb => hplain b (by simp [hb])
      exact hearlier.step (hplain a (by simp))

theorem Apart.scannedFor_answer {q : SearchTerms} (h : Apart w activities) (ha : AsksPlainly a)
    (hkind : IsPlainKind q.kind)
    (htakes : ∃ root, rootOf (w.run activities).client.desk.files q.root = .ok root ∧
      Takes (w.run activities) a (Session.new q.kind root) found) :
    ∃ root, rootOf (w.run activities).client.desk.files q.root = .ok root ∧
      ScannedFor w (activities ++ [a]) q.kind root found := by
  obtain ⟨root, hroot, htakes⟩ := htakes
  have hnew : KeepsApart w activities (Session.new q.kind root) :=
    keepsApart_new hkind (isAbsolute_of_rootOf hroot)
  exact ⟨root, hroot, h.scannedFor_of_takes ha hnew htakes⟩

/-- Searches and sessions do not mix up what they find. Whatever they have done since the cache was
empty, as long as no selector looks like the beginning of a key, every session and every answer
holds only items with its own root, found by rules that its kind stood for when they were scanned.
Keys differ wherever kinds or roots do, and every root of a search is one that keys can tell. -/
theorem searches_stay_apart (hcache : w.client.desk.cache.current = [])
    (hbackground : w.client.background = []) (hmembers : w.members = [])
    (hplain : ∀ a ∈ activities, AsksPlainly a) :
    (∀ kind₁ kind₂ root₁ root₂, IsPlainKind kind₁ → IsPlainKind kind₂ → IsAbsolute root₁ →
      IsAbsolute root₂ → Cache.key kind₁ root₁ = Cache.key kind₂ root₂ →
        kind₁ = kind₂ ∧ root₁ = root₂) ∧
    (∀ files value root, rootOf files value = .ok root → IsAbsolute root) ∧
    (∀ id m, OrderedMap.get? id (w.run activities).members = some m →
      ScannedFor w activities m.session.kind m.session.root m.session.items) ∧
    (∀ s ∈ (w.run activities).client.background,
      ScannedFor w activities s.kind s.root s.items) ∧
    (∀ q refresh found, IsPlainKind q.kind →
      ((Client.search q refresh).run.run (w.run activities).client).1 = .ok found →
        ∃ root, rootOf (w.run activities).client.desk.files q.root = .ok root ∧
          ScannedFor w (activities ++ [.search q refresh]) q.kind root found) ∧
    ∀ q waitFresh found, IsPlainKind q.kind →
      ((Client.searchStale q waitFresh).run.run (w.run activities).client).1 = .ok found →
        ∃ root, rootOf (w.run activities).client.desk.files q.root = .ok root ∧
          ScannedFor w (activities ++ [.searchStale q waitFresh]) q.kind root found := by
  have hapart : Apart w activities := apart_run hcache hbackground hmembers hplain
  refine ⟨fun _ _ _ _ => key_inj, fun _ _ _ => isAbsolute_of_rootOf,
    fun id m hm => (hapart.members id m hm).items, fun s hs => (hapart.background s hs).items,
    ?_, ?_⟩
  · intro q refresh found hkind hfound
    exact hapart.scannedFor_answer hkind hkind (takes_of_search hfound)
  · intro q waitFresh found hkind hfound
    exact hapart.scannedFor_answer hkind hkind (takes_of_searchStale hfound)

section Sample

/-- A class is found for a session, and then there are no rules any more. -/
def apartActivities : List Activity :=
  [.session (.create "s" (.string "all") "/" true none), .session (.openSession "s"),
    .session (.land "s"), .setWorld (fun _ => .missing) sampleFiles (Catalog.ofRules [])]

theorem asksPlainly_apartActivities : ∀ a ∈ apartActivities, AsksPlainly a := by
  have hkind : IsPlainKind (.string "all") := ⟨"all", rfl, by decide⟩
  have hroot : IsAbsolute "/" := ⟨[], rfl⟩
  simp [apartActivities, AsksPlainly, hkind, hroot]

/-- A search still finds the class, which a rule of its kind found when there was one. -/
theorem searches_stay_apart_sample :
    (sampleWorkplace.run apartActivities).client.desk.extractor.rulesFor (.string "all") = .ok [] ∧
      ∃ found, ((Client.search (sampleTerms "") false).run.run
          (sampleWorkplace.run apartActivities).client).1 = .ok found ∧
        found.length = 1 ∧
        ScannedFor sampleWorkplace (apartActivities ++ [.search (sampleTerms "") false])
          (.string "all") "/" found := by
  have hlength : (((Client.search (sampleTerms "") false).run.run
      (sampleWorkplace.run apartActivities).client).1.toOption.map List.length) = some 1 := by
    decide +kernel
  obtain ⟨found, hfound, hone⟩ := Option.map_eq_some_iff.mp hlength
  rw [toOption_eq_some_iff] at hfound
  obtain ⟨-, -, -, -, hsearches, -⟩ :=
    searches_stay_apart (w := sampleWorkplace) rfl rfl rfl asksPlainly_apartActivities
  obtain ⟨root, hroot, hscanned⟩ :=
    hsearches (sampleTerms "") false found ⟨"all", rfl, by decide⟩ hfound
  obtain rfl : "/" = root := Except.ok.inj (rootOf_sample.symm.trans hroot)
  exact ⟨rfl, found, hfound, hone, hscanned⟩

end Sample

end SymbolSearch.Proofs.SeparateSearches
