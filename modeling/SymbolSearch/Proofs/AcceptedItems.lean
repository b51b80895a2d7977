import SymbolSearch.Proofs.ClientSearch
import SymbolSearch.Proofs.FoundSymbols
import SymbolSearch.Proofs.PathResolution
import SymbolSearch.Proofs.Rescans

namespace SymbolSearch.Proofs.AcceptedItems

open ClientSearch
open DeskActions
open PathResolution
open Rescans
open Rescoring
open Tracker
open TrackerSteps

variable {a b i : Item} {d : Desk} {c : Client} {config : Config} {store : Store} {now cap : Int}
  {t t' : Tracker} {file : String} {symbol : Option String} {items old new : List Item}
  {files : FileTree}

section Keys

/-- An item whose symbol can be told from its key: it is not empty, and holds no number sign. -/
structure Keyed (i : Item) : Prop where
  symbol : i.symbol ≠ ""
  sign : '#' ∉ i.symbol.toList

theorem sign_not_mem_of_isForm {cs : List Char} (h : Identifier.isForm cs = true) : '#' ∉ cs := by
  intro hmem
  have hrest := List.all_eq_true.mp (FoundSymbols.all_isRest_of_isForm h) _ hmem
  exact absurd hrest (by decide)

theorem keyed_of_isCandidate (h : Identifier.isCandidate i.symbol.toList = true) : Keyed i := by
  have hform := (Bool.and_eq_true_iff.mp h).1
  refine ⟨?_, ?_⟩
  · intro hempty
    rw [hempty] at hform
    cases hform
  · split at hform
    · rename_i hfeed
      have hlast := List.dropLast_append_getLast? '\n' (beq_iff_eq.mp hfeed)
      rw [← hlast]
      simpa using sign_not_mem_of_isForm hform
    · exact sign_not_mem_of_isForm hform

theorem recencyKey_of_keyed (h : Keyed i) : i.recencyKey = i.path ++ "#" ++ i.symbol := by
  have hsymbol : (i.symbol == "") = false := beq_eq_false_iff_ne.mpr h.symbol
  rw [Item.recencyKey, recencyKey, hsymbol]
  rfl

theorem eq_nil_of_last_sign {xs ys x : List Char} (hxs : '#' ∉ xs)
    (h : '#' :: xs = x ++ '#' :: ys) : x = [] := by
  cases x with
  | nil => rfl
  | cons first x =>
      have htail : xs = x ++ '#' :: ys := (List.cons.inj h).2
      exact absurd (by simp [htail]) hxs

/-- A key tells the path and the symbol apart at its last number sign, whatever the path holds. -/
theorem path_symbol_of_recencyKey_eq (ha : Keyed a) (hb : Keyed b)
    (h : b.recencyKey = a.recencyKey) : b.path = a.path ∧ b.symbol = a.symbol := by
  rw [recencyKey_of_keyed ha, recencyKey_of_keyed hb] at h
  have hlists : b.path.toList ++ '#' :: b.symbol.toList =
      a.path.toList ++ '#' :: a.symbol.toList := by
    simpa [String.toList_append] using congrArg String.toList h
  have hpaths : b.path.toList = a.path.toList := by
    rcases List.append_eq_append_iff.mp hlists with ⟨x, hsplit, hrest⟩ | ⟨x, hsplit, hrest⟩
    · rw [hsplit, eq_nil_of_last_sign hb.sign hrest, List.append_nil]
    · rw [hsplit, eq_nil_of_last_sign ha.sign hrest, List.append_nil]
  rw [hpaths] at hlists
  have hsymbols := (List.cons.inj (List.append_cancel_left hlists)).2
  exact ⟨String.toList_inj.mp hpaths, String.toList_inj.mp hsymbols⟩

end Keys

section Recording

/-- A desk whose map of accesses can be read, and is below its cap. -/
structure HasRoom (d : Desk) : Prop where
  readable : Readable d
  room : ∃ cap, d.config.maxEntries = .int cap ∧ ((trackerOf d).entries.length : Int) < cap

theorem record_run_ok (h : Readable d) (hcap : d.config.maxEntries = .int cap) (file : String)
    (symbol : Option String) :
    (Desk.record file symbol).run.run d =
      (.ok (bumped (trackerOf d).entries (recencyKey file symbol) file d.now),
        recorded d file symbol) := by
  obtain ⟨notices, hload⟩ := exists_load_trackerOf h
  rw [record_run, record_eq, hload]
  simp only [hcap, overflow_int]

theorem length_bumpedMap_le (entries : OrderedMap String Entry) (now : Int) (file : String)
    (symbol : Option String) : (bumpedMap entries now file symbol).length ≤ entries.length + 1 := by
  have hkeys := OrderedMap.keys_insert (recencyKey file symbol)
    (bumped entries (recencyKey file symbol) file now) entries
  have hlength := congrArg List.length hkeys
  rw [OrderedMap.keys, List.length_map] at hlength
  rw [bumpedMap, hlength]
  split <;> simp [OrderedMap.keys]

theorem trackerOf_recorded (h : HasRoom d) (file : String) (symbol : Option String) :
    trackerOf (recorded d file symbol) =
      ⟨bumpedMap (trackerOf d).entries d.now file symbol, true⟩ := by
  obtain ⟨cap, hcap, hroom⟩ := h.room
  obtain ⟨notices, hload⟩ := exists_load_trackerOf h.readable
  have hlength := length_bumpedMap_le (trackerOf d).entries d.now file symbol
  have hnone :
      (((bumpedMap (trackerOf d).entries d.now file symbol).length : Int) - cap).toNat = 0 := by
    omega
  have hkept : (recorded d file symbol).tracker =
      ⟨bumpedMap (trackerOf d).entries d.now file symbol, true⟩ := by
    unfold recorded
    simp only [record_eq, hload, hcap, overflow_int, hnone]
    rfl
  rw [trackerOf, hkept, load_of_loaded rfl]

theorem get?_recorded (h : HasRoom d) (file : String) (symbol : Option String) (key : String) :
    OrderedMap.get? key (trackerOf (recorded d file symbol)).entries =
      if recencyKey file symbol = key then
        some (bumped (trackerOf d).entries (recencyKey file symbol) file d.now)
      else OrderedMap.get? key (trackerOf d).entries := by
  rw [trackerOf_recorded h]
  exact OrderedMap.get?_insert ..

theorem readable_recorded (h : HasRoom d) (file : String) (symbol : Option String) :
    Readable (recorded d file symbol) := by
  obtain ⟨cap, hcap, -⟩ := h.room
  obtain ⟨notices, hload⟩ := exists_load_trackerOf h.readable
  have hloaded : (recorded d file symbol).tracker.loaded = true := by
    unfold recorded
    simp only [record_eq, hload, hcap, overflow_int]
  exact ⟨_, load_of_loaded hloaded⟩

end Recording

section Scores

theorem score_run (h : Readable d) (file : String) (symbol : Option String) :
    (Desk.score file symbol).run.run d =
      ((trackerOf d).score d.config d.now (recencyKey file symbol), tracked d) := by
  rw [Desk.score, run_bind_ok (loadTracker_run h)]
  exact give_run _ _

/-- The number of times that a key was opened. -/
def countOf (t : Tracker) (key : String) : Int :=
  ((OrderedMap.get? key t.entries).map Entry.accessCount).getD 0

theorem facts_of_score {key : String} {s : Score} (h : t.score config now key = .ok s) :
    s.accessCount = countOf t key ∧
      s.lastAccessed = ((OrderedMap.get? key t.entries).map Entry.lastAccessed).getD 0 := by
  rw [Tracker.score] at h
  rw [countOf]
  cases hentry : OrderedMap.get? key t.entries with
  | none =>
      rw [hentry] at h
      obtain rfl := Except.ok.inj h
      exact ⟨rfl, rfl⟩
  | some e =>
      simp only [hentry] at h
      obtain ⟨value, -, hscore⟩ := Traversal.bind_eq_ok_iff.mp h
      obtain rfl := Except.ok.inj hscore
      exact ⟨rfl, rfl⟩

theorem score_congr {key : String}
    (h : OrderedMap.get? key t'.entries = OrderedMap.get? key t.entries) (config : Config)
    (now : Int) : t'.score config now key = t.score config now key := by
  rw [Tracker.score, Tracker.score, h]

theorem rescore_congr (h : ∀ i ∈ items, OrderedMap.get? i.recencyKey t'.entries =
    OrderedMap.get? i.recencyKey t.entries) (config : Config) (now : Int) :
    Ranking.rescore t' config now items = Ranking.rescore t config now items := by
  have hscores : (items.mapM fun item => do
      return item.withScore (.real (← t'.score config now item.recencyKey).score)) =
      (items.mapM fun item => do
        return item.withScore (.real (← t.score config now item.recencyKey).score) :
          Except Failure (List Item)) := by
    apply Traversal.mapM_congr
    intro i hi
    rw [score_congr (h i hi)]
  rw [Ranking.rescore, hscores, Ranking.rescore]

end Scores

section Places

/-- An item below a resolved root, in a file that a plain relative path names. -/
structure Located (files : FileTree) (i : Item) : Prop where
  root : ∃ path, files.resolve i.root = .ok path ∧ path.text = i.root
  parts : ∀ part ∈ Text.splitAt '/' i.file.toList, part ≠ [] ∧ part ≠ ['.'] ∧ part ≠ ['.', '.']
  null : Char.ofNat 0 ∉ i.file.toList

/-- The parts of a relative path. -/
def partsOf (file : String) : List String :=
  (Text.splitAt '/' file.toList).map String.ofList

theorem partsOf_ne_nil (file : String) : partsOf file ≠ [] := by
  rw [partsOf, splitAt_eq_splitOn, Ne, List.map_eq_nil_iff]
  exact List.splitOn_ne_nil _ _

theorem intercalate_partsOf (file : String) : String.intercalate "/" (partsOf file) = file := by
  apply String.toList_inj.mp
  rw [String.toList_intercalate, partsOf, List.map_map, splitAt_eq_splitOn]
  have hmap : (file.toList.splitOn '/').map (String.toList ∘ String.ofList) =
      file.toList.splitOn '/' := by
    simp [Function.comp_def]
  rw [hmap]
  exact List.intercalate_splitOn _

theorem intercalate_append_singleton (front : List String) (last : String) :
    ∃ before, String.intercalate "/" (front ++ [last]) = before ++ last := by
  cases front with
  | nil => exact ⟨"", by simp⟩
  | cons first front =>
      refine ⟨String.intercalate "/" (first :: front) ++ "/", ?_⟩
      rw [String.intercalate_append_of_ne_nil (by simp) (by simp), String.intercalate_singleton]

theorem endsWith_slash {path : Path} (h : IsResolved path) (hparts : path.parts ≠ []) :
    path.text.endsWith "/" = false := by
  obtain ⟨front, last, hsplit⟩ : ∃ front last, path.parts = front ++ [last] :=
    ⟨_, _, (List.dropLast_append_getLast hparts).symm⟩
  have hlast := (h.parts last (by simp [hsplit])).1
  obtain ⟨before, hbefore⟩ := intercalate_append_singleton front last
  apply String.Slice.endsWith_string_eq_false_iff.mpr
  rw [text_of_isResolved h, hsplit, hbefore, String.copy_toSlice]
  rintro ⟨rest, hrest⟩
  have hend : (rest ++ "/".toList).getLast? = ("/" ++ (before ++ last)).toList.getLast? :=
    congrArg List.getLast? hrest
  have hnonempty : last.toList ≠ [] := fun hnil => hlast.ne_empty (String.toList_eq_nil_iff.mp hnil)
  rw [String.toList_append, String.toList_append, ← List.append_assoc,
    List.getLast?_append_of_ne_nil _ hnonempty,
    List.getLast?_append_of_ne_nil _ (by decide)] at hend
  exact hlast.slash (List.mem_of_getLast? hend.symm)

theorem joinNames_eq_text {path : Path} (hpath : IsResolved path)
    (hfile : ∀ part ∈ partsOf file, IsComponent part) :
    joinNames path.text file = Path.text ⟨"/", path.parts ++ partsOf file⟩ := by
  have hrelative : ¬file.startsWith "/" = true := by
    intro hstarts
    have hhead := head?_intercalate_ne hfile
    rw [intercalate_partsOf] at hhead
    obtain ⟨rest, hrest⟩ := String.startsWith_string_iff.mp hstarts
    rw [← hrest] at hhead
    exact hhead rfl
  have hwhole : Path.text ⟨"/", path.parts ++ partsOf file⟩ =
      "/" ++ String.intercalate "/" (path.parts ++ partsOf file) := rfl
  have htext := text_of_isResolved hpath
  have hnonempty : (path.text == "") = false := by
    rw [beq_eq_false_iff_ne, htext]
    intro hempty
    exact absurd (congrArg String.toList hempty) (by simp [String.toList_append])
  rw [joinNames, if_neg hrelative, hnonempty, Bool.false_or, hwhole]
  by_cases hparts : path.parts = []
  · have hroot : path.text = "/" := by
      rw [htext, hparts]
      rfl
    have hends : path.text.endsWith "/" = true := by
      rw [hroot]
      exact String.Slice.endsWith_string_iff.mpr (by simp)
    rw [hends, if_pos rfl, hroot, hparts, List.nil_append, intercalate_partsOf]
  · rw [endsWith_slash hpath hparts, if_neg (by decide),
      String.intercalate_append_of_ne_nil hparts (partsOf_ne_nil file), intercalate_partsOf, htext,
      String.append_assoc, String.append_assoc, String.append_assoc]

theorem isComponent_of_mem_partsOf (h : Located files i) {part : String}
    (hpart : part ∈ partsOf i.file) :
    IsComponent part ∧ part ≠ ".." ∧ Char.ofNat 0 ∉ part.toList := by
  obtain ⟨piece, hpiece, rfl⟩ := List.mem_map.mp hpart
  obtain ⟨hempty, hdot, hdots⟩ := h.parts piece hpiece
  rw [splitAt_eq_splitOn] at hpiece
  obtain ⟨hslash, hsubset⟩ := of_mem_splitOn hpiece
  have hne {cs : List Char} {text : String} (hcs : piece ≠ cs) (htext : text.toList = cs) :
      String.ofList piece ≠ text := by
    rintro rfl
    rw [String.toList_ofList] at htext
    exact hcs htext
  refine ⟨⟨hne hempty rfl, hne hdot rfl, ?_⟩, hne hdots rfl, ?_⟩
  · rwa [String.toList_ofList]
  · rw [String.toList_ofList]
    exact fun hnull => h.null (hsubset hnull)

theorem resolve_path (h : Located files i) :
    ∃ path, files.resolve i.path = .ok path ∧ path.text = i.path := by
  obtain ⟨root, hresolve, htext⟩ := h.root
  have hroot := isResolved_of_resolve hresolve
  have hparts {part : String} (hpart : part ∈ partsOf i.file) := isComponent_of_mem_partsOf h hpart
  have hnonempty : (i.root == "") = false := by
    rw [← htext, text_of_isResolved hroot, beq_eq_false_iff_ne]
    intro hempty
    exact absurd (congrArg String.toList hempty) (by simp [String.toList_append])
  have hpath : i.path = Path.text ⟨"/", root.parts ++ partsOf i.file⟩ := by
    rw [Item.path, hnonempty, if_neg (by decide), ← htext]
    exact joinNames_eq_text hroot fun part hpart => (hparts hpart).1
  have hresolved : IsResolved ⟨"/", root.parts ++ partsOf i.file⟩ := by
    refine ⟨rfl, ?_⟩
    intro part hpart
    rcases List.mem_append.mp hpart with hpart | hpart
    · exact hroot.parts part hpart
    · exact ⟨(hparts hpart).1, (hparts hpart).2.1⟩
  have hfree : ∀ part ∈ root.parts ++ partsOf i.file, Char.ofNat 0 ∉ part.toList := by
    intro part hpart
    rcases List.mem_append.mp hpart with hpart | hpart
    · have hgiven := null_not_mem_parse (null_not_mem_of_resolve hresolve)
      rw [← htext, parse_text hroot] at hgiven
      exact hgiven part hpart
    · exact (hparts hpart).2.2
  refine ⟨_, ?_, hpath.symm⟩
  rw [hpath]
  exact resolve_of_isResolved hresolved hfree

end Places

section Accepting

/-- What it means to touch exactly one item at a desk: its entry counts one access more, at that
moment, and the score of an item changes only if it has the same path and the same symbol. -/
structure TouchesOnly (d : Desk) (a : Item) (e : Entry) (after : Desk) : Prop where
  entry : OrderedMap.get? a.recencyKey (trackerOf after).entries = some e
  count : e.accessCount = countOf (trackerOf d) a.recencyKey + 1
  time : e.lastAccessed = d.now
  /-- The count and the time are also what is read as parts of the score. -/
  reads {old new : Score}
    (hold : ((Desk.score a.path (some a.symbol)).run.run d).1 = .ok old)
    (hnew : ((Desk.score a.path (some a.symbol)).run.run after).1 = .ok new) :
    new.accessCount = old.accessCount + 1 ∧ new.lastAccessed = d.now
  /-- A list without the item gets the same scores as before, or fails to get them as before. -/
  others {items : List Item}
    (h : ∀ b ∈ items, Keyed b ∧ ¬(b.path = a.path ∧ b.symbol = a.symbol)) :
    ((Desk.rescore items).run.run after).1 = ((Desk.rescore items).run.run d).1
  /-- In any list, only the item itself can have another score than before. -/
  differing {items old new : List Item} (hitems : ∀ b ∈ items, Keyed b)
    (hold : ((Desk.rescore items).run.run d).1 = .ok old)
    (hnew : ((Desk.rescore items).run.run after).1 = .ok new) {b : Item}
    (hb : b ∈ old ∧ b ∉ new ∨ b ∈ new ∧ b ∉ old) : b.path = a.path ∧ b.symbol = a.symbol

theorem rescore_run_fst (h : Readable d) (items : List Item) :
    ((Desk.rescore items).run.run d).1 = Ranking.rescore (trackerOf d) d.config d.now items := by
  obtain ⟨notices, hload⟩ := exists_load_trackerOf h
  rw [rescore_run_eq, hload]

theorem mem_rescored_iff (h : Ranking.rescore t config now items = .ok new) :
    b ∈ new ↔ ∃ i ∈ items, restamped t config now i = b := by
  rw [eq_refreshed_of_rescore h, (refreshed_perm t config now items).mem_iff, List.mem_map]

theorem exists_key_apart (hold : Ranking.rescore t config now items = .ok old)
    (hnew : Ranking.rescore t' config now items = .ok new) (hb : b ∈ old) (hnot : b ∉ new) :
    ∃ i ∈ items, i.path = b.path ∧ i.symbol = b.symbol ∧
      OrderedMap.get? i.recencyKey t'.entries ≠ OrderedMap.get? i.recencyKey t.entries := by
  obtain ⟨i, hi, rfl⟩ := (mem_rescored_iff hold).mp hb
  refine ⟨i, hi, rfl, rfl, ?_⟩
  intro hsame
  apply hnot
  refine (mem_rescored_iff hnew).mpr ⟨i, hi, ?_⟩
  rw [restamped, recencyOf, score_congr hsame]
  rfl

/-- Two desks whose maps differ at the key of an item at most give other items the same scores. -/
theorem touchesOnly_of_get? {after : Desk} {e : Entry} (ha : Keyed a) (hd : Readable d)
    (hafter : Readable after) (hconfig : after.config = d.config) (hnow : after.now = d.now)
    (hcount : e.accessCount = countOf (trackerOf d) a.recencyKey + 1)
    (htime : e.lastAccessed = d.now)
    (hget : ∀ key, OrderedMap.get? key (trackerOf after).entries =
      if a.recencyKey = key then some e else OrderedMap.get? key (trackerOf d).entries) :
    TouchesOnly d a e after := by
  have hentry : OrderedMap.get? a.recencyKey (trackerOf after).entries = some e := by
    rw [hget, if_pos rfl]
  have hapart {b : Item} (hb : Keyed b)
      (hne : OrderedMap.get? b.recencyKey (trackerOf after).entries ≠
        OrderedMap.get? b.recencyKey (trackerOf d).entries) :
      b.path = a.path ∧ b.symbol = a.symbol := by
    apply path_symbol_of_recencyKey_eq ha hb
    by_contra hkey
    exact hne ((hget _).trans (if_neg fun heq => hkey heq.symm))
  refine ⟨hentry, hcount, htime, ?_, ?_, ?_⟩
  · intro old new hold hnew
    rw [score_run hd] at hold
    rw [score_run hafter] at hnew
    obtain ⟨hread, -⟩ := facts_of_score hold
    obtain ⟨hreread, hlast⟩ := facts_of_score hnew
    have hstored : OrderedMap.get? (recencyKey a.path (some a.symbol)) (trackerOf after).entries =
        some e := hentry
    rw [countOf, hstored] at hreread
    rw [hstored] at hlast
    refine ⟨?_, hlast.trans htime⟩
    rw [hread]
    exact hreread.trans hcount
  · intro items hitems
    rw [rescore_run_fst hd, rescore_run_fst hafter, hconfig, hnow]
    apply rescore_congr
    intro b hb
    obtain ⟨hkeyed, hother⟩ := hitems b hb
    by_contra hne
    exact hother (hapart hkeyed hne)
  · intro items old new hitems hold hnew b hb
    rw [rescore_run_fst hd] at hold
    rw [rescore_run_fst hafter, hconfig, hnow] at hnew
    rcases hb with ⟨hmem, hnot⟩ | ⟨hmem, hnot⟩
    · obtain ⟨i, hi, hpath, hsymbol, hne⟩ := exists_key_apart hold hnew hmem hnot
      rw [← hpath, ← hsymbol]
      exact hapart (hitems i hi) hne
    · obtain ⟨i, hi, hpath, hsymbol, hne⟩ := exists_key_apart hnew hold hmem hnot
      rw [← hpath, ← hsymbol]
      exact hapart (hitems i hi) hne.symm

theorem recordAccess_run {path : Path} {name : Json} {result : Except Failure Entry} {after : Desk}
    (hfile : c.desk.files.resolve file = .ok path)
    (hrecord : (Desk.record path.text (Argument.symbol name)).run.run c.desk = (result, after)) :
    (Client.recordAccess (.string file) name).run.run c = (result, { c with desk := after }) := by
  have hfound : pathOf c.desk.files (.string file) = .ok path.text := by
    simp only [pathOf, Argument.path, Except.bind, hfile]
  have hpath : (Client.resolveFile (.string file)).run.run c = (.ok path.text, c) := by
    rw [resolveFile_run, hfound]
  rw [Client.recordAccess, run_bind_ok hpath]
  exact atDesk_run hrecord

theorem recordAccess_run_unresolved {reason : PathError}
    (hfile : c.desk.files.resolve file = .error reason) (name : Json) :
    (Client.recordAccess (.string file) name).run.run c = (.error (.path reason), c) := by
  have hfound : pathOf c.desk.files (.string file) = .error (.path reason) := by
    simp only [pathOf, Argument.path, Except.bind, hfile]
  have hpath : (Client.resolveFile (.string file)).run.run c = (.error (.path reason), c) := by
    rw [resolveFile_run, hfound]
  exact run_bind_error hpath

/-- Accepting an item touches exactly that item. Where the map of accesses can be read and has room,
the access counts for the item alone: items with another path or another symbol keep their scores,
even if paths hold number signs. Recording the same symbol of the same file does the same, when the
item lies below a resolved root. -/
theorem accept_touches_only (hd : HasRoom d) (ha : Keyed a) :
    ∃ e, (Session.accept a).run.run d = (.ok e, recorded d a.path (some a.symbol)) ∧
      TouchesOnly d a e (recorded d a.path (some a.symbol)) ∧
      ∀ c : Client, c.desk = d → Located d.files a →
        (Client.recordAccess (.string a.path) (.string a.symbol)).run.run c =
          (.ok e, { c with desk := recorded d a.path (some a.symbol) }) := by
  obtain ⟨cap, hcap, -⟩ := hd.room
  have hrun := record_run_ok hd.readable hcap a.path (some a.symbol)
  refine ⟨_, hrun, ?_, ?_⟩
  · exact touchesOnly_of_get? ha hd.readable (readable_recorded hd _ _) rfl rfl
      (accessCount_bumped ..) (lastAccessed_bumped ..) (get?_recorded hd _ _)
  · rintro c rfl hlocated
    obtain ⟨path, hresolve, htext⟩ := resolve_path hlocated
    have hsymbol : Argument.symbol (.string a.symbol) = some a.symbol := by
      have hgiven : (Json.string a.symbol).isGiven = true := by
        simpa [Json.isGiven] using ha.symbol
      rw [Argument.symbol, if_pos hgiven]
      rfl
    apply recordAccess_run hresolve
    rw [htext, hsymbol]
    exact hrun

/-- A client with an empty map of accesses, at some moment. -/
def recordingClient : Client :=
  ⟨{ (sampleClient "").desk with now := 7 }, []⟩

/-- A class in a file below a directory with a number sign in its name. -/
def markedItem (file : String) : Item :=
  .ofOccurrence ⟨"Foo", file, 1, 7, 9, .classDecl⟩ "/w#"

theorem hasRoom_sample : HasRoom recordingClient.desk where
  readable := by decide +kernel
  room := ⟨1000, rfl, by decide +kernel⟩

theorem keyed_sample (file : String) : Keyed (markedItem file) := by
  apply keyed_of_isCandidate
  change Identifier.isCandidate "Foo".toList = true
  decide

theorem resolve_sample : sampleFiles.resolve "/w#" = .ok ⟨"/", ["w#"]⟩ := by
  decide +kernel

/-- Number signs in the directory and in the name of the file do no harm. -/
theorem accept_touches_only_sample :
    HasRoom recordingClient.desk ∧ Keyed (markedItem "a#b/c.js") ∧
      Located recordingClient.desk.files (markedItem "a#b/c.js") ∧
      ∃ e, OrderedMap.get? "/w#/a#b/c.js#Foo"
          (trackerOf (recorded recordingClient.desk "/w#/a#b/c.js" (some "Foo"))).entries = some e ∧
        e.accessCount = 1 ∧ e.lastAccessed = 7 ∧
        (Client.recordAccess (.string "/w#/a#b/c.js") (.string "Foo")).run.run recordingClient =
          (.ok e, { recordingClient with
            desk := recorded recordingClient.desk "/w#/a#b/c.js" (some "Foo") }) := by
  have hpath : (markedItem "a#b/c.js").path = "/w#/a#b/c.js" := by decide +kernel
  have hkey : (markedItem "a#b/c.js").recencyKey = "/w#/a#b/c.js#Foo" := by decide +kernel
  have hlocated : Located recordingClient.desk.files (markedItem "a#b/c.js") :=
    ⟨⟨_, resolve_sample, by decide +kernel⟩, by decide, by decide⟩
  obtain ⟨e, -, htouches, hclient⟩ := accept_touches_only hasRoom_sample (keyed_sample "a#b/c.js")
  have hcount := htouches.count
  have hentry := htouches.entry
  have hbefore :
      countOf (trackerOf recordingClient.desk) (markedItem "a#b/c.js").recencyKey = 0 := by
    decide +kernel
  rw [hbefore] at hcount
  rw [hkey, hpath] at hentry
  have hrun := hclient recordingClient rfl hlocated
  rw [hpath] at hrun
  exact ⟨hasRoom_sample, keyed_sample _, hlocated, e, hentry, hcount, htouches.time, hrun⟩

/-- A null character is part of a path for a session, but not for a client, which records
nothing. -/
theorem null_in_file_is_refused :
    let a := markedItem "a\x00b"
    HasRoom recordingClient.desk ∧ Keyed a ∧
      (∀ part ∈ Text.splitAt '/' a.file.toList, part ≠ [] ∧ part ≠ ['.'] ∧ part ≠ ['.', '.']) ∧
      recordingClient.desk.files.resolve a.root = .ok ⟨"/", ["w#"]⟩ ∧
      OrderedMap.get? a.recencyKey (trackerOf recordingClient.desk).entries = none ∧
      (OrderedMap.get? a.recencyKey
        (trackerOf ((Session.accept a).run.run recordingClient.desk).2).entries).isSome = true ∧
      (Client.recordAccess (.string a.path) (.string a.symbol)).run.run recordingClient =
        (.error (.path .embeddedNull), recordingClient) := by
  intro a
  refine ⟨hasRoom_sample, keyed_sample _, by decide, resolve_sample, by decide +kernel,
    by decide +kernel, ?_⟩
  have hpath : a.path = "/w#/a\x00b" := by decide +kernel
  have hresolve : sampleFiles.resolve "/w#/a\x00b" = .error .embeddedNull := by
    decide +kernel
  rw [hpath]
  exact recordAccess_run_unresolved (c := recordingClient) hresolve _

end Accepting

end SymbolSearch.Proofs.AcceptedItems
