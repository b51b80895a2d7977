import Mathlib.Data.List.Chain
import Mathlib.Data.List.DropRight
import Mathlib.Data.Finset.Card
import Mathlib.Order.Bounds.Basic
import SymbolSearch.Recency.Entry

namespace SymbolSearch.Proofs.AccessHistory

/-- One access: when a file, or a symbol in a file, was opened. -/
structure Access where
  time : Int
  file : String
  symbol : Option String

/-- The key that an access counts for. -/
def Access.key (a : Access) : String :=
  recencyKey a.file a.symbol

/-- The keys of a history of accesses, the earliest first. -/
def accessed (h : List Access) : List String :=
  h.map Access.key

/-- How many distinct keys are accessed. -/
def distinctKeys (h : List Access) : Nat :=
  (accessed h).toFinset.card

/-- How many distinct keys other than the given one are accessed. -/
def otherKeys (key : String) (h : List Access) : Nat :=
  ((accessed h).toFinset.erase key).card

/-- The time of the latest access to a key. -/
def latest? (h : List Access) (key : String) : Option Int :=
  (h.reverse.find? fun a => a.key = key).map Access.time

/-- Where in a history a key is accessed, the earliest place first. -/
def places (key : String) (h : List Access) : List Nat :=
  (accessed h).idxsOf key

/-- What is accessed after one place of a history and before another. -/
def between (h : List Access) (i j : Nat) : List Access :=
  (h.take j).drop (i + 1)

/-- The latest `m` accesses to a key are a run: between two neighbours fewer than `cap` distinct
other keys are accessed. -/
def IsRun (cap : Nat) (key : String) (h : List Access) (m : Nat) : Prop :=
  m ≤ (places key h).length ∧
    ((places key h).rtake m).IsChain fun i j => otherKeys key (between h i j) < cap

instance (cap : Nat) (key : String) (h : List Access) (m : Nat) :
    Decidable (IsRun cap key h m) :=
  inferInstanceAs (Decidable (_ ∧ _))

/-- The length of the longest run of a key. -/
def IsLongestRun (cap : Nat) (key : String) (h : List Access) (m : Nat) : Prop :=
  IsGreatest {n | IsRun cap key h n} m

/-- The distinct keys of a history in the order of their latest accesses. -/
def byRecency (h : List Access) : List String :=
  (accessed h).dedup

/-- Fewer than `cap` distinct other keys are accessed after the latest access to a key. -/
def Recent (cap : Nat) (key : String) (h : List Access) : Prop :=
  ∃ i, (places key h).getLast? = some i ∧ otherKeys key (h.drop (i + 1)) < cap

variable {cap : Nat} {key : String} {h : List Access} {a : Access}

@[simp] theorem accessed_append (h h' : List Access) :
    accessed (h ++ h') = accessed h ++ accessed h' :=
  List.map_append

@[simp] theorem accessed_cons (a : Access) (h : List Access) :
    accessed (a :: h) = a.key :: accessed h := rfl

@[simp] theorem accessed_nil : accessed [] = [] := rfl

theorem notMem_accessed_concat :
    key ∉ accessed (h ++ [a]) ↔ key ∉ accessed h ∧ a.key ≠ key := by
  simp [eq_comm]

theorem exists_latest (hkey : key ∈ accessed h) :
    ∃ before a after, h = before ++ a :: after ∧ a.key = key ∧ key ∉ accessed after := by
  induction h using List.reverseRecOn with
  | nil => simp at hkey
  | append_singleton h b ih =>
      by_cases hb : b.key = key
      · exact ⟨h, b, [], rfl, hb, by simp⟩
      · have hold : key ∈ accessed h := by
          simpa [Ne.symm hb] using hkey
        obtain ⟨before, a, after, rfl, ha, hafter⟩ := ih hold
        exact ⟨before, a, after ++ [b], by simp, ha, notMem_accessed_concat.mpr ⟨hafter, hb⟩⟩

section Latest

theorem latest?_concat (h : List Access) (a : Access) (key : String) :
    latest? (h ++ [a]) key = if a.key = key then some a.time else latest? h key := by
  rw [latest?, List.reverse_append]
  by_cases ha : a.key = key <;> simp [latest?, ha]

theorem exists_latest? (hkey : key ∈ accessed h) : ∃ time, latest? h key = some time := by
  induction h using List.reverseRecOn with
  | nil => simp at hkey
  | append_singleton h a ih =>
      rw [latest?_concat]
      split
      · exact ⟨_, rfl⟩
      · rename_i ha
        exact ih (by simpa [Ne.symm ha] using hkey)

theorem mem_of_latest? {time : Int} (htime : latest? h key = some time) :
    ∃ a ∈ h, a.key = key ∧ a.time = time := by
  obtain ⟨a, hfind, rfl⟩ := Option.map_eq_some_iff.mp htime
  refine ⟨a, List.mem_reverse.mp (List.mem_of_find?_eq_some hfind), ?_, rfl⟩
  simpa using List.find?_some hfind

end Latest

section Places

theorem places_concat (h : List Access) (a : Access) (key : String) :
    places key (h ++ [a]) = places key h ++ if a.key = key then [h.length] else [] := by
  rw [places, accessed_append, List.idxsOf_append]
  by_cases ha : a.key = key <;> simp [places, accessed, List.idxsOf, List.findIdxs_cons, ha]

theorem lt_length_of_mem_places {i : Nat} (hi : i ∈ places key h) : i < h.length := by
  induction h using List.reverseRecOn with
  | nil => simp [places, List.idxsOf] at hi
  | append_singleton h a ih =>
      rw [places_concat, List.mem_append] at hi
      rw [List.length_append, List.length_singleton]
      rcases hi with hi | hi
      · exact Nat.lt_succ_of_lt (ih hi)
      · split at hi
        · simp at hi
          omega
        · simp at hi

theorem places_eq_nil (hkey : key ∉ accessed h) : places key h = [] := by
  induction h using List.reverseRecOn with
  | nil => simp [places, List.idxsOf]
  | append_singleton h a ih =>
      obtain ⟨hrest, ha⟩ := notMem_accessed_concat.mp hkey
      rw [places_concat, ih hrest, if_neg ha, List.append_nil]

theorem getLast?_places_of_split {before after : List Access} (ha : a.key = key)
    (hafter : key ∉ accessed after) :
    (places key (before ++ a :: after)).getLast? = some before.length := by
  induction after using List.reverseRecOn with
  | nil => simp [places_concat, ha]
  | append_singleton after b ih =>
      obtain ⟨hrest, hb⟩ := notMem_accessed_concat.mp hafter
      rw [← List.cons_append, ← List.append_assoc, places_concat, if_neg hb, List.append_nil]
      exact ih hrest

end Places

section Order

theorem nodup_byRecency (h : List Access) : (byRecency h).Nodup :=
  List.nodup_dedup _

@[simp] theorem mem_byRecency : key ∈ byRecency h ↔ key ∈ accessed h :=
  List.mem_dedup

theorem length_byRecency (h : List Access) : (byRecency h).length = distinctKeys h :=
  (List.card_toFinset _).symm

theorem byRecency_concat (h : List Access) (a : Access) :
    byRecency (h ++ [a]) = (byRecency h).filter (· ≠ a.key) ++ [a.key] := by
  rw [byRecency, byRecency, accessed_append]
  generalize accessed h = keys
  -- Of repeated keys the last one stays, so the first key decides each step of the induction.
  induction keys with
  | nil => simp
  | cons k keys ih =>
      have ih' : (keys ++ [a.key]).dedup = keys.dedup.filter (· ≠ a.key) ++ [a.key] := ih
      by_cases hk : k ∈ keys
      · rw [List.dedup_cons_of_mem hk, List.cons_append, accessed_cons, accessed_nil,
          List.dedup_cons_of_mem (List.mem_append_left _ hk)]
        exact ih'
      · by_cases hka : k = a.key
        · subst hka
          rw [List.dedup_cons_of_notMem hk, List.cons_append, accessed_cons, accessed_nil,
            List.dedup_cons_of_mem (by simp), ih']
          simp
        · rw [List.dedup_cons_of_notMem hk, List.cons_append, accessed_cons, accessed_nil,
            List.dedup_cons_of_notMem (by simp [hk, hka]), ih']
          simp [hka]

/-- Behind a key stand those accessed after its latest access. -/
theorem byRecency_of_split (before : List Access) {after : List Access} (ha : a.key = key)
    (hafter : key ∉ accessed after) :
    key :: byRecency after <:+ byRecency (before ++ a :: after) := by
  have hdedup : (accessed (a :: after)).dedup = key :: byRecency after := by
    rw [accessed_cons, ha, List.dedup_cons_of_notMem hafter]
    rfl
  have hsplit : byRecency (before ++ a :: after) = accessed before ∪ key :: byRecency after := by
    rw [← hdedup, ← List.dedup_append, ← accessed_append]
    rfl
  rw [hsplit]
  exact List.suffix_union_right _ _

theorem otherKeys_eq_distinctKeys (hkey : key ∉ accessed h) :
    otherKeys key h = distinctKeys h := by
  rw [otherKeys, distinctKeys, Finset.erase_eq_of_notMem (by simpa using hkey)]

theorem pairwise_byRecency (htimes : h.Pairwise fun a b => a.time < b.time) :
    (byRecency h).Pairwise fun k k' =>
      ∀ t ∈ latest? h k, ∀ t' ∈ latest? h k', t < t' := by
  induction h using List.reverseRecOn with
  | nil => simp [byRecency]
  | append_singleton h a ih =>
      obtain ⟨hold, -, hnew⟩ := List.pairwise_append.mp htimes
      rw [byRecency_concat, List.pairwise_append]
      refine ⟨?_, by simp, ?_⟩
      · refine ((ih hold).filter (fun k => decide (k ≠ a.key))).imp_of_mem ?_
        intro k k' hk hk' hlt
        have hne : a.key ≠ k := Ne.symm (of_decide_eq_true (List.mem_filter.mp hk).2)
        have hne' : a.key ≠ k' := Ne.symm (of_decide_eq_true (List.mem_filter.mp hk').2)
        simpa only [latest?_concat, if_neg hne, if_neg hne'] using hlt
      · intro k hk k' hk'
        obtain rfl := List.mem_singleton.mp hk'
        have hne : a.key ≠ k := Ne.symm (of_decide_eq_true (List.mem_filter.mp hk).2)
        rw [latest?_concat, latest?_concat, if_neg hne, if_pos rfl]
        intro t ht t' ht'
        obtain rfl := Option.mem_some_iff.mp ht'
        obtain ⟨b, hb, -, rfl⟩ := mem_of_latest? ht
        exact hnew b hb a (by simp)

end Order

section Window

theorem rtake_suffix {α : Type} (n : Nat) (l : List α) : l.rtake n <:+ l :=
  List.drop_suffix _ _

theorem length_rtake {α : Type} (n : Nat) (l : List α) : (l.rtake n).length = min n l.length := by
  rw [List.rtake, List.length_drop]
  omega

theorem rtake_eq_of_suffix {α : Type} {n : Nat} {s l : List α} (hs : s <:+ l)
    (hlength : min n l.length ≤ s.length) : s.rtake n = l.rtake n := by
  have hle := hs.length_le
  have hsuffix : s.rtake n <:+ l := (rtake_suffix n s).trans hs
  refine (List.suffix_of_suffix_length_le hsuffix (rtake_suffix n l) ?_).eq_of_length ?_
  · rw [length_rtake, length_rtake]
    omega
  · rw [length_rtake, length_rtake]
    omega

theorem mem_rtake_byRecency : key ∈ (byRecency h).rtake cap ↔ Recent cap key h := by
  by_cases hkey : key ∈ accessed h
  · obtain ⟨before, a, after, rfl, ha, hafter⟩ := exists_latest hkey
    have hlast : (places key (before ++ a :: after)).getLast? = some before.length :=
      getLast?_places_of_split ha hafter
    have hrecent : Recent cap key (before ++ a :: after) ↔ (byRecency after).length < cap := by
      have hdrop : (before ++ a :: after).drop (before.length + 1) = after := by simp
      rw [Recent, hlast]
      simp only [Option.some.injEq, exists_eq_left', hdrop, otherKeys_eq_distinctKeys hafter,
        length_byRecency]
    obtain ⟨front, hfront⟩ := byRecency_of_split before ha hafter
    have hnodup : (front ++ key :: byRecency after).Nodup := hfront ▸ nodup_byRecency _
    rw [hrecent, ← hfront]
    constructor
    · intro hmem
      by_contra hlong
      -- The end of the order is then an end of what was accessed after the key.
      have hend : (front ++ key :: byRecency after).rtake cap <:+ byRecency after := by
        refine List.suffix_of_suffix_length_le (rtake_suffix _ _)
          ⟨front ++ [key], by simp⟩ ?_
        rw [length_rtake]
        omega
      have hmem' : key ∈ byRecency after := hend.subset hmem
      exact hafter (mem_byRecency.mp hmem')
    · intro hshort
      have hend : key :: byRecency after <:+ (front ++ key :: byRecency after).rtake cap := by
        refine List.suffix_of_suffix_length_le ⟨front, rfl⟩ (rtake_suffix _ _) ?_
        rw [length_rtake]
        simp only [List.length_cons, List.length_append]
        omega
      exact hend.subset (by simp)
  · constructor
    · intro hmem
      exact absurd (mem_byRecency.mp ((rtake_suffix _ _).subset hmem)) hkey
    · rintro ⟨i, hi, -⟩
      rw [places_eq_nil hkey] at hi
      simp at hi

end Window

section Runs

theorem between_concat {i j : Nat} (hj : j ≤ h.length) :
    between (h ++ [a]) i j = between h i j := by
  rw [between, between, List.take_append_of_le_length hj]

theorem isChain_rtake_places_concat (m : Nat) :
    ((places key h).rtake m).IsChain
        (fun i j => otherKeys key (between (h ++ [a]) i j) < cap) ↔
      ((places key h).rtake m).IsChain fun i j => otherKeys key (between h i j) < cap := by
  apply List.IsChain.iff_of_mem_imp
  intro i j _ hj
  have hlt : j < h.length := lt_length_of_mem_places ((rtake_suffix _ _).subset hj)
  rw [between_concat hlt.le]

theorem isRun_concat_of_ne (ha : a.key ≠ key) (m : Nat) :
    IsRun cap key (h ++ [a]) m ↔ IsRun cap key h m := by
  rw [IsRun, IsRun, places_concat, if_neg ha, List.append_nil, isChain_rtake_places_concat]

theorem isRun_concat_succ (ha : a.key = key) (m : Nat) :
    IsRun cap key (h ++ [a]) (m + 1) ↔
      IsRun cap key h m ∧ (m = 0 ∨ Recent cap key h) := by
  have hplaces : places key (h ++ [a]) = places key h ++ [h.length] := by
    rw [places_concat, if_pos ha]
  have hbetween (i : Nat) : between (h ++ [a]) i h.length = h.drop (i + 1) := by
    simp [between]
  -- The new place comes last: the chain grows by the one link from the latest place before it.
  rw [IsRun, IsRun, hplaces, List.rtake_concat_succ, List.isChain_append,
    isChain_rtake_places_concat]
  simp only [List.length_append, List.length_singleton, Nat.add_le_add_iff_right,
    List.isChain_singleton, true_and, List.head?_cons, Option.mem_def, Option.some.injEq,
    forall_eq', hbetween, and_assoc]
  apply and_congr_right
  intro hm
  apply and_congr_right
  intro _
  cases m with
  | zero => simp
  | succ m =>
      have hlast : ((places key h).rtake (m + 1)).getLast? = (places key h).getLast? := by
        rw [List.rtake, List.getLast?_drop, if_neg (by omega)]
      have hsome : ∃ i, (places key h).getLast? = some i := by
        refine ⟨(places key h).getLast (List.ne_nil_of_length_pos (by omega)), ?_⟩
        exact List.getLast?_eq_some_getLast _
      obtain ⟨i, hi⟩ := hsome
      rw [hlast, Recent, hi]
      simp

theorem isRun_zero (cap : Nat) (key : String) (h : List Access) : IsRun cap key h 0 :=
  ⟨Nat.zero_le _, by simp⟩

theorem isLongestRun_concat_of_ne (ha : a.key ≠ key) {m : Nat} :
    IsLongestRun cap key (h ++ [a]) m ↔ IsLongestRun cap key h m := by
  simp only [IsLongestRun, isRun_concat_of_ne ha]

theorem isLongestRun_concat_of_recent (ha : a.key = key) (hrecent : Recent cap key h) {m : Nat}
    (hm : IsLongestRun cap key h m) : IsLongestRun cap key (h ++ [a]) (m + 1) := by
  refine ⟨(isRun_concat_succ ha m).mpr ⟨hm.1, Or.inr hrecent⟩, ?_⟩
  intro n hn
  cases n with
  | zero => omega
  | succ n =>
      have hle : n ≤ m := hm.2 ((isRun_concat_succ ha n).mp hn).1
      omega

theorem isLongestRun_concat_of_not_recent (ha : a.key = key) (hrecent : ¬ Recent cap key h) :
    IsLongestRun cap key (h ++ [a]) 1 := by
  refine ⟨(isRun_concat_succ ha 0).mpr ⟨isRun_zero cap key h, Or.inl rfl⟩, ?_⟩
  intro n hn
  cases n with
  | zero => omega
  | succ n =>
      rcases ((isRun_concat_succ ha n).mp hn).2 with hzero | hmem
      · omega
      · exact absurd hmem hrecent

example :
    let h : List Access := [⟨1, "a", none⟩, ⟨2, "b", none⟩, ⟨3, "a", none⟩, ⟨4, "b", none⟩,
      ⟨5, "c", none⟩, ⟨6, "a", none⟩, ⟨7, "a", none⟩]
    IsRun 2 "a" h 2 ∧ ¬ IsRun 2 "a" h 3 ∧ IsRun 3 "a" h 4 := by
  decide

end Runs

end SymbolSearch.Proofs.AccessHistory
