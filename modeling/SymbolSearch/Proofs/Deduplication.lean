import SymbolSearch.Occurrence

namespace SymbolSearch.Proofs.Deduplication

/-- The occurrence that is kept of two with one key, the first of which came earlier. -/
def prefer (earlier : Option Occurrence) (o : Occurrence) : Option Occurrence :=
  match earlier with
  | none => some o
  | some other => if other.kind.precedence < o.kind.precedence then some o else some other

/-- The occurrences of one key, in order. -/
def ofKey (key : String × Int × String) (occurrences : List Occurrence) : List Occurrence :=
  occurrences.filter fun o => o.key = key

theorem ofKey_append (key : String × Int × String) (xs ys : List Occurrence) :
    ofKey key (xs ++ ys) = ofKey key xs ++ ofKey key ys :=
  List.filter_append ..

theorem get?_keep (key : String × Int × String)
    (kept : OrderedMap (String × Int × String) Occurrence) (o : Occurrence) :
    OrderedMap.get? key (Occurrence.keep kept o) =
      if o.key = key then prefer (OrderedMap.get? key kept) o else OrderedMap.get? key kept := by
  by_cases hkey : o.key = key
  · subst hkey
    cases hget : OrderedMap.get? o.key kept with
    | none => simp [Occurrence.keep, hget, prefer, OrderedMap.get?_insert]
    | some other =>
        by_cases hprecedence : other.kind.precedence < o.kind.precedence
        · simp [Occurrence.keep, hget, prefer, hprecedence, OrderedMap.get?_insert]
        · simp [Occurrence.keep, hget, prefer, hprecedence]
  · cases hget : OrderedMap.get? o.key kept with
    | none => simp [Occurrence.keep, hget, hkey, OrderedMap.get?_insert]
    | some other =>
        by_cases hprecedence : other.kind.precedence < o.kind.precedence
        · simp [Occurrence.keep, hget, hprecedence, hkey, OrderedMap.get?_insert]
        · simp [Occurrence.keep, hget, hprecedence, hkey]

/-- Keys do not interfere: what is kept under a key depends on the occurrences of that key alone. -/
theorem get?_foldl_keep (key : String × Int × String) (occurrences : List Occurrence)
    (kept : OrderedMap (String × Int × String) Occurrence) :
    OrderedMap.get? key (occurrences.foldl Occurrence.keep kept) =
      (ofKey key occurrences).foldl prefer (OrderedMap.get? key kept) := by
  induction occurrences generalizing kept with
  | nil => rfl
  | cons o rest ih =>
      rw [List.foldl_cons, ih, get?_keep]
      by_cases hkey : o.key = key
      · simp [ofKey, hkey]
      · simp [ofKey, hkey]

theorem nodup_keys_keep {kept : OrderedMap (String × Int × String) Occurrence}
    (h : (OrderedMap.keys kept).Nodup) (o : Occurrence) :
    (OrderedMap.keys (Occurrence.keep kept o)).Nodup := by
  unfold Occurrence.keep
  split
  · exact OrderedMap.nodup_keys_insert _ _ h
  · split
    · exact OrderedMap.nodup_keys_insert _ _ h
    · exact h

theorem nodup_keys_foldl_keep (occurrences : List Occurrence)
    {kept : OrderedMap (String × Int × String) Occurrence} (h : (OrderedMap.keys kept).Nodup) :
    (OrderedMap.keys (occurrences.foldl Occurrence.keep kept)).Nodup := by
  induction occurrences generalizing kept with
  | nil => exact h
  | cons o rest ih => exact ih (nodup_keys_keep h o)

theorem key_of_foldl_prefer {key : String × Int × String} {occurrences : List Occurrence}
    (hkeys : ∀ o ∈ occurrences, o.key = key) {earlier : Option Occurrence}
    (hearlier : ∀ o ∈ earlier, o.key = key) :
    ∀ o ∈ occurrences.foldl prefer earlier, o.key = key := by
  induction occurrences generalizing earlier with
  | nil => exact hearlier
  | cons o rest ih =>
      apply ih (fun o' ho' => hkeys o' (List.mem_cons_of_mem _ ho'))
      intro o' ho'
      have hkey : o.key = key := hkeys o List.mem_cons_self
      cases earlier with
      | none =>
          obtain rfl : o = o' := by simpa [prefer] using ho'
          exact hkey
      | some other =>
          have hother : other.key = key := hearlier other rfl
          simp only [prefer] at ho'
          split at ho'
          · obtain rfl : o = o' := by simpa using ho'
            exact hkey
          · obtain rfl : other = o' := by simpa using ho'
            exact hother

theorem key_of_mem_foldl_keep {occurrences : List Occurrence}
    {entry : (String × Int × String) × Occurrence}
    (h : entry ∈ occurrences.foldl Occurrence.keep []) : entry.2.key = entry.1 := by
  obtain ⟨key, o⟩ := entry
  have hnodup : (OrderedMap.keys (occurrences.foldl Occurrence.keep [])).Nodup :=
    nodup_keys_foldl_keep occurrences List.nodup_nil
  have hget := (OrderedMap.get?_eq_some_iff hnodup).mpr h
  rw [get?_foldl_keep] at hget
  have hkeys : ∀ o' ∈ ofKey key occurrences, o'.key = key := by
    intro o' ho'
    simpa using (List.mem_filter.mp ho').2
  exact key_of_foldl_prefer hkeys (by simp) o hget

theorem map_key_deduplicate (occurrences : List Occurrence) :
    (Occurrence.deduplicate occurrences).map Occurrence.key =
      OrderedMap.keys (occurrences.foldl Occurrence.keep []) := by
  rw [Occurrence.deduplicate, OrderedMap.values, OrderedMap.keys, List.map_map]
  apply List.map_congr_left
  intro entry hentry
  exact key_of_mem_foldl_keep hentry

theorem nodup_key_deduplicate (occurrences : List Occurrence) :
    ((Occurrence.deduplicate occurrences).map Occurrence.key).Nodup := by
  rw [map_key_deduplicate]
  exact nodup_keys_foldl_keep occurrences List.nodup_nil

/-- Lists in which each key has the same occurrences in the same order keep the same ones. -/
theorem deduplicate_perm {xs ys : List Occurrence} (h : ∀ key, ofKey key xs = ofKey key ys) :
    (Occurrence.deduplicate xs).Perm (Occurrence.deduplicate ys) := by
  apply List.Perm.map
  apply OrderedMap.perm_of_get?_eq
  · exact nodup_keys_foldl_keep xs List.nodup_nil
  · exact nodup_keys_foldl_keep ys List.nodup_nil
  · intro key
    rw [get?_foldl_keep, get?_foldl_keep, h]

theorem ofKey_eq_of_perm {xs ys : List Occurrence} (hperm : xs.Perm ys)
    (hnodup : (xs.map Occurrence.key).Nodup) (key : String × Int × String) :
    ofKey key xs = ofKey key ys := by
  have hfilter : (ofKey key xs).Perm (ofKey key ys) := hperm.filter _
  have hkeys : ((ofKey key xs).map Occurrence.key).Nodup :=
    hnodup.sublist (List.filter_sublist.map _)
  have hsame : ∀ o ∈ ofKey key xs, o.key = key := by
    intro o ho
    simpa using (List.mem_filter.mp ho).2
  match hxs : ofKey key xs with
  | [] =>
      rw [hxs] at hfilter
      exact (List.nil_perm.mp hfilter).symm
  | [o] =>
      rw [hxs] at hfilter
      exact List.singleton_perm.mp hfilter
  | o :: o' :: rest =>
      rw [hxs] at hkeys hsame
      have hne : o.key ≠ o'.key := by
        have hhead := (List.nodup_cons.mp hkeys).1
        intro he
        exact hhead (by simp [he])
      exact absurd ((hsame o (by simp)).trans (hsame o' (by simp)).symm) hne

end SymbolSearch.Proofs.Deduplication
