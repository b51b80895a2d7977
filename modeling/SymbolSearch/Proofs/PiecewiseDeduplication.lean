import SymbolSearch.Proofs.StrongestOccurrences

namespace SymbolSearch.Proofs.PiecewiseDeduplication

open Deduplication
open StrongestOccurrences

variable {key : String × Int × String} {xs ys : List Occurrence}

theorem deduplicate_eq_filterMap (occurrences : List Occurrence) :
    Occurrence.deduplicate occurrences =
      (occurrences.map Occurrence.key).eraseDups.filterMap fun key =>
        (ofKey key occurrences).foldl prefer none := by
  have hnodup : (OrderedMap.keys (occurrences.foldl Occurrence.keep [])).Nodup :=
    nodup_keys_foldl_keep occurrences List.nodup_nil
  rw [Occurrence.deduplicate, BuiltMaps.values_eq_filterMap hnodup, keys_foldl_keep]
  apply List.filterMap_congr
  intro key _
  exact get?_foldl_keep key occurrences []

section Keys

theorem keys_deduplicate (occurrences : List Occurrence) :
    (Occurrence.deduplicate occurrences).map Occurrence.key =
      (occurrences.map Occurrence.key).eraseDups :=
  (map_key_deduplicate occurrences).trans (keys_foldl_keep occurrences)

theorem keys_flatten_deduplicate (pieces : List (List Occurrence)) :
    ((pieces.map Occurrence.deduplicate).flatten.map Occurrence.key).eraseDups =
      (pieces.flatten.map Occurrence.key).eraseDups := by
  induction pieces using List.reverseRecOn with
  | nil => rfl
  | append_singleton pieces piece ih =>
      simp only [List.map_append, List.flatten_append, List.map_singleton, List.flatten_singleton,
        keys_deduplicate]
      rw [BuiltMaps.eraseDups_append_eraseDups]
      exact BuiltMaps.eraseDups_append_congr ih _

end Keys

section Preferred

/-- Preferring is associative: an occurrence may be compared first with those that come before it in
its piece and the outcome then with those that came before the piece. -/
theorem foldl_prefer_prefer (earlier kept : Option Occurrence) (o : Occurrence) :
    (prefer kept o).toList.foldl prefer earlier = prefer (kept.toList.foldl prefer earlier) o := by
  cases kept with
  | none => rfl
  | some other =>
      cases earlier with
      | none => by_cases ho : other.kind.precedence < o.kind.precedence <;> simp [prefer, ho]
      | some first =>
          by_cases ho : other.kind.precedence < o.kind.precedence
          · by_cases hother : first.kind.precedence < other.kind.precedence
            · have hfirst : first.kind.precedence < o.kind.precedence := by omega
              simp [prefer, ho, hother, hfirst]
            · simp [prefer, ho, hother]
          · by_cases hother : first.kind.precedence < other.kind.precedence
            · simp [prefer, ho, hother]
            · have hfirst : ¬first.kind.precedence < o.kind.precedence := by omega
              simp [prefer, ho, hother, hfirst]

theorem foldl_prefer_toList (earlier : Option Occurrence) (occurrences : List Occurrence) :
    (occurrences.foldl prefer none).toList.foldl prefer earlier =
      occurrences.foldl prefer earlier := by
  induction occurrences using List.reverseRecOn with
  | nil => rfl
  | append_singleton occurrences o ih =>
      simp only [List.foldl_append, List.foldl_cons, List.foldl_nil]
      rw [foldl_prefer_prefer, ih]

theorem ofKey_values {kept : OrderedMap (String × Int × String) Occurrence}
    (hnodup : (OrderedMap.keys kept).Nodup) (hkeys : ∀ entry ∈ kept, entry.2.key = entry.1) :
    ofKey key (OrderedMap.values kept) = (OrderedMap.get? key kept).toList := by
  induction kept with
  | nil => rfl
  | cons entry rest ih =>
      obtain ⟨hnew, hrest⟩ := List.nodup_cons.mp hnodup
      have hvalues : ofKey key (OrderedMap.values rest) = (OrderedMap.get? key rest).toList :=
        ih hrest fun entry hentry => hkeys entry (List.mem_cons_of_mem _ hentry)
      have hkey : entry.2.key = entry.1 := hkeys entry List.mem_cons_self
      by_cases hsame : entry.1 = key
      · have hnone : OrderedMap.get? key rest = none :=
          OrderedMap.get?_eq_none_iff.mpr (hsame ▸ hnew)
        rw [OrderedMap.get?, if_pos hsame, OrderedMap.values, List.map_cons, ofKey,
          List.filter_cons_of_pos (by simpa [hkey] using hsame)]
        rw [hnone] at hvalues
        exact congrArg (entry.2 :: ·) hvalues
      · rw [OrderedMap.get?, if_neg hsame, OrderedMap.values, List.map_cons, ofKey,
          List.filter_cons_of_neg (by simpa [hkey] using hsame)]
        exact hvalues

theorem ofKey_deduplicate (key : String × Int × String) (occurrences : List Occurrence) :
    ofKey key (Occurrence.deduplicate occurrences) =
      ((ofKey key occurrences).foldl prefer none).toList := by
  have hnodup : (OrderedMap.keys (occurrences.foldl Occurrence.keep [])).Nodup :=
    nodup_keys_foldl_keep occurrences List.nodup_nil
  rw [Occurrence.deduplicate, ofKey_values hnodup fun entry => key_of_mem_foldl_keep,
    get?_foldl_keep, OrderedMap.get?_nil]

theorem foldl_prefer_flatten_deduplicate (key : String × Int × String)
    (pieces : List (List Occurrence)) :
    (ofKey key (pieces.map Occurrence.deduplicate).flatten).foldl prefer none =
      (ofKey key pieces.flatten).foldl prefer none := by
  induction pieces using List.reverseRecOn with
  | nil => rfl
  | append_singleton pieces piece ih =>
      simp only [List.map_append, List.flatten_append, List.map_singleton, List.flatten_singleton,
        ofKey_append, List.foldl_append, ofKey_deduplicate]
      rw [foldl_prefer_toList, ih]

end Preferred

/-- Deduplication may be done piece by piece and once more on what is left of the pieces; doing it
twice changes nothing. -/
theorem deduplicate_by_pieces (pieces : List (List Occurrence)) :
    Occurrence.deduplicate (pieces.map Occurrence.deduplicate).flatten =
        Occurrence.deduplicate pieces.flatten ∧
      ∀ occurrences, Occurrence.deduplicate (Occurrence.deduplicate occurrences) =
        Occurrence.deduplicate occurrences := by
  have hpieces (pieces : List (List Occurrence)) :
      Occurrence.deduplicate (pieces.map Occurrence.deduplicate).flatten =
        Occurrence.deduplicate pieces.flatten := by
    rw [deduplicate_eq_filterMap, deduplicate_eq_filterMap, keys_flatten_deduplicate]
    simp only [foldl_prefer_flatten_deduplicate]
  refine ⟨hpieces pieces, ?_⟩
  intro occurrences
  simpa using hpieces [occurrences]

end SymbolSearch.Proofs.PiecewiseDeduplication
