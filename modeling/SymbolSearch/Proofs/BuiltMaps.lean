import Mathlib.Data.List.Induction
import Mathlib.Data.List.Basic
import SymbolSearch.OrderedMap

namespace SymbolSearch.Proofs.BuiltMaps

open OrderedMap

section Keys

variable {κ : Type} [BEq κ] [LawfulBEq κ] {xs ys : List κ}

theorem eraseDups_concat (xs : List κ) (x : κ) :
    (xs ++ [x]).eraseDups = if x ∈ xs then xs.eraseDups else xs.eraseDups ++ [x] := by
  rw [List.eraseDups_append]
  by_cases hmem : x ∈ xs
  · have hknown : [x].removeAll xs = [] := by
      rw [List.removeAll, List.filter_cons_of_neg (by simpa using hmem), List.filter_nil]
    rw [hknown, if_pos hmem, List.eraseDups_nil, List.append_nil]
  · have hnew : [x].removeAll xs = [x] := by
      rw [List.removeAll, List.filter_cons_of_pos (by simpa using hmem), List.filter_nil]
    rw [hnew, if_neg hmem]
    rfl

theorem eraseDups_append_congr (h : xs.eraseDups = ys.eraseDups) (zs : List κ) :
    (xs ++ zs).eraseDups = (ys ++ zs).eraseDups := by
  have hmem (x : κ) : x ∈ xs ↔ x ∈ ys := by
    rw [← List.mem_eraseDups, h, List.mem_eraseDups]
  induction zs using List.reverseRecOn with
  | nil => simpa using h
  | append_singleton zs z ih =>
      simp only [← List.append_assoc, eraseDups_concat, ih, List.mem_append, hmem]

theorem eraseDups_append_eraseDups (xs ys : List κ) :
    (xs ++ ys.eraseDups).eraseDups = (xs ++ ys).eraseDups := by
  induction ys using List.reverseRecOn with
  | nil => rfl
  | append_singleton ys y ih =>
      by_cases hmem : y ∈ ys
      · rw [eraseDups_concat, if_pos hmem, ih, ← List.append_assoc, eraseDups_concat,
          if_pos (List.mem_append_right xs hmem)]
      · rw [eraseDups_concat ys, if_neg hmem, ← List.append_assoc, ← List.append_assoc,
          eraseDups_concat, eraseDups_concat, ih]
        simp only [List.mem_append, List.mem_eraseDups]

/-- A map that is built element by element has the keys of the elements, in the order in which they
first appear, if each element adds its key at the end unless it is there already. -/
theorem keys_foldl {α β : Type} {step : OrderedMap κ α → β → OrderedMap κ α} {key : β → κ}
    (hstep : ∀ m x, keys (step m x) = if key x ∈ keys m then keys m else keys m ++ [key x])
    (elements : List β) :
    keys (elements.foldl step []) = (elements.map key).eraseDups := by
  induction elements using List.reverseRecOn with
  | nil => rfl
  | append_singleton elements x ih =>
      rw [List.foldl_append, List.foldl_cons, List.foldl_nil, hstep, ih, List.map_append,
        List.map_singleton, eraseDups_concat]
      simp only [List.mem_eraseDups]

end Keys

section Values

variable {κ α : Type} [DecidableEq κ]

theorem keys_ofList (entries : List (κ × α)) :
    keys (ofList entries) = (entries.map Prod.fst).eraseDups :=
  keys_foldl (fun m entry => keys_insert entry.1 entry.2 m) entries

theorem get?_foldl_insert (key : κ) (entries : List (κ × α)) (m : OrderedMap κ α) :
    get? key (entries.foldl (fun m entry => insert entry.1 entry.2 m) m) =
      ((entries.findRev? fun entry => entry.1 = key).map Prod.snd).or (get? key m) := by
  induction entries generalizing m with
  | nil => rfl
  | cons entry entries ih =>
      rw [List.foldl_cons, ih, get?_insert, List.findRev?]
      cases entries.findRev? fun entry => entry.1 = key with
      | some last => rfl
      | none => by_cases hkey : entry.1 = key <;> simp [hkey]

theorem get?_ofList (key : κ) (entries : List (κ × α)) :
    get? key (ofList entries) = (entries.findRev? fun entry => entry.1 = key).map Prod.snd := by
  rw [ofList, get?_foldl_insert, get?_nil, Option.or_none]

theorem mem_values_of_get? {key : κ} {value : α} {m : OrderedMap κ α}
    (h : get? key m = some value) : value ∈ values m := by
  induction m with
  | nil => cases h
  | cons entry rest ih =>
      rw [get?] at h
      split at h
      · obtain rfl := Option.some.inj h
        exact List.mem_cons_self
      · exact List.mem_cons_of_mem _ (ih h)

theorem values_eq_filterMap {m : OrderedMap κ α} (h : (keys m).Nodup) :
    values m = (keys m).filterMap fun key => get? key m := by
  have hget : ∀ entry ∈ m, get? entry.1 m = some entry.2 := fun entry hentry =>
    (get?_eq_some_iff h).mpr hentry
  rw [keys, List.filterMap_map, values, ← List.filterMap_eq_map]
  apply List.filterMap_congr
  intro entry hentry
  exact (hget entry hentry).symm

end Values

end SymbolSearch.Proofs.BuiltMaps
