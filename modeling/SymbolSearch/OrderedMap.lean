namespace SymbolSearch

/-- A map that remembers the order in which its keys were first inserted. A key occurs at most once
in a map built by `insert`. -/
abbrev OrderedMap (κ α : Type) := List (κ × α)

namespace OrderedMap

variable {κ α : Type} [DecidableEq κ]

/-- The value of a key. -/
def get? (key : κ) : OrderedMap κ α → Option α
  | [] => none
  | (k, v) :: rest => if k = key then some v else get? key rest

/-- Sets the value of a key, in its place when the key is known and at the end otherwise. -/
def insert (key : κ) (value : α) : OrderedMap κ α → OrderedMap κ α
  | [] => [(key, value)]
  | (k, v) :: rest => if k = key then (k, value) :: rest else (k, v) :: insert key value rest

/-- Removes a key. -/
def erase (key : κ) (m : OrderedMap κ α) : OrderedMap κ α :=
  m.filter fun entry => decide (entry.1 ≠ key)

/-- The keys in insertion order. -/
def keys (m : OrderedMap κ α) : List κ :=
  m.map Prod.fst

/-- The values in insertion order of their keys. -/
def values (m : OrderedMap κ α) : List α :=
  m.map Prod.snd

/-- Whether a key has a value. -/
def contains (key : κ) (m : OrderedMap κ α) : Bool :=
  (get? key m).isSome

/-- The map that a list of pairs builds; a later pair replaces the value of an earlier one. -/
def ofList (entries : List (κ × α)) : OrderedMap κ α :=
  entries.foldl (fun m entry => insert entry.1 entry.2 m) []

@[simp] theorem get?_nil (key : κ) : get? key ([] : OrderedMap κ α) = none := rfl

theorem get?_insert (key k : κ) (value : α) (m : OrderedMap κ α) :
    get? k (insert key value m) = if key = k then some value else get? k m := by
  induction m with
  | nil => by_cases h : key = k <;> simp [insert, get?, h]
  | cons entry rest ih =>
      obtain ⟨k', v⟩ := entry
      by_cases h : k' = key
      · subst h
        by_cases h' : k' = k <;> simp [insert, get?, h']
      · by_cases h' : k' = k
        · subst h'
          simp [insert, get?, h, Ne.symm h]
        · simp [insert, get?, h, h', ih]

theorem get?_eq_none_iff {key : κ} {m : OrderedMap κ α} : get? key m = none ↔ key ∉ keys m := by
  induction m with
  | nil => simp [keys]
  | cons entry rest ih =>
      obtain ⟨k, v⟩ := entry
      have ih' : get? key rest = none ↔ key ∉ rest.map Prod.fst := ih
      by_cases h : k = key
      · simp [get?, keys, h]
      · simp [get?, keys, h, Ne.symm h, ih']

theorem get?_erase (key k : κ) (m : OrderedMap κ α) :
    get? k (erase key m) = if key = k then none else get? k m := by
  induction m with
  | nil => simp [erase]
  | cons entry rest ih =>
      obtain ⟨k', v⟩ := entry
      have ih' : get? k (rest.filter fun entry => decide (entry.1 ≠ key)) =
          if key = k then none else get? k rest := ih
      by_cases h : k' = key
      · subst h
        simp only [erase, ne_eq, not_true_eq_false, decide_false, Bool.false_eq_true,
          not_false_eq_true, List.filter_cons_of_neg, get?, ih']
        split <;> rfl
      · by_cases h' : k' = k
        · subst h'
          simp [erase, get?, h, Ne.symm h]
        · simp only [erase, ne_eq, h, not_false_eq_true, decide_true, List.filter_cons_of_pos,
            get?, h', if_false, ih']

theorem keys_insert (key : κ) (value : α) (m : OrderedMap κ α) :
    keys (insert key value m) = if key ∈ keys m then keys m else keys m ++ [key] := by
  induction m with
  | nil => simp [insert, keys]
  | cons entry rest ih =>
      obtain ⟨k, v⟩ := entry
      by_cases h : k = key
      · simp [insert, keys, h]
      · have ih' : List.map Prod.fst (insert key value rest) =
            if key ∈ List.map Prod.fst rest then List.map Prod.fst rest
            else List.map Prod.fst rest ++ [key] := ih
        simp only [insert, h, if_false, keys, List.map_cons, ih', List.mem_cons, Ne.symm h,
          false_or]
        split <;> simp

theorem insert_eq_append {key : κ} (value : α) {m : OrderedMap κ α} (h : key ∉ keys m) :
    insert key value m = m ++ [(key, value)] := by
  induction m with
  | nil => rfl
  | cons entry rest ih =>
      obtain ⟨k, v⟩ := entry
      have hne : k ≠ key ∧ key ∉ keys rest := by
        simpa [keys, eq_comm] using h
      rw [insert, if_neg hne.1, ih hne.2]
      rfl

theorem insert_eq_map {key : κ} (value : α) {m : OrderedMap κ α} (h : (keys m).Nodup)
    (hmem : key ∈ keys m) :
    insert key value m = m.map fun entry => if entry.1 = key then (key, value) else entry := by
  induction m with
  | nil => cases hmem
  | cons entry rest ih =>
      obtain ⟨k, v⟩ := entry
      have hnodup : k ∉ keys rest ∧ (keys rest).Nodup := List.nodup_cons.mp h
      by_cases hk : k = key
      · subst hk
        have hrest : (rest.map fun entry => if entry.1 = k then (k, value) else entry) = rest := by
          refine (List.map_congr_left fun entry hentry => ?_).trans (List.map_id rest)
          exact if_neg fun he => hnodup.1 (List.mem_map.mpr ⟨entry, hentry, he⟩)
        rw [insert, if_pos rfl, List.map_cons, if_pos rfl, hrest]
      · have hrest : key ∈ keys rest := (List.mem_cons.mp hmem).resolve_left (Ne.symm hk)
        rw [insert, if_neg hk, List.map_cons, if_neg hk, ih hnodup.2 hrest]

theorem nodup_keys_insert (key : κ) (value : α) {m : OrderedMap κ α} (h : (keys m).Nodup) :
    (keys (insert key value m)).Nodup := by
  rw [keys_insert]
  split
  · exact h
  · rename_i hkey
    exact List.nodup_append.mpr ⟨h, by simp, by rintro a ha b hb rfl; simp_all⟩

theorem foldl_insert_eq_append {entries : List (κ × α)} {m : OrderedMap κ α}
    (h : (keys m ++ keys entries).Nodup) :
    entries.foldl (fun m entry => insert entry.1 entry.2 m) m = m ++ entries := by
  induction entries generalizing m with
  | nil => simp
  | cons entry entries ih =>
      obtain ⟨k, v⟩ := entry
      have hk : k ∉ keys m := by
        intro hmem
        exact (List.nodup_append.mp h).2.2 k hmem k (by simp [keys]) rfl
      rw [List.foldl_cons, insert_eq_append v hk, ih]
      · simp
      · simpa [keys] using h

theorem ofList_eq_self {entries : List (κ × α)} (h : (keys entries).Nodup) :
    ofList entries = entries := by
  rw [ofList, foldl_insert_eq_append (by simpa [keys] using h)]
  rfl

theorem nodup_keys_foldl_insert (entries : List (κ × α)) {m : OrderedMap κ α}
    (h : (keys m).Nodup) :
    (keys (entries.foldl (fun m entry => insert entry.1 entry.2 m) m)).Nodup := by
  induction entries generalizing m with
  | nil => exact h
  | cons entry entries ih => exact ih (nodup_keys_insert entry.1 entry.2 h)

theorem nodup_keys_ofList (entries : List (κ × α)) : (keys (ofList entries)).Nodup :=
  nodup_keys_foldl_insert entries (by simp [keys])

theorem get?_eq_some_iff {m : OrderedMap κ α} (h : (keys m).Nodup) {key : κ} {value : α} :
    get? key m = some value ↔ (key, value) ∈ m := by
  induction m with
  | nil => simp
  | cons entry rest ih =>
      obtain ⟨k, v⟩ := entry
      have hnodup : k ∉ keys rest ∧ (keys rest).Nodup := List.nodup_cons.mp h
      by_cases hk : k = key
      · subst hk
        have hnot : (k, value) ∉ rest := fun hmem =>
          hnodup.1 (List.mem_map.mpr ⟨_, hmem, rfl⟩)
        simp [get?, hnot, eq_comm]
      · simp [get?, hk, Ne.symm hk, ih hnodup.2]

theorem perm_of_get?_eq {m m' : OrderedMap κ α} (h : (keys m).Nodup) (h' : (keys m').Nodup)
    (hget : ∀ key, get? key m = get? key m') : m.Perm m' := by
  have hm : m.Nodup := List.Pairwise.of_map Prod.fst (fun a b hne he => hne (he ▸ rfl)) h
  have hm' : m'.Nodup := List.Pairwise.of_map Prod.fst (fun a b hne he => hne (he ▸ rfl)) h'
  apply (List.perm_ext_iff_of_nodup hm hm').mpr
  rintro ⟨key, value⟩
  rw [← get?_eq_some_iff h, ← get?_eq_some_iff h', hget]

end OrderedMap

end SymbolSearch
