import SymbolSearch.Proofs.JsonReading
import SymbolSearch.Proofs.TrackerSteps
import SymbolSearch.Proofs.WholeDoubles

namespace SymbolSearch.Proofs.StoredMap

open JsonReading
open JsonText
open Tracker
open TrackerSteps
open WholeDoubles

/-- A time that a double can tell. -/
def Fits (time : Int) : Prop :=
  ∃ x, Number.floatOfInt time = .ok x

/-- A map that reads back as it is: no key occurs twice, every time fits a double, and no count is
negative. -/
structure Storable (entries : OrderedMap String Entry) : Prop where
  nodup : (OrderedMap.keys entries).Nodup
  fits : ∀ key e, (key, e) ∈ entries → Fits e.lastAccessed ∧ 0 ≤ e.accessCount

variable {entries : OrderedMap String Entry} {e : Entry} {store store' : Store} {t : Tracker}
  {config : Config}

theorem storable_nil : Storable [] where
  nodup := by simp [OrderedMap.keys]
  fits := by simp

theorem Storable.sublist {entries' : OrderedMap String Entry} (h : Storable entries)
    (hsub : entries'.Sublist entries) : Storable entries' where
  nodup := List.Pairwise.sublist (hsub.map Prod.fst) h.nodup
  fits := fun key e hmem => h.fits key e (hsub.subset hmem)

section Writing

theorem ofJson?_toJson (hfits : Fits e.lastAccessed) (hcount : 0 ≤ e.accessCount) :
    Entry.ofJson? e.toJson = .ok (some e) := by
  obtain ⟨x, hx⟩ := hfits
  have htime : Entry.timeOf? (.int e.lastAccessed) = .ok (some e.lastAccessed) := by
    rw [Entry.timeOf?, hx]
    rfl
  have hpath : e.toJson.field? "path" = some (.string e.path) := rfl
  have hlast : e.toJson.field? "last_accessed" = some (.int e.lastAccessed) := rfl
  have hnumber : e.toJson.field? "access_count" = some (.int e.accessCount) := rfl
  simp only [Entry.ofJson?, hpath, hlast, hnumber, Option.getD_some, htime, bind, Except.bind,
    pure, Except.pure, hcount, if_true]

theorem readEntries_payload
    (h : ∀ key e, (key, e) ∈ entries → Fits e.lastAccessed ∧ 0 ≤ e.accessCount) :
    readEntries (entries.map fun (key, e) => (key, e.toJson)) = .ok (entries, 0) := by
  induction entries with
  | nil => rfl
  | cons entry entries ih =>
      obtain ⟨key, e⟩ := entry
      have hentry := h key e (by simp)
      have hrest := ih fun key e hmem => h key e (by simp [hmem])
      rw [List.map_cons, readEntries, ofJson?_toJson hentry.1 hentry.2, hrest]
      rfl

theorem readMap_payload (h : Storable t.entries) : readMap t.payload = .ok (t.entries, []) := by
  rw [payload, readMap, readEntries_payload h.fits]
  rfl

theorem plainFields_payload (entries : OrderedMap String Entry) :
    PlainFields (entries.map fun (key, e) => (key, e.toJson)) := by
  induction entries with
  | nil => trivial
  | cons entry entries ih =>
      refine ⟨⟨?_, trivial, trivial, trivial, trivial⟩, ih⟩
      change ["path", "last_accessed", "access_count"].Nodup
      decide

theorem plain_payload (h : (OrderedMap.keys t.entries).Nodup) : Plain t.payload := by
  refine ⟨?_, plainFields_payload t.entries⟩
  simpa [OrderedMap.keys, Function.comp_def] using h

theorem nesting_payload_le (t : Tracker) : nesting t.payload ≤ Json.maxDepth := by
  have hfields (entries : OrderedMap String Entry) :
      nestingOfFields (entries.map fun (key, e) => (key, e.toJson)) ≤ 1 := by
    induction entries with
    | nil => exact Nat.zero_le _
    | cons entry entries ih => exact Nat.max_le.mpr ⟨Nat.le_refl _, ih⟩
  have hpayload : nesting t.payload ≤ 2 := Nat.succ_le_succ (hfields t.entries)
  exact Nat.le_trans hpayload (by decide)

end Writing

section Stores

variable {name text : String}

theorem keyOf_string (store : Store) (name : String) :
    store.keyOf (.string name) = .ok (some (.string name)) := by
  unfold Store.keyOf
  split <;> rfl

theorem textOf?_string (store : Store) (name : String) :
    store.textOf? (.string name) =
      .ok ((OrderedMap.get? (.string name) store.table).map Prod.snd) := by
  rw [Store.textOf?, keyOf_string]
  rfl

theorem table_of_write (h : store.write (.string name) text = .ok store') :
    store'.medium ≠ .unimplemented ∧ store'.close = store' ∧
      store'.table = Store.insertText (.string name) (.string name) text store.table := by
  obtain ⟨medium, fault⟩ := store
  cases medium with
  | memory table =>
      rw [Store.write, keyOf_string] at h
      obtain rfl := Except.ok.inj h
      exact ⟨by simp, rfl, rfl⟩
  | database table pending =>
      obtain _ | _ | _ := fault <;> cases h
      · exact ⟨by simp, rfl, rfl⟩
      · exact ⟨by simp, rfl, rfl⟩
  | tableless => cases h
  | corrupted => cases h
  | unimplemented => cases h

theorem get?_insertText (key : Json) (k : Key) (text : String) (table : Table) :
    ∃ shown, OrderedMap.get? k (Store.insertText key k text table) = some (shown, text) := by
  rw [Store.insertText, OrderedMap.get?_insert, if_pos rfl]
  exact ⟨_, rfl⟩

theorem get_of_write {value : Json} (default : Json)
    (h : store.write (.string name) text = .ok store') (hread : Json.read text = .ok value) :
    store'.get (.string name) default = .ok value := by
  obtain ⟨hmedium, -, htable⟩ := table_of_write h
  obtain ⟨shown, hget⟩ := get?_insertText (.string name) (.string name) text store.table
  rw [Store.get]
  split
  · contradiction
  · simp only [textOf?_string, htable, hget, Option.map_some, bind, Except.bind, hread]
    rfl

theorem write_of_set {value : Json} (h : store.set (.string name) value = .ok store') :
    ∃ text, value.text? = .ok text ∧ store.write (.string name) text = .ok store' := by
  rw [Store.set] at h
  split at h
  · cases h
  · split at h
    · cases h
    · cases h
    · rename_i text htext _
      refine ⟨text, htext, ?_⟩
      split at h
      · cases h
      · exact h

theorem get_of_set {value : Json} (default : Json) (hplain : Plain value)
    (hnesting : nesting value ≤ Json.maxDepth)
    (h : store.set (.string name) value = .ok store') :
    store'.get (.string name) default = .ok value := by
  obtain ⟨text, htext, hwrite⟩ := write_of_set h
  exact get_of_write default hwrite (read_text hplain hnesting htext)

end Stores

section Reading

theorem magnitude?_ne_object {negative : Bool} {cs rest : List Char}
    {fields : List (String × Json)} :
    Json.magnitude? negative cs ≠ some (.object fields, rest) := by
  intro h
  obtain ⟨⟨whole, rest'⟩, -, heq⟩ := Option.map_eq_some_iff.mp h
  dsimp only at heq
  split at heq
  · cases heq
  · split at heq <;> cases heq

theorem scalar?_ne_object {cs rest : List Char} {fields : List (String × Json)} :
    Json.scalar? cs ≠ some (.object fields, rest) := by
  intro h
  unfold Json.scalar? at h
  split at h
  · rename_i word value hfind
    have hmem := List.mem_of_find?_eq_some hfind
    obtain ⟨rfl, -⟩ := Prod.mk.inj (Option.some.inj h)
    simp [Json.wordValues] at hmem
  · split at h <;> exact magnitude?_ne_object h

theorem nodup_of_value? {fuel : Nat} {cs rest : List Char} {fields : List (String × Json)}
    (h : Json.value? fuel cs = some (.object fields, rest)) :
    (OrderedMap.keys fields).Nodup := by
  rw [Json.value?.eq_def] at h
  split at h
  · cases h
  · dsimp only at h
    split at h
    · obtain ⟨_, -, heq⟩ := Option.map_eq_some_iff.mp h
      cases heq
    · split at h
      · cases h
      · obtain ⟨_, -, heq⟩ := Option.map_eq_some_iff.mp h
        cases heq
    · split at h
      · cases h
        exact List.nodup_nil
      · obtain ⟨fs, -, heq⟩ := Option.map_eq_some_iff.mp h
        cases heq
        exact OrderedMap.nodup_keys_ofList fs.1
    · exact absurd h scalar?_ne_object

theorem nodup_of_read {text : String} {fields : List (String × Json)}
    (h : Json.read text = .ok (.object fields)) : (OrderedMap.keys fields).Nodup := by
  rw [Json.read] at h
  split at h
  · cases h
  · split at h
    · rename_i value hparse
      obtain rfl := Except.ok.inj h
      rw [Json.parse?] at hparse
      split at hparse
      · rename_i v rest hvalue
        split at hparse
        · obtain rfl := Option.some.inj hparse
          exact nodup_of_value? hvalue
        · cases hparse
      · cases hparse
    · cases h

theorem nodup_of_get {key : Json} {fields : List (String × Json)}
    (h : store.get key (.object []) = .ok (.object fields)) :
    (OrderedMap.keys fields).Nodup := by
  rw [Store.get] at h
  split at h
  · cases h
  · cases htext : store.textOf? key with
    | error error =>
        rw [htext] at h
        cases h
    | ok text =>
        simp only [htext, bind, Except.bind] at h
        split at h
        · cases h
          exact List.nodup_nil
        · split at h
          · rename_i value hread
            cases h
            exact nodup_of_read hread
          · cases h
            exact List.nodup_nil
          · cases h

theorem fits_of_timeOf? {value : Json} {time : Int} (h : Entry.timeOf? value = .ok (some time)) :
    Fits time := by
  cases value with
  | int n =>
      rw [Entry.timeOf?] at h
      cases hfloat : Number.floatOfInt n with
      | error error =>
          rw [hfloat] at h
          cases h
      | ok x =>
          rw [hfloat] at h
          cases h
          exact ⟨x, hfloat⟩
  | real x =>
      rw [Entry.timeOf?] at h
      split at h
      · cases h
        exact exists_floatOfInt_truncate x
      · cases h
  | null => cases h
  | bool b => cases h
  | string s => cases h
  | array items => cases h
  | object fields => cases h
  | foreign => cases h

theorem fits_of_ofJson? {value : Json} (h : Entry.ofJson? value = .ok (some e)) :
    Fits e.lastAccessed ∧ 0 ≤ e.accessCount := by
  rw [Entry.ofJson?] at h
  split at h
  · cases htime : Entry.timeOf? ((value.field? "last_accessed").getD .null) with
    | error error =>
        rw [htime] at h
        cases h
    | ok time =>
        simp only [htime, bind, Except.bind] at h
        split at h
        · cases h
        · split at h
          · split at h
            · rename_i hcount
              cases h
              exact ⟨fits_of_timeOf? htime, hcount⟩
            · cases h
          · cases h
  · cases h

theorem of_readEntries {fields : List (String × Json)} {dropped : Nat}
    (h : readEntries fields = .ok (entries, dropped)) :
    (OrderedMap.keys entries).Sublist (OrderedMap.keys fields) ∧
      ∀ key e, (key, e) ∈ entries → Fits e.lastAccessed ∧ 0 ≤ e.accessCount := by
  induction fields generalizing entries dropped with
  | nil =>
      cases h
      exact ⟨List.Sublist.refl _, by simp⟩
  | cons field fields ih =>
      obtain ⟨key, value⟩ := field
      rw [readEntries] at h
      cases hentry : Entry.ofJson? value with
      | error error =>
          rw [hentry] at h
          cases h
      | ok entry =>
          cases hrest : readEntries fields with
          | error error =>
              rw [hentry, hrest] at h
              cases h
          | ok result =>
              obtain ⟨rest, count⟩ := result
              obtain ⟨hsub, hfits⟩ := ih hrest
              simp only [hentry, hrest, bind, Except.bind] at h
              split at h
              · rename_i e
                cases h
                refine ⟨hsub.cons_cons key, ?_⟩
                intro key' e' hmem
                obtain heq | hmem := List.mem_cons.mp hmem
                · cases heq
                  exact fits_of_ofJson? hentry
                · exact hfits key' e' hmem
              · cases h
                exact ⟨hsub.cons key, hfits⟩

theorem storable_of_readMap {value : Json} {notices : List Notice}
    (hnodup : ∀ fields, value = .object fields → (OrderedMap.keys fields).Nodup)
    (h : readMap value = .ok (entries, notices)) : Storable entries := by
  unfold readMap at h
  split at h
  · rename_i fields
    cases hentries : readEntries fields with
    | error error =>
        rw [hentries] at h
        cases h
    | ok result =>
        rw [hentries] at h
        cases h
        obtain ⟨hsub, hfits⟩ := of_readEntries hentries
        exact ⟨(hnodup fields rfl).sublist hsub, hfits⟩
  · cases h
    exact storable_nil
  · cases h
    exact storable_nil

/-- Whatever is stored, the map that is loaded can be stored. -/
theorem storable_of_load {t' : Tracker} {notices : List Notice} (ht : Storable t.entries)
    (h : t.load config store = .ok (t', notices)) : Storable t'.entries := by
  rw [load] at h
  split at h
  · cases h
    exact ht
  · split at h
    · cases h
    · rename_i value hget
      split at h
      · cases h
      · rename_i entries notices hmap
        cases h
        refine storable_of_readMap ?_ hmap
        rintro fields rfl
        exact nodup_of_get hget

end Reading

end SymbolSearch.Proofs.StoredMap
