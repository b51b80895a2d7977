import Mathlib.Data.Rat.Floor
import SymbolSearch.Proofs.ItemOrder
import SymbolSearch.Proofs.Persistence
import SymbolSearch.Proofs.Traversal

namespace SymbolSearch.Proofs.LoadedEntries

open Decimal
open ItemOrder
open Persistence
open StoredMap
open Tracker
open Traversal
open WholeDoubles

section Times

/-- The value of a number that is neither infinite nor undefined. -/
def finiteNumber? : Json → Option ℚ
  | .int n => some n
  | .real x =>
      match Binary.ofFloat x with
      | .finite negative mantissa exponent =>
          some ((if negative then -1 else 1) * (mantissa * 2 ^ exponent))
      | _ => none
  | _ => none

/-- A number without its fraction. -/
def wholePart (q : ℚ) : Int :=
  if 0 ≤ q then ⌊q⌋ else ⌈q⌉

theorem wholePart_intCast (n : Int) : wholePart n = n := by
  simp [wholePart]

theorem wholePart_neg (q : ℚ) : wholePart (-q) = -wholePart q := by
  rcases lt_trichotomy q 0 with h | rfl | h
  · simp [wholePart, h.le, not_le.mpr h, Int.floor_neg]
  · simp [wholePart]
  · simp [wholePart, h.le, not_le.mpr h, Int.ceil_neg]

theorem wholePart_fraction (mantissa : Nat) (exponent : Int) :
    wholePart (mantissa * 2 ^ exponent) =
      ((fractionOf mantissa exponent).1 / (fractionOf mantissa exponent).2 : Nat) := by
  rw [← fractionOf_quotient, wholePart, if_pos (by positivity)]
  exact Rat.floor_natCast_div_natCast _ _

theorem truncate_eq {x : Float} {q : ℚ} (h : finiteNumber? (.real x) = some q) :
    truncate x = wholePart q := by
  unfold finiteNumber? at h
  cases hbinary : Binary.ofFloat x with
  | nan => simp [hbinary] at h
  | infinite negative => simp [hbinary] at h
  | finite negative mantissa exponent =>
      simp only [hbinary, Option.some.injEq] at h
      subst h
      cases negative with
      | false => simp [truncate, hbinary, wholePart_fraction]
      | true => simp [truncate, hbinary, wholePart_neg, wholePart_fraction]

theorem isFinite_iff {x : Float} : isFinite x = true ↔ ∃ q, finiteNumber? (.real x) = some q := by
  rw [isFinite, finiteNumber?]
  cases hbinary : Binary.ofFloat x <;> simp

/-- A whole number that is too large for a double. -/
def TooLarge (value : Json) : Prop :=
  ∃ n : Int, value = .int n ∧ firstBeyond ≤ n.natAbs

theorem timeOf?_tooLarge {value : Json} (h : TooLarge value) :
    Entry.timeOf? value = .error .integerTooLarge := by
  obtain ⟨n, rfl, hn⟩ := h
  rw [Entry.timeOf?]
  cases hfloat : Number.floatOfInt n with
  | ok x =>
      have hlt := exists_floatOfInt_iff.mp ⟨x, hfloat⟩
      omega
  | error error =>
      rw [Number.floatOfInt] at hfloat
      split at hfloat <;> cases hfloat
      rfl

theorem timeOf?_ok {value : Json} (h : ¬TooLarge value) :
    Entry.timeOf? value = .ok ((finiteNumber? value).map wholePart) := by
  cases value with
  | int n =>
      have hfits : n.natAbs < firstBeyond := by
        by_contra hle
        exact h ⟨n, rfl, by omega⟩
      obtain ⟨x, hx⟩ := exists_floatOfInt_iff.mpr hfits
      rw [Entry.timeOf?, hx, finiteNumber?, Option.map_some, wholePart_intCast]
      rfl
  | real x =>
      rw [Entry.timeOf?]
      split
      · rename_i hfinite
        obtain ⟨q, hq⟩ := isFinite_iff.mp hfinite
        rw [hq, truncate_eq hq]
        rfl
      · rename_i hfinite
        rw [isFinite_iff, not_exists] at hfinite
        rw [Option.eq_none_iff_forall_ne_some.mpr hfinite]
        rfl
  | _ => rfl

end Times

section Entries

/-- A stored value describes an entry: a path, a finite time, of which only the whole part counts,
and a count that is not negative. -/
structure Describes (value : Json) (e : Entry) : Prop where
  path : value.field? "path" = some (.string e.path)
  time : ∃ number q, value.field? "last_accessed" = some number ∧
    finiteNumber? number = some q ∧ wholePart q = e.lastAccessed
  count : value.field? "access_count" = some (.int e.accessCount)
  count_nonneg : 0 ≤ e.accessCount

/-- A stored value has a path, and for a time a whole number that no double can hold. -/
structure Oversized (value : Json) : Prop where
  path : ∃ path, value.field? "path" = some (.string path)
  time : ∃ number, value.field? "last_accessed" = some number ∧ TooLarge number

theorem time_iff {value : Json} {last : Int} :
    (∃ number q, value.field? "last_accessed" = some number ∧ finiteNumber? number = some q ∧
        wholePart q = last) ↔
      (finiteNumber? ((value.field? "last_accessed").getD .null)).map wholePart = some last := by
  cases value.field? "last_accessed" <;> simp [finiteNumber?]

theorem ofJson?_oversized {value : Json} (h : Oversized value) :
    Entry.ofJson? value = .error .integerTooLarge := by
  obtain ⟨path, hpath⟩ := h.path
  obtain ⟨number, hnumber, hlarge⟩ := h.time
  simp only [Entry.ofJson?, hpath, hnumber, Option.getD_some, timeOf?_tooLarge hlarge]
  rfl

theorem tooLarge_time_iff {value : Json} {path : String}
    (hpath : value.field? "path" = some (.string path)) :
    TooLarge ((value.field? "last_accessed").getD .null) ↔ Oversized value := by
  constructor
  · intro hlarge
    cases hnumber : value.field? "last_accessed" with
    | none => simp [hnumber, TooLarge] at hlarge
    | some number => exact ⟨⟨path, hpath⟩, number, hnumber, by simpa [hnumber] using hlarge⟩
  · rintro ⟨-, number, hnumber, hlarge⟩
    simpa [hnumber] using hlarge

theorem exists_ofJson?_iff {value : Json} :
    (∃ found, Entry.ofJson? value = .ok found) ↔ ¬Oversized value := by
  constructor
  · rintro ⟨found, hfound⟩ hoversized
    rw [ofJson?_oversized hoversized] at hfound
    cases hfound
  · intro hfits
    rw [Entry.ofJson?]
    split
    · rename_i path hpath
      rw [timeOf?_ok (mt (tooLarge_time_iff hpath).mp hfits)]
      cases (finiteNumber? ((value.field? "last_accessed").getD .null)).map wholePart with
      | none => exact ⟨_, rfl⟩
      | some last =>
          simp only [bind, Except.bind]
          split <;> exact ⟨_, rfl⟩
    · exact ⟨_, rfl⟩

theorem describes_of_ofJson? {value : Json} {e : Entry} (h : Entry.ofJson? value = .ok (some e)) :
    Describes value e := by
  have hfits : ¬Oversized value := exists_ofJson?_iff.mp ⟨_, h⟩
  rw [Entry.ofJson?] at h
  split at h
  · rename_i path hpath
    rw [timeOf?_ok (mt (tooLarge_time_iff hpath).mp hfits)] at h
    obtain ⟨time, htime, h⟩ := bind_eq_ok_iff.mp h
    split at h
    · cases h
    · rename_i last
      split at h
      · rename_i count hcount
        split at h
        · rename_i hnonneg
          cases h
          exact ⟨hpath, time_iff.mpr (Except.ok.inj htime), hcount, hnonneg⟩
        · cases h
      · cases h
  · cases h

theorem ofJson?_eq_some_iff {value : Json} {e : Entry} (hfits : ¬Oversized value) :
    Entry.ofJson? value = .ok (some e) ↔ Describes value e := by
  refine ⟨describes_of_ofJson?, ?_⟩
  intro h
  simp only [Entry.ofJson?, h.path, timeOf?_ok (mt (tooLarge_time_iff h.path).mp hfits),
    time_iff.mp h.time, h.count, h.count_nonneg, if_true, bind, Except.bind, pure, Except.pure]

end Entries

section Maps

variable {fields : List (String × Json)} {entries : OrderedMap String Entry} {dropped : Nat}
  {config : Config} {store : Store} {value : Json}

/-- No time in a map is too large. -/
def AllFit (fields : List (String × Json)) : Prop :=
  ∀ key v, (key, v) ∈ fields → ¬Oversized v

theorem allFit_cons {key : String} {v : Json} :
    AllFit ((key, v) :: fields) ↔ ¬Oversized v ∧ AllFit fields := by
  constructor
  · intro h
    exact ⟨h key v List.mem_cons_self, fun key' v' hmem => h key' v' (List.mem_cons_of_mem _ hmem)⟩
  · rintro ⟨hv, hfields⟩ key' v' hmem
    obtain heq | hmem := List.mem_cons.mp hmem
    · cases heq
      exact hv
    · exact hfields key' v' hmem

/-- One value that cannot be read spoils the whole map. -/
theorem exists_readEntries_iff :
    (∃ result, readEntries fields = .ok result) ↔ AllFit fields := by
  induction fields with
  | nil => simp [readEntries, AllFit]
  | cons field fields ih =>
      obtain ⟨key, v⟩ := field
      rw [allFit_cons, ← ih, ← exists_ofJson?_iff, readEntries]
      cases Entry.ofJson? v with
      | error error => simp [bind, Except.bind]
      | ok found =>
          cases readEntries fields with
          | error error => simp [bind, Except.bind]
          | ok result =>
              simp only [bind, Except.bind, Except.ok.injEq, exists_eq', and_self, iff_true]
              cases found <;> exact ⟨_, rfl⟩

theorem mem_readEntries_iff (h : readEntries fields = .ok (entries, dropped)) (key : String)
    (e : Entry) : (key, e) ∈ entries ↔ ∃ v, (key, v) ∈ fields ∧ Describes v e := by
  induction fields generalizing entries dropped with
  | nil =>
      cases h
      simp
  | cons field fields ih =>
      obtain ⟨name, v⟩ := field
      have hfits : ¬Oversized v := (allFit_cons.mp (exists_readEntries_iff.mp ⟨_, h⟩)).1
      rw [readEntries] at h
      obtain ⟨found, hfound, h⟩ := bind_eq_ok_iff.mp h
      obtain ⟨⟨rest, count⟩, hrest, h⟩ := bind_eq_ok_iff.mp h
      have hdescribes : found = some e ↔ Describes v e := by
        rw [← ofJson?_eq_some_iff hfits, hfound, Except.ok.injEq]
      have hcons : (∃ v', (key, v') ∈ (name, v) :: fields ∧ Describes v' e) ↔
          (key = name ∧ found = some e) ∨ ∃ v', (key, v') ∈ fields ∧ Describes v' e := by
        simp only [List.mem_cons, Prod.mk.injEq, or_and_right, exists_or, and_assoc,
          exists_and_left, exists_eq_left, hdescribes]
      cases found with
      | none =>
          cases h
          rw [hcons, ih hrest]
          simp
      | some e' =>
          cases h
          rw [List.mem_cons, hcons, ih hrest, Prod.mk.injEq, Option.some.injEq, @eq_comm _ e]

/-- The fields of a stored value. A value other than an object has none. -/
def fieldsOf : Json → List (String × Json)
  | .object fields => fields
  | _ => []

theorem exists_readMap_iff :
    (∃ notices, readMap value = .ok (entries, notices)) ↔
      ∃ dropped, readEntries (fieldsOf value) = .ok (entries, dropped) := by
  cases value with
  | object fields =>
      simp only [readMap, fieldsOf]
      cases readEntries fields <;> simp [bind, Except.bind, pure, Except.pure, Prod.ext_iff]
  | _ => simp [readMap, fieldsOf, readEntries]

theorem exists_load_fresh_iff :
    (∃ t notices, Tracker.fresh.load config store = .ok (t, notices) ∧ t.entries = entries) ↔
      ∃ value dropped, store.get config.recencyKey (.object []) = .ok value ∧
        readEntries (fieldsOf value) = .ok (entries, dropped) := by
  rw [load, if_neg (by simp [Tracker.fresh])]
  cases store.get config.recencyKey (.object []) with
  | error error => simp
  | ok value =>
      simp only [Except.ok.injEq, exists_and_left, exists_eq_left', ← exists_readMap_iff]
      cases readMap value with
      | error error => simp
      | ok result => simp [Prod.ext_iff, eq_comm]

theorem nodup_keys_fieldsOf (h : store.get config.recencyKey (.object []) = .ok value) :
    (OrderedMap.keys (fieldsOf value)).Nodup := by
  cases value with
  | object fields => exact nodup_of_get h
  | _ => exact List.nodup_nil

end Maps

/-- A new tracker loads a stored map unless the text cannot be read or one of its times is a whole
number that no double can hold. It then has exactly the entries that the map describes, in their
order; nothing else in the map, whatever its shape, makes it fail. -/
theorem load_keeps_described_entries (config : Config) (store : Store) :
    ((∃ result, Tracker.fresh.load config store = .ok result) ↔
      ∃ value, store.get config.recencyKey (.object []) = .ok value ∧ AllFit (fieldsOf value)) ∧
    ∀ value t notices, store.get config.recencyKey (.object []) = .ok value →
      Tracker.fresh.load config store = .ok (t, notices) →
      (OrderedMap.keys (fieldsOf value)).Nodup ∧
      (OrderedMap.keys t.entries).Sublist (OrderedMap.keys (fieldsOf value)) ∧
      ∀ key e, (key, e) ∈ t.entries ↔ ∃ v, (key, v) ∈ fieldsOf value ∧ Describes v e := by
  constructor
  · constructor
    · rintro ⟨⟨t, notices⟩, hload⟩
      obtain ⟨value, dropped, hget, hread⟩ :=
        exists_load_fresh_iff.mp ⟨t, notices, hload, rfl⟩
      exact ⟨value, hget, exists_readEntries_iff.mp ⟨_, hread⟩⟩
    · rintro ⟨value, hget, hfits⟩
      obtain ⟨⟨entries, dropped⟩, hread⟩ := exists_readEntries_iff.mpr hfits
      obtain ⟨t, notices, hload, -⟩ := exists_load_fresh_iff.mpr ⟨value, dropped, hget, hread⟩
      exact ⟨_, hload⟩
  · intro value t notices hget hload
    obtain ⟨value', dropped, hget', hread⟩ := exists_load_fresh_iff.mp ⟨t, notices, hload, rfl⟩
    obtain rfl : value = value' := Except.ok.inj (hget.symm.trans hget')
    exact ⟨nodup_keys_fieldsOf hget, (of_readEntries hread).1, mem_readEntries_iff hread⟩

section Sample

/-- A store in memory that holds a map. -/
def storeOf (map : Json) : Store :=
  (Store.empty.set sampleConfig.recencyKey map).toOption.getD Store.empty

/-- One good entry, with a fraction in its time, before values of other shapes. -/
def mixedStore : Store :=
  let fields (path : String) (time : Json) : Json :=
    .object [("path", .string path), ("last_accessed", time), ("access_count", .int 1)]
  storeOf (.object
    [("a", fields "a" (.real 2.5)), ("x", .null), ("y", fields "y" (.real (0 / 0)))])

theorem load_keeps_described_entries_sample :
    ∃ value t notices, mixedStore.get sampleConfig.recencyKey (.object []) = .ok value ∧
      AllFit (fieldsOf value) ∧ Tracker.fresh.load sampleConfig mixedStore = .ok (t, notices) ∧
      t.entries = [("a", ⟨"a", 2, 1⟩)] ∧
      ∀ key e, (key, e) ∈ t.entries ↔ ∃ v, (key, v) ∈ fieldsOf value ∧ Describes v e := by
  have hentries : (Tracker.fresh.load sampleConfig mixedStore).toOption.map
      (fun result => result.1.entries) = some [("a", ⟨"a", 2, 1⟩)] := by
    decide +kernel
  obtain ⟨hloads, hexact⟩ := load_keeps_described_entries sampleConfig mixedStore
  cases hload : Tracker.fresh.load sampleConfig mixedStore with
  | error failure =>
      rw [hload] at hentries
      cases hentries
  | ok result =>
      obtain ⟨t, notices⟩ := result
      rw [hload] at hentries
      obtain ⟨value, hget, hfits⟩ := hloads.mp ⟨_, hload⟩
      obtain ⟨-, -, hmem⟩ := hexact value t notices hget hload
      exact ⟨value, t, notices, hget, hfits, rfl, Option.some.inj hentries, hmem⟩

/-- A map of two entries, the time of the first being too large for a double. -/
def largeMap : Json :=
  Tracker.payload ⟨[("a", ⟨"a", 10 ^ 400, 1⟩), ("b", ⟨"b", 5, 2⟩)], true⟩

theorem get_storeOf_largeMap :
    (storeOf largeMap).get sampleConfig.recencyKey (.object []) = .ok largeMap := by
  have hsome : (Store.empty.set sampleConfig.recencyKey largeMap).toOption.isSome = true := by
    decide +kernel
  cases hset : Store.empty.set sampleConfig.recencyKey largeMap with
  | error error =>
      rw [hset] at hsome
      cases hsome
  | ok store =>
      rw [storeOf, hset]
      exact get_of_set _ (plain_payload (by decide)) (nesting_payload_le _) hset

/-- Both values describe an entry, yet the map cannot be loaded. -/
theorem load_fails_on_large_time :
    (storeOf largeMap).get sampleConfig.recencyKey (.object []) = .ok largeMap ∧
      (∀ key v, (key, v) ∈ fieldsOf largeMap → ∃ e, Describes v e) ∧
      ∀ result, Tracker.fresh.load sampleConfig (storeOf largeMap) ≠ .ok result := by
  have hlarge : Oversized (Entry.toJson ⟨"a", 10 ^ 400, 1⟩) :=
    ⟨⟨"a", rfl⟩, _, rfl, 10 ^ 400, rfl, by decide +kernel⟩
  refine ⟨get_storeOf_largeMap, ?_, ?_⟩
  · intro key v hmem
    obtain ⟨⟨key', e⟩, hentry, heq⟩ := List.mem_map.mp hmem
    cases heq
    refine ⟨e, rfl, ⟨_, e.lastAccessed, rfl, rfl, wholePart_intCast _⟩, rfl, ?_⟩
    have hcounts : ∀ entry ∈ ([("a", ⟨"a", 10 ^ 400, 1⟩), ("b", ⟨"b", 5, 2⟩)] :
        OrderedMap String Entry), 0 ≤ entry.2.accessCount := by
      decide
    exact hcounts _ hentry
  · rintro ⟨t, notices⟩ hload
    obtain ⟨value, dropped, hget, hread⟩ := exists_load_fresh_iff.mp ⟨t, notices, hload, rfl⟩
    obtain rfl := Except.ok.inj (get_storeOf_largeMap.symm.trans hget)
    exact exists_readEntries_iff.mp ⟨_, hread⟩ "a" _ List.mem_cons_self hlarge

end Sample

end SymbolSearch.Proofs.LoadedEntries
