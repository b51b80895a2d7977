import Mathlib.Algebra.Group.Int.Defs
import SymbolSearch.Proofs.StoredMap

namespace SymbolSearch.Proofs.StoreRuns

open Json
open JsonReading
open JsonText
open StoredMap

section Values

/-- A value has a part: the value itself, or a part of an item or of a field. -/
inductive HasPart (part : Json) : Json → Prop
  | itself : HasPart part part
  | item {items : List Json} {v : Json} (hmem : v ∈ items) (h : HasPart part v) :
      HasPart part (.array items)
  | field {fields : List (String × Json)} {name : String} {v : Json} (hmem : (name, v) ∈ fields)
      (h : HasPart part v) : HasPart part (.object fields)

/-- No integer of a value has more digits than are written. -/
def ShortIntegers (v : Json) : Prop :=
  ∀ n : Int, HasPart (.int n) v → Decimal.length n.natAbs ≤ Decimal.maxDigits

variable {part v : Json} {items : List Json} {fields : List (String × Json)}

/-- A part that stands in the way of writing a value: it is foreign, or an integer that is too
long. -/
def Hinders : Json → Prop
  | .foreign => True
  | .int n => Decimal.maxDigits < Decimal.length n.natAbs
  | _ => False

mutual

theorem hinders_of_obstacle? : ∀ v : Json, obstacle? false v ≠ none →
    ∃ part, Hinders part ∧ HasPart part v
  | .foreign, _ => ⟨.foreign, trivial, .itself⟩
  | .int n, h => by
      refine ⟨.int n, ?_, .itself⟩
      by_contra hshort
      exact h (if_neg hshort)
  | .null, h | .bool _, h | .real _, h | .string _, h => absurd rfl h
  | .array items, h => by
      obtain ⟨part, hpart, v, hmem, hv⟩ := hinders_of_obstacleInItems? items h
      exact ⟨part, hpart, .item hmem hv⟩
  | .object fields, h => by
      obtain ⟨part, hpart, ⟨name, v⟩, hmem, hv⟩ := hinders_of_obstacleInFields? fields h
      exact ⟨part, hpart, .field hmem hv⟩

theorem hinders_of_obstacleInItems? : ∀ items : List Json, obstacleInItems? false items ≠ none →
    ∃ part, Hinders part ∧ ∃ v ∈ items, HasPart part v
  | [], h => absurd rfl h
  | v :: items, h => by
      by_cases hv : obstacle? false v = none
      · rw [obstacleInItems?, hv, Option.none_or] at h
        obtain ⟨part, hpart, w, hmem, hw⟩ := hinders_of_obstacleInItems? items h
        exact ⟨part, hpart, w, by simp [hmem], hw⟩
      · obtain ⟨part, hpart, hpartOf⟩ := hinders_of_obstacle? v hv
        exact ⟨part, hpart, v, by simp, hpartOf⟩

theorem hinders_of_obstacleInFields? : ∀ fields : List (String × Json),
    obstacleInFields? false fields ≠ none →
    ∃ part, Hinders part ∧ ∃ field ∈ fields, HasPart part field.2
  | [], h => absurd rfl h
  | (name, v) :: fields, h => by
      by_cases hv : obstacle? false v = none
      · rw [obstacleInFields?, hv, Option.none_or] at h
        obtain ⟨part, hpart, field, hmem, hfield⟩ := hinders_of_obstacleInFields? fields h
        exact ⟨part, hpart, field, by simp [hmem], hfield⟩
      · obtain ⟨part, hpart, hpartOf⟩ := hinders_of_obstacle? v hv
        exact ⟨part, hpart, (name, v), by simp, hpartOf⟩

end

theorem obstacleInItems?_ne_none (hmem : v ∈ items) (hv : obstacle? false v ≠ none) :
    obstacleInItems? false items ≠ none := by
  induction items with
  | nil => cases hmem
  | cons w items ih =>
      rw [obstacleInItems?, ne_eq, Option.or_eq_none_iff]
      rintro ⟨hw, hitems⟩
      obtain rfl | hmem := List.mem_cons.mp hmem
      · exact hv hw
      · exact ih hmem hitems

theorem obstacleInFields?_ne_none {name : String} (hmem : (name, v) ∈ fields)
    (hv : obstacle? false v ≠ none) : obstacleInFields? false fields ≠ none := by
  induction fields with
  | nil => cases hmem
  | cons field fields ih =>
      obtain ⟨name', w⟩ := field
      rw [obstacleInFields?, ne_eq, Option.or_eq_none_iff]
      rintro ⟨hw, hfields⟩
      obtain heq | hmem := List.mem_cons.mp hmem
      · cases heq
        exact hv hw
      · exact ih hmem hfields

theorem obstacle?_of_hinders (hpart : Hinders part) (h : HasPart part v) :
    obstacle? false v ≠ none := by
  induction h with
  | itself =>
      cases part with
      | foreign => simp [obstacle?]
      | int n => simpa [obstacle?, Hinders] using hpart
      | null | bool _ | real _ | string _ | array _ | object _ => cases hpart
  | item hmem _ ih => exact obstacleInItems?_ne_none hmem ih
  | field hmem _ ih => exact obstacleInFields?_ne_none hmem ih

theorem exists_text?_iff :
    (∃ text, v.text? = .ok text) ↔ ∀ part, HasPart part v → ¬Hinders part := by
  rw [text?, render]
  constructor
  · rintro ⟨text, htext⟩ part hpartOf hpart
    split at htext
    · cases htext
    · rename_i hnone
      exact obstacle?_of_hinders hpart hpartOf hnone
  · intro hfree
    have hnone : obstacle? false v = none := by
      by_contra hsome
      obtain ⟨part, hpart, hpartOf⟩ := hinders_of_obstacle? v hsome
      exact hfree part hpartOf hpart
    rw [hnone]
    exact ⟨_, rfl⟩

/-- Unless one of its integers is too long, a value has a text exactly when no part of it is
foreign. -/
theorem exists_text?_iff_not_foreign (hshort : ShortIntegers v) :
    (∃ text, v.text? = .ok text) ↔ ¬HasPart .foreign v := by
  rw [exists_text?_iff]
  constructor
  · exact fun hfree hforeign => hfree .foreign hforeign trivial
  · rintro hforeign (_ | _ | n | _ | _ | _ | _ | _) hpartOf hpart
    case int => exact absurd (hshort n hpartOf) (Nat.not_le.mpr hpart)
    case foreign => exact hforeign hpartOf
    all_goals cases hpart

end Values

section Calls

/-- A call of a store. -/
inductive Call
  | get (name : String) (default : Json)
  | set (name : String) (value : Json)
  | close
  | reopen

/-- The answer to a call: a value, that it is done, or why it is refused. -/
inductive Reply
  | value (v : Json)
  | done
  | refused (error : StoreError)

/-- What a store answers to a call. -/
def reply (s : Store) : Call → Reply
  | .get name default =>
      match s.get (.string name) default with
      | .ok v => .value v
      | .error error => .refused error
  | .set name value =>
      match s.set (.string name) value with
      | .ok _ => .done
      | .error error => .refused error
  | .close | .reopen => .done

/-- What a store is after a call. -/
def step (s : Store) : Call → Store
  | .get .. => s
  | .set name value =>
      match s.set (.string name) value with
      | .ok s' => s'
      | .error _ => s.afterFailure (.string name) value
  | .close => s.close
  | .reopen => s.reopen

/-- What a store is after some calls. -/
def run (s : Store) (calls : List Call) : Store :=
  calls.foldl step s

/-- What a store answers to some calls, one after the other. -/
def replies (s : Store) : List Call → List Reply
  | [] => []
  | call :: calls => reply s call :: replies (step s call) calls

/-- The setting that a call makes, if it makes one. -/
def settingOf (s : Store) : Call → List (String × Json)
  | .set name value =>
      match reply s (.set name value) with
      | .done => [(name, value)]
      | _ => []
  | _ => []

/-- The settings that some calls make, one after the other. -/
def settings (s : Store) : List Call → List (String × Json)
  | [] => []
  | call :: calls => settingOf s call ++ settings (step s call) calls

/-- The value that a name was last set to. -/
def latest (s : Store) (calls : List Call) (name : String) : Option Json :=
  (settings s calls).reverse.lookup name

end Calls

section Tables

variable {s s' : Store} {table : Table} {sets : List (String × Json)} {name text : String}
  {value : Json} {call : Call} {calls : List Call}

/-- A store that can be used, in memory or in a database, and what it keeps. -/
inductive Holds (table : Table) : Store → Prop
  | memory : Holds table ⟨.memory table, none⟩
  | database : Holds table ⟨.database table none, none⟩

/-- What a table holds after a call. -/
def tableAfter (table : Table) : Call → Table
  | .set name value =>
      match value.text? with
      | .ok text => Store.insertText (.string name) (.string name) text table
      | .error _ => table
  | _ => table

theorem get_of_holds (h : Holds table s) (name : String) (default : Json) :
    s.get (.string name) default =
      match OrderedMap.get? (.string name) table with
      | none => .ok default
      | some (_, text) =>
          match Json.read text with
          | .ok value => .ok value
          | .error .malformed => .ok default
          | .error excess => .error (.unreadable excess) := by
  cases h <;>
  · simp only [Store.get, textOf?_string, Store.table, Option.getD_none, bind, Except.bind]
    cases OrderedMap.get? (.string name) table <;> rfl

theorem set_memory (htext : value.text? = .ok text) (name : String) (table : Table) :
    Store.set ⟨.memory table, none⟩ (.string name) value =
      .ok ⟨.memory (Store.insertText (.string name) (.string name) text table), none⟩ := by
  simp only [Store.set, htext]
  rfl

theorem set_database (htext : value.text? = .ok text) (name : String) (table : Table) :
    Store.set ⟨.database table none, none⟩ (.string name) value =
      .ok ⟨.database (Store.insertText (.string name) (.string name) text table) none, none⟩ := by
  simp only [Store.set, htext]
  rfl

theorem set_of_text?_ok (name : String) (h : Holds table s) (htext : value.text? = .ok text) :
    ∃ s', s.set (.string name) value = .ok s' ∧
      Holds (Store.insertText (.string name) (.string name) text table) s' := by
  cases h with
  | memory => exact ⟨_, set_memory htext name table, .memory⟩
  | database => exact ⟨_, set_database htext name table, .database⟩

theorem set_of_text?_error (h : Holds table s) {problem : Obstacle}
    (htext : value.text? = .error problem) :
    s.set (.string name) value = .error (.notSerializable name problem) := by
  cases h <;>
  · simp only [Store.set, htext]
    rfl

theorem afterFailure_of_holds (h : Holds table s) (key value : Json) :
    s.afterFailure key value = s := by
  cases h <;> rfl

theorem reply_of_holds (h : Holds table s) (h' : Holds table s') (call : Call) :
    reply s call = reply s' call := by
  cases call with
  | get name default => rw [reply, reply, get_of_holds h, get_of_holds h']
  | set name value =>
      cases htext : value.text? with
      | ok text =>
          obtain ⟨_, hset, -⟩ := set_of_text?_ok name h htext
          obtain ⟨_, hset', -⟩ := set_of_text?_ok name h' htext
          rw [reply, reply, hset, hset']
      | error problem =>
          rw [reply, reply, set_of_text?_error h htext, set_of_text?_error h' htext]
  | close | reopen => rfl

theorem holds_step (h : Holds table s) (call : Call) :
    Holds (tableAfter table call) (step s call) := by
  cases call with
  | get name default => exact h
  | set name value =>
      cases htext : value.text? with
      | ok text =>
          obtain ⟨s', hset, hs'⟩ := set_of_text?_ok name h htext
          rw [step, hset, tableAfter, htext]
          exact hs'
      | error problem =>
          rw [step, set_of_text?_error h htext, tableAfter, htext]
          dsimp only
          rw [afterFailure_of_holds h]
          exact h
  | close => cases h <;> constructor
  | reopen => cases h <;> constructor

theorem holds_run (h : Holds table s) (calls : List Call) :
    Holds (calls.foldl tableAfter table) (run s calls) := by
  induction calls generalizing table s with
  | nil => exact h
  | cons call calls ih => exact ih (holds_step h call)

theorem replies_of_holds (h : Holds table s) (h' : Holds table s') (calls : List Call) :
    replies s calls = replies s' calls := by
  induction calls generalizing table s s' with
  | nil => rfl
  | cons call calls ih =>
      rw [replies, replies, reply_of_holds h h' call, ih (holds_step h call) (holds_step h' call)]

theorem settingOf_set (h : Holds table s) (name : String) (value : Json) :
    settingOf s (.set name value) =
      match value.text? with
      | .ok _ => [(name, value)]
      | .error _ => [] := by
  cases htext : value.text? with
  | ok text =>
      obtain ⟨_, hset, -⟩ := set_of_text?_ok name h htext
      simp only [settingOf, reply, hset]
  | error problem => simp only [settingOf, reply, set_of_text?_error h htext]

/-- A table keeps the text of the value that each name was last set to, and nothing else. -/
def Reflects (table : Table) (sets : List (String × Json)) : Prop :=
  ∀ name, match sets.reverse.lookup name with
    | none => OrderedMap.get? (.string name) table = none
    | some value => ∃ shown text, OrderedMap.get? (.string name) table = some (shown, text) ∧
        value.text? = .ok text

theorem reflects_nil : Reflects [] [] :=
  fun _ => rfl

theorem Reflects.set (hreflects : Reflects table sets) (htext : value.text? = .ok text) :
    Reflects (Store.insertText (.string name) (.string name) text table)
      (sets ++ [(name, value)]) := by
  intro other
  have hother := hreflects other
  rw [List.reverse_append, List.reverse_singleton, List.singleton_append, List.lookup_cons]
  rw [Store.insertText, OrderedMap.get?_insert]
  by_cases heq : other = name
  · subst heq
    rw [beq_self_eq_true, if_pos rfl]
    exact ⟨_, text, rfl, htext⟩
  · have hkey : Key.string other ≠ Key.string name := fun h => heq (Key.string.inj h)
    rw [beq_eq_false_iff_ne.mpr heq, if_neg (Ne.symm hkey)]
    exact hother

theorem reflects_step (h : Holds table s) (hreflects : Reflects table sets) (call : Call) :
    Reflects (tableAfter table call) (sets ++ settingOf s call) := by
  cases call with
  | get name default => simpa [settingOf, tableAfter] using hreflects
  | set name value =>
      rw [settingOf_set h, tableAfter]
      cases htext : value.text? with
      | ok text => exact hreflects.set htext
      | error problem => rwa [List.append_nil]
  | close | reopen => simpa [settingOf, tableAfter] using hreflects

theorem reflects_run (h : Holds table s) (hreflects : Reflects table sets) (calls : List Call) :
    Reflects (calls.foldl tableAfter table) (sets ++ settings s calls) := by
  induction calls generalizing table s sets with
  | nil => rwa [settings, List.append_nil]
  | cons call calls ih =>
      rw [settings, ← List.append_assoc]
      exact ih (holds_step h call) (reflects_step h hreflects call)

end Tables

section Maps

variable {s : Store} {table : Table} {sets : List (String × Json)} {name : String} {value : Json}

theorem get_of_reflects_none (h : Holds table s) (hreflects : Reflects table sets)
    (hnone : sets.reverse.lookup name = none) (default : Json) :
    reply s (.get name default) = .value default := by
  have hget := hreflects name
  rw [hnone] at hget
  simp only [reply, get_of_holds h, hget]

theorem get_of_reflects_some (h : Holds table s) (hreflects : Reflects table sets)
    (hsome : sets.reverse.lookup name = some value) (hplain : Plain value)
    (hnesting : nesting value ≤ maxDepth) (default : Json) :
    reply s (.get name default) = .value value := by
  have hget := hreflects name
  rw [hsome] at hget
  obtain ⟨shown, text, hget, htext⟩ := hget
  simp only [reply, get_of_holds h, hget, read_text hplain hnesting htext]

theorem refused_set_iff (h : Holds table s) (hshort : ShortIntegers value) :
    (∃ error, reply s (.set name value) = .refused error) ↔ HasPart .foreign value := by
  cases htext : value.text? with
  | ok text =>
      obtain ⟨_, hset, -⟩ := set_of_text?_ok name h htext
      have hforeign : ¬HasPart .foreign value :=
        (exists_text?_iff_not_foreign hshort).mp ⟨text, htext⟩
      simp [reply, hset, hforeign]
  | error problem =>
      have hforeign : HasPart .foreign value := by
        by_contra hnone
        obtain ⟨text, hok⟩ := (exists_text?_iff_not_foreign hshort).mpr hnone
        cases htext.symm.trans hok
      simp [reply, set_of_text?_error h htext, hforeign]

/-- A call that is refused leaves the store as it was. -/
theorem step_of_refused (hholds : Holds table s) {call : Call} {error : StoreError}
    (h : reply s call = .refused error) : step s call = s := by
  cases call with
  | get name default => rfl
  | set name value =>
      rw [reply] at h
      split at h
      · cases h
      · rename_i hset
        rw [step, hset]
        exact afterFailure_of_holds hholds _ _
  | close | reopen => cases h

/-- How a map by name answers to a call after some others. A setting is refused exactly when its
value has a foreign part, and what is refused changes nothing. What is got is the value that the
name was last set to, or else the default. Limits on the length of integers and on nesting apart,
this holds of all values. -/
structure AnswersAsMap (start : Store) (earlier : List Call) (call : Call) : Prop where
  refused_iff : ∀ name value, call = .set name value → ShortIntegers value →
    ((∃ error, reply (run start earlier) call = .refused error) ↔ HasPart .foreign value)
  unchanged : ∀ error, reply (run start earlier) call = .refused error →
    ∀ name default, (step (run start earlier) call).get (.string name) default =
      (run start earlier).get (.string name) default
  default : ∀ name default, call = .get name default → latest start earlier name = none →
    reply (run start earlier) call = .value default
  latest : ∀ name default value, call = .get name default →
    latest start earlier name = some value → Plain value → nesting value ≤ maxDepth →
    reply (run start earlier) call = .value value

/-- A store in memory and one in a database give the same answers to the same calls, and both answer
as a map does. -/
theorem stores_answer_alike (calls : List Call) :
    replies .empty calls = replies .newDatabase calls ∧
      ∀ start, start = .empty ∨ start = .newDatabase →
        ∀ earlier call later, calls = earlier ++ call :: later →
          AnswersAsMap start earlier call := by
  refine ⟨replies_of_holds .memory .database calls, ?_⟩
  rintro start hstart earlier call later -
  have hempty : Holds [] start := by
    rcases hstart with rfl | rfl
    · exact .memory
    · exact .database
  have hholds := holds_run hempty earlier
  have hreflects := reflects_run hempty reflects_nil earlier
  refine ⟨?_, ?_, ?_, ?_⟩
  · rintro name value rfl hshort
    exact refused_set_iff hholds hshort
  · intro error herror name default
    rw [step_of_refused hholds herror]
  · rintro name default rfl hnone
    exact get_of_reflects_none hholds hreflects hnone default
  · rintro name default value rfl hsome hplain hnesting
    exact get_of_reflects_some hholds hreflects hsome hplain hnesting default

/-- Calls that set a null, are refused a list, and keep a text across a closing. -/
def sampleCalls : List Call :=
  [.set "a" .null, .set "a" (.array [.int 1, .foreign]), .get "a" (.int 5),
    .set "b" (.object [("🎉\"\\\n", .int (-10 ^ 20))]), .close, .reopen, .get "b" .null]

theorem stores_answer_alike_sample :
    replies .empty sampleCalls = replies .newDatabase sampleCalls ∧
      (∃ error, reply (run .newDatabase (sampleCalls.take 1))
        (.set "a" (.array [.int 1, .foreign])) = .refused error) ∧
      reply (run .empty (sampleCalls.take 2)) (.get "a" (.int 5)) = .value .null ∧
      reply (run .newDatabase (sampleCalls.take 6)) (.get "b" .null) =
        .value (.object [("🎉\"\\\n", .int (-10 ^ 20))]) := by
  obtain ⟨hreplies, hall⟩ := stores_answer_alike sampleCalls
  have hshort : ShortIntegers (.array [.int 1, .foreign]) := by
    intro n hpartOf
    obtain ⟨v, hv, hpartOf⟩ : ∃ v ∈ [.int 1, .foreign], HasPart (.int n) v := by
      cases hpartOf with
      | item hmem h => exact ⟨_, hmem, h⟩
    simp only [List.mem_cons, List.not_mem_nil, or_false] at hv
    rcases hv with rfl | rfl <;> cases hpartOf
    decide
  have hforeign : HasPart .foreign (.array [.int 1, .foreign]) :=
    .item (List.mem_cons_of_mem _ List.mem_cons_self) .itself
  refine ⟨hreplies, ?_, ?_, ?_⟩
  · exact ((hall .newDatabase (.inr rfl) (sampleCalls.take 1) _ _ rfl).refused_iff "a" _ rfl
      hshort).mpr hforeign
  · exact (hall .empty (.inl rfl) (sampleCalls.take 2) _ _ rfl).latest "a" (.int 5) _ rfl rfl
      trivial (by decide)
  · exact (hall .newDatabase (.inr rfl) (sampleCalls.take 6) _ _ rfl).latest "b" .null _ rfl rfl
      ⟨by decide, trivial, trivial⟩ (by decide)

end Maps

end SymbolSearch.Proofs.StoreRuns
