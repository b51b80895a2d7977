import SymbolSearch.Proofs.Persistence

namespace SymbolSearch.Proofs.FailingWrites

open Persistence
open StoredMap
open Tracker
open TrackerSteps

/-- What a tracker can be asked about its map. -/
inductive Question
  | score (file : String) (symbol : Option String)
  | scores (keys : List String)
  | entries
  | mostRecent (limit : Json)
  | count

/-- What a tracker can be called for. -/
inductive TrackerCall
  | record (file : String) (symbol : Option String)
  | clear
  | ask (question : Question)

inductive TrackerReply
  | entry (e : Entry)
  | score (s : Score)
  | scores (rows : OrderedMap String Score)
  | entries (map : OrderedMap String Entry)
  | recent (rows : List (String × Score))
  | count (n : Nat)
  | done

/-- The answer to a question from a loaded map. Of several equal keys one is answered. -/
def Question.answer (config : Config) (now : Int) (t : Tracker) :
    Question → Except Failure TrackerReply
  | .score file symbol => (t.score config now (recencyKey file symbol)).map .score
  | .scores keys =>
      (keys.mapM fun key => (t.score config now key).map (key, ·)).map fun rows =>
        .scores (OrderedMap.ofList rows)
  | .entries => .ok (.entries t.entries)
  | .mostRecent limit => (t.mostRecent config now limit).map .recent
  | .count => .ok (.count t.entries.length)

/-- A call, the time of the clock, and what goes wrong with writes just then. -/
structure Turn where
  call : TrackerCall
  now : Int
  fault : Option WriteFault

/-- A tracker and the store behind it. -/
structure Kept where
  tracker : Tracker
  store : Store

namespace Kept

/-- The store as a turn finds it. -/
def storeAt (k : Kept) (turn : Turn) : Store :=
  { k.store with fault := turn.fault }

/-- The reply to a call, and what is kept after it. -/
def serve (config : Config) (k : Kept) (turn : Turn) : Except Failure TrackerReply × Kept :=
  match turn.call with
  | .record file symbol =>
      let recorded := k.tracker.record config (k.storeAt turn) turn.now file symbol
      (recorded.entry.map .entry, ⟨recorded.tracker, recorded.store⟩)
  | .clear =>
      let cleared := Tracker.clear config (k.storeAt turn)
      (.ok .done, ⟨cleared.1, cleared.2.1⟩)
  | .ask question =>
      match k.tracker.load config (k.storeAt turn) with
      | .error failure => (.error failure, ⟨k.tracker, k.storeAt turn⟩)
      | .ok (loaded, _) => (question.answer config turn.now loaded, ⟨loaded, k.storeAt turn⟩)

def run (config : Config) (k : Kept) (turns : List Turn) : Kept :=
  turns.foldl (fun k turn => (k.serve config turn).2) k

def replies (config : Config) : Kept → List Turn → List (Except Failure TrackerReply)
  | _, [] => []
  | k, turn :: turns => (k.serve config turn).1 :: (k.serve config turn).2.replies config turns

end Kept

/-- The last of the maps that a series of turns has done something with. -/
def latest? (config : Config) (done : Kept → Turn → Option Json) : Kept → List Turn → Option Json
  | _, [] => none
  | k, turn :: turns => (latest? config done (k.serve config turn).2 turns).or (done k turn)

/-- The errors of a store that could not be written. Others tell why it could not be read. -/
def refusesWrite : StoreError → Bool
  | .notSerializable .. | .unusable | .unwritable | .uncommitted | .diskFull => true
  | .notImplemented | .unhashable _ | .unreadable _ => false

variable {config : Config} {k k' : Kept} {turn turn' : Turn} {store : Store} {t loaded : Tracker}
  {notices : List Notice} {name : String}

section Reading

theorem get_storeAt (k : Kept) (turn : Turn) (key default : Json) :
    (k.storeAt turn).get key default = k.store.get key default := by
  obtain ⟨t, medium, fault⟩ := k
  cases medium <;> rfl

theorem load_storeAt (t : Tracker) (k : Kept) (turn : Turn) :
    t.load config (k.storeAt turn) = t.load config k.store := by
  simp only [load, get_storeAt]

end Reading

section Errors

variable {α β : Type} {r : Except Failure α}

/-- A result that is not lost to a failed write. -/
def Withstands (r : Except Failure α) : Prop :=
  ∀ error, r = .error (.store error) → refusesWrite error = false

theorem withstands_ok (a : α) : Withstands (.ok a : Except Failure α) := by
  rintro error ⟨⟩

theorem Withstands.bind {f : α → Except Failure β} (h : Withstands r)
    (hf : ∀ a, Withstands (f a)) : Withstands (r >>= f) := by
  cases r with
  | error failure =>
      rintro error ⟨⟩
      exact h error rfl
  | ok a => exact hf a

theorem Withstands.map (h : Withstands r) (f : α → β) : Withstands (r.map f) := by
  cases r with
  | error failure =>
      rintro error ⟨⟩
      exact h error rfl
  | ok a => exact withstands_ok (f a)

end Errors

section TwoRuns

/-- Two trackers that have the same map in memory, or would read the same from their stores. What
else the stores hold may differ. -/
structure Alike (config : Config) (k k' : Kept) : Prop where
  tracker : k'.tracker = k.tracker
  load : k'.tracker.load config k'.store = k.tracker.load config k.store

theorem alike_of_loaded (h : k.tracker.loaded = true) (htracker : k'.tracker = k.tracker) :
    Alike config k k' := by
  refine ⟨htracker, ?_⟩
  rw [htracker, load_of_loaded h, load_of_loaded h]

/-- A turn leads from trackers that are alike to such trackers again, with the same reply, whatever
goes wrong with the writes of either. -/
theorem Alike.serve (h : Alike config k k') (hcall : turn'.call = turn.call)
    (hnow : turn'.now = turn.now) :
    (k'.serve config turn').1 = (k.serve config turn).1 ∧
      Alike config (k.serve config turn).2 (k'.serve config turn').2 := by
  have hload : k'.tracker.load config (k'.storeAt turn') =
      k.tracker.load config (k.storeAt turn) := by
    rw [load_storeAt, load_storeAt, h.load]
  have hunread : Alike config ⟨k.tracker, k.storeAt turn⟩ ⟨k'.tracker, k'.storeAt turn'⟩ :=
    ⟨h.tracker, hload⟩
  unfold Kept.serve
  rw [hcall, hnow]
  cases turn.call with
  | record file symbol =>
      simp only [record_eq, hload]
      cases k.tracker.load config (k.storeAt turn) with
      | error failure => exact ⟨rfl, hunread⟩
      | ok result =>
          dsimp only
          split
          · exact ⟨rfl, alike_of_loaded rfl rfl⟩
          · exact ⟨rfl, alike_of_loaded rfl rfl⟩
  | clear =>
      refine ⟨rfl, alike_of_loaded ?_ ?_⟩
      · dsimp only
        rw [tracker_clear]
      · dsimp only
        rw [tracker_clear, tracker_clear]
  | ask question =>
      simp only [hload]
      cases hresult : k.tracker.load config (k.storeAt turn) with
      | error failure => exact ⟨rfl, hunread⟩
      | ok result => exact ⟨rfl, alike_of_loaded (loaded_of_load hresult) rfl⟩

theorem Alike.replies {turns turns' : List Turn} (h : Alike config k k')
    (hsame : turns'.map (fun turn => (turn.call, turn.now)) =
      turns.map fun turn => (turn.call, turn.now)) :
    k'.replies config turns' = k.replies config turns := by
  induction turns generalizing k k' turns' with
  | nil =>
      obtain rfl := List.map_eq_nil_iff.mp hsame
      rfl
  | cons turn turns ih =>
      obtain ⟨turn', turns', rfl, hturn, hturns⟩ := List.map_eq_cons_iff.mp hsame
      obtain ⟨hcall, hnow⟩ := Prod.mk.inj hturn
      obtain ⟨hreply, hnext⟩ := h.serve hcall hnow
      rw [Kept.replies, Kept.replies, hreply, ih hnext hturns]

end TwoRuns

section Stored

end Stored

section Texts

variable {value : Json}

end Texts

section Sample

end Sample

end SymbolSearch.Proofs.FailingWrites
