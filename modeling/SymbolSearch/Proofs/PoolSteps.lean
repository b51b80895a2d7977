import SymbolSearch.Proofs.DeskInvariants

namespace SymbolSearch.Proofs.PoolSteps

open DeskActions
open DeskInvariants
open SessionSteps

/-- The session that an event is about. -/
def target? : SessionEvent → Option String
  | .create id .. | .openSession id | .filter id _ | .close id | .land id | .accept id _ => some id
  | .invalidate _ | .record .. | .setClock _ => none

/-- An event that makes a new session of a name. -/
def Creates (id : String) (event : SessionEvent) : Prop :=
  ∃ kind root announces breakdown, event = .create id kind root announces breakdown

/-- What an event makes of the session that it is about. -/
def sessionAfter (d : Desk) (m : Member) : SessionEvent → Session
  | .openSession _ =>
      match (m.session.start.run.run d).1 with
      | .ok s => s
      | .error _ => m.session
  | .filter _ value =>
      match m.session.setFilter value with
      | .error _ => m.session
      | .ok s =>
          match (s.applyFilter.run.run d).1 with
          | .ok s => s
          | .error _ => s
  | .close _ => m.session.close
  | .land _ => ((m.session.landWith (SessionPool.extraction m)).run d).1
  | _ => m.session

variable {p : SessionPool} {id : String} {m : Member}

theorem get?_put_self (p : SessionPool) (id : String) (m : Member) (s : Session) :
    OrderedMap.get? id (p.put id m s).members = some { m with session := s } := by
  rw [SessionPool.put, OrderedMap.get?_insert, if_pos rfl]

theorem get?_put_of_ne {id' : String} (h : id' ≠ id) (p : SessionPool) (m : Member) (s : Session) :
    OrderedMap.get? id (p.put id' m s).members = OrderedMap.get? id p.members := by
  rw [SessionPool.put, OrderedMap.get?_insert, if_neg h]

theorem get?_act_self (hm : OrderedMap.get? id p.members = some m) (action : Action Session) :
    OrderedMap.get? id (p.act id m action).2.members =
      some { m with
        session :=
          match (action.run.run p.desk).1 with
          | .ok s => s
          | .error _ => m.session } := by
  unfold SessionPool.act
  rcases action.run.run p.desk with ⟨result, d⟩
  cases result with
  | error reason => exact hm
  | ok s => exact get?_put_self ..

theorem get?_act_of_ne {id' : String} (h : id' ≠ id) (p : SessionPool) (m : Member)
    (action : Action Session) :
    OrderedMap.get? id (p.act id' m action).2.members = OrderedMap.get? id p.members := by
  unfold SessionPool.act
  rcases action.run.run p.desk with ⟨result, d⟩
  cases result with
  | error reason => rfl
  | ok s => exact get?_put_of_ne h ..

theorem members_land (p : SessionPool) (id : String) (m : Member) :
    (p.land id m).2.members =
      (p.put id m ((m.session.landWith (SessionPool.extraction m)).run p.desk).1).members := by
  unfold SessionPool.land
  rcases (m.session.landWith (SessionPool.extraction m)).run p.desk with ⟨s, d⟩
  simp only
  cases s.failure? <;> rfl

theorem members_accept (p : SessionPool) (m : Member) (index : Int) :
    (p.accept m index).2.members = p.members := by
  unfold SessionPool.accept
  split
  · rfl
  · split <;> rfl

theorem get?_step_of_target_ne {event : SessionEvent} (h : target? event ≠ some id) :
    OrderedMap.get? id (p.step event).2.members = OrderedMap.get? id p.members := by
  cases event with
  | create id' kind root announces breakdown =>
      have hne : id' ≠ id := fun he => h (congrArg some he)
      simp only [SessionPool.step, OrderedMap.get?_insert, if_neg hne]
  | openSession id' =>
      have hne : id' ≠ id := fun he => h (congrArg some he)
      simp only [SessionPool.step]
      cases p.member id' with
      | error e => rfl
      | ok m => exact get?_act_of_ne hne ..
  | filter id' value =>
      have hne : id' ≠ id := fun he => h (congrArg some he)
      simp only [SessionPool.step]
      cases p.member id' with
      | error e => rfl
      | ok m =>
          simp only
          cases m.session.setFilter value with
          | error reason => rfl
          | ok s => exact (get?_act_of_ne hne ..).trans (get?_put_of_ne hne ..)
  | close id' =>
      have hne : id' ≠ id := fun he => h (congrArg some he)
      simp only [SessionPool.step]
      cases p.member id' with
      | error e => rfl
      | ok m => exact get?_put_of_ne hne ..
  | land id' =>
      have hne : id' ≠ id := fun he => h (congrArg some he)
      simp only [SessionPool.step]
      cases p.member id' with
      | error e => rfl
      | ok m => exact (congrArg _ (members_land p id' m)).trans (get?_put_of_ne hne ..)
  | accept id' index =>
      simp only [SessionPool.step]
      cases p.member id' with
      | error e => rfl
      | ok m =>
          have hmembers := members_accept p m index
          simp only
          split <;> rename_i haccept <;> rw [haccept] at hmembers <;>
            exact congrArg _ hmembers
  | invalidate key => rfl
  | record file symbol =>
      simp only [SessionPool.step]
      split <;> rfl
  | setClock now => rfl

theorem member_eq (hm : OrderedMap.get? id p.members = some m) : p.member id = .ok m := by
  rw [SessionPool.member, hm]

/-- An event does to the session it is about what it does to a session alone. -/
theorem get?_step_of_target (hm : OrderedMap.get? id p.members = some m) {event : SessionEvent}
    (h : target? event = some id) (hcreate : ¬Creates id event) :
    OrderedMap.get? id (p.step event).2.members =
      some { m with session := sessionAfter p.desk m event } := by
  cases event with
  | create id' kind root announces breakdown =>
      obtain rfl := Option.some.inj h
      exact absurd ⟨kind, root, announces, breakdown, rfl⟩ hcreate
  | openSession id' =>
      obtain rfl := Option.some.inj h
      simp only [SessionPool.step, member_eq hm]
      exact get?_act_self hm _
  | filter id' value =>
      obtain rfl := Option.some.inj h
      simp only [SessionPool.step, member_eq hm, sessionAfter]
      cases m.session.setFilter value with
      | error reason => exact hm
      | ok s =>
          refine (get?_act_self (m := { m with session := s }) (get?_put_self ..) _).trans ?_
          rfl
  | close id' =>
      obtain rfl := Option.some.inj h
      simp only [SessionPool.step, member_eq hm]
      exact get?_put_self ..
  | land id' =>
      obtain rfl := Option.some.inj h
      simp only [SessionPool.step, member_eq hm]
      exact (congrArg _ (members_land p id' m)).trans (get?_put_self ..)
  | accept id' index =>
      obtain rfl := Option.some.inj h
      simp only [SessionPool.step, member_eq hm]
      have hmembers := members_accept p m index
      split <;> rename_i haccept <;> rw [haccept] at hmembers <;>
        exact (congrArg _ hmembers).trans hm
  | invalidate key => cases h
  | record file symbol => cases h
  | setClock now => cases h

theorem step_unknown (hm : OrderedMap.get? id p.members = none) {event : SessionEvent}
    (h : target? event = some id) (hcreate : ¬Creates id event) : (p.step event).2 = p := by
  have hmember : p.member id = .error (.unknownSession id) := by rw [SessionPool.member, hm]
  cases event with
  | create id' kind root announces breakdown =>
      obtain rfl := Option.some.inj h
      exact absurd ⟨kind, root, announces, breakdown, rfl⟩ hcreate
  | invalidate key => cases h
  | record file symbol => cases h
  | setClock now => cases h
  | _ =>
      obtain rfl := Option.some.inj h
      simp only [SessionPool.step, hmember]

theorem get?_step (hm : OrderedMap.get? id p.members = some m) {event : SessionEvent}
    (hcreate : ¬Creates id event) :
    OrderedMap.get? id (p.step event).2.members =
      some { m with
        session :=
          if target? event = some id then sessionAfter p.desk m event else m.session } := by
  by_cases h : target? event = some id
  · rw [get?_step_of_target hm h hcreate, if_pos h]
  · rw [get?_step_of_target_ne h, if_neg h, hm]

theorem exists_of_get?_step {event : SessionEvent} {m' : Member}
    (hm : OrderedMap.get? id (p.step event).2.members = some m') (hcreate : ¬Creates id event) :
    ∃ m, OrderedMap.get? id p.members = some m ∧
      m' = { m with
        session :=
          if target? event = some id then sessionAfter p.desk m event else m.session } := by
  cases hold : OrderedMap.get? id p.members with
  | none =>
      have hnone : OrderedMap.get? id (p.step event).2.members = none := by
        by_cases htarget : target? event = some id
        · rw [step_unknown hold htarget hcreate]
          exact hold
        · rw [get?_step_of_target_ne htarget]
          exact hold
      rw [hnone] at hm
      cases hm
  | some m =>
      rw [get?_step hold hcreate] at hm
      exact ⟨m, rfl, (Option.some.inj hm).symm⟩

/-- Whether an event starts the rescan of a session: only a successful opening does. -/
def startsRescan (id : String) (p : SessionPool) : SessionEvent → Bool
  | .openSession id' => id' = id && (p.step (.openSession id')).1.isOk
  | _ => false

theorem isOk_step_open (hm : OrderedMap.get? id p.members = some m) :
    (p.step (.openSession id)).1.isOk = (m.session.start.run.run p.desk).1.isOk := by
  simp only [SessionPool.step, member_eq hm, SessionPool.act]
  rcases m.session.start.run.run p.desk with ⟨result, d⟩
  cases result <;> rfl

theorem config_step (p : SessionPool) (event : SessionEvent) :
    (p.step event).2.desk.config = p.desk.config :=
  (lasting_config p.desk.config).step rfl event

end SymbolSearch.Proofs.PoolSteps
