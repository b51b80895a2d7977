import SymbolSearch.Session

namespace SymbolSearch

/-- A session among others: whether it announces its updates, and what its extraction fails with
when it is bound to fail. -/
structure Member where
  session : Session
  announces : Bool
  breakdown : Option String

/-- Sessions that share one desk. -/
structure SessionPool where
  desk : Desk
  members : OrderedMap String Member

/-- What can happen to the sessions of a pool. -/
inductive SessionEvent
  | create (id : String) (kind : Json) (root : String) (announces : Bool)
      (breakdown : Option String)
  | openSession (id : String)
  | filter (id : String) (value : Json)
  | close (id : String)
  | land (id : String)
  | accept (id : String) (index : Int)
  | invalidate (key : Option String)
  | record (file : String) (symbol : Option String)
  | setClock (now : Int)

/-- Why an event has no effect. -/
inductive PoolError
  | unknownSession (id : String)
  | noSuchItem
  | failed (reason : Failure)

namespace SessionPool

/-- The session with the given name. -/
def member (p : SessionPool) (id : String) : Except PoolError Member :=
  match OrderedMap.get? id p.members with
  | some m => .ok m
  | none => .error (.unknownSession id)

/-- Puts a changed session back. -/
def put (p : SessionPool) (id : String) (m : Member) (s : Session) : SessionPool :=
  { p with members := OrderedMap.insert id { m with session := s } p.members }

/-- Runs an action that changes a session. When it fails the session stays as it is. -/
def act (p : SessionPool) (id : String) (m : Member) (action : Action Session) :
    Except PoolError Unit × SessionPool :=
  match action.run.run p.desk with
  | (.ok s, desk) => (.ok (), { p with desk := desk }.put id m s)
  | (.error reason, desk) => (.error (.failed reason), { p with desk := desk })

/-- The extraction of a session, which may be bound to fail. -/
def extraction (m : Member) : Action (List Occurrence) :=
  match m.breakdown with
  | some reason => throw (.scan reason)
  | none => Desk.extract m.session.kind m.session.root

/-- Lets the rescan of a session land, and reports its failure. -/
def land (p : SessionPool) (id : String) (m : Member) : Except PoolError Unit × SessionPool :=
  let (s, desk) := (m.session.landWith (extraction m)).run p.desk
  let p := { p with desk := desk }.put id m s
  match s.failure? with
  | some reason => (.error (.failed reason), p)
  | none => (.ok (), p)

/-- Accepts the item of a session at a signed position. -/
def accept (p : SessionPool) (m : Member) (index : Int) : Except PoolError Item × SessionPool :=
  match atSigned? index m.session.items with
  | none => (.error .noSuchItem, p)
  | some item =>
      match (Session.accept item).run.run p.desk with
      | (.ok _, desk) => (.ok item, { p with desk := desk })
      | (.error reason, desk) => (.error (.failed reason), { p with desk := desk })

/-- What an event does to a pool. -/
def step (p : SessionPool) (event : SessionEvent) : Except PoolError Unit × SessionPool :=
  match event with
  | .create id kind root announces breakdown =>
      (.ok (), { p with
        members := OrderedMap.insert id ⟨Session.new kind root, announces, breakdown⟩ p.members })
  | .openSession id =>
      match p.member id with
      | .error e => (.error e, p)
      | .ok m => p.act id m m.session.start
  | .filter id value =>
      match p.member id with
      | .error e => (.error e, p)
      | .ok m =>
          match m.session.setFilter value with
          | .error reason => (.error (.failed reason), p)
          | .ok s => (p.put id m s).act id m s.applyFilter
  | .close id =>
      match p.member id with
      | .error e => (.error e, p)
      | .ok m => (.ok (), p.put id m m.session.close)
  | .land id =>
      match p.member id with
      | .error e => (.error e, p)
      | .ok m => p.land id m
  | .accept id index =>
      match p.member id with
      | .error e => (.error e, p)
      | .ok m =>
          match p.accept m index with
          | (.ok _, p) => (.ok (), p)
          | (.error e, p) => (.error e, p)
  | .invalidate key =>
      (.ok (), { p with desk := ((Desk.invalidate key).run.run p.desk).2 })
  | .record file symbol =>
      match (Desk.record file symbol).run.run p.desk with
      | (.ok _, desk) => (.ok (), { p with desk := desk })
      | (.error reason, desk) => (.error (.failed reason), { p with desk := desk })
  | .setClock now => (.ok (), { p with desk := { p.desk with now := now } })

end SessionPool

end SymbolSearch
