import SymbolSearch.Error
import SymbolSearch.Json.Limits

namespace SymbolSearch

/-- What a value is kept under. Numbers of equal value are one key, and truth values count as zero
and one. -/
inductive Key
  | null
  | int (n : Int)
  | real (bits : UInt64)
  | string (s : String)
deriving Repr, DecidableEq

namespace Key

/-- The key that a structured value stands for. Arrays and objects are none. -/
def ofJson? : Json → Option Key
  | .null => some .null
  | .bool b => some (.int (if b then 1 else 0))
  | .int n => some (.int n)
  | .real x => some (if Number.isWhole x then .int (Decimal.truncate x) else .real x.toBits)
  | .string s => some (.string s)
  | .array _ | .object _ | .foreign => none

/-- The text under which a database keeps a key. Nothing is kept under no key at all. -/
def text? : Json → Option String
  | .string s => some s
  | .int n => some (Decimal.integerText n)
  | .bool b => some (if b then "1" else "0")
  | .real x => some (Decimal.shortestText x)
  | _ => none

end Key

/-- Texts by key. Each entry keeps the key as it was first given. -/
abbrev Table := OrderedMap Key (Json × String)

/-- Where values are kept: in memory, in the table of a database file, or nowhere yet. What a
database was told to write but could not commit is pending: it is read back, though the file does
not hold it. The table of a database may have been dropped, and a file that is not a database cannot
be used. -/
inductive Medium
  | memory (table : Table)
  | database (table : Table) (pending : Option Table)
  | tableless
  | corrupted
  | unimplemented

/-- What goes wrong with a write: it is refused at once, or a database cannot commit it. -/
inductive WriteFault
  | refused
  | uncommitted
deriving Repr, DecidableEq

/-- A store of structured values by key, each kept as its text, and what goes wrong with writes at
the moment. -/
structure Store where
  medium : Medium
  fault : Option WriteFault

namespace Store

/-- A store in memory without values. -/
def empty : Store :=
  ⟨.memory [], none⟩

/-- A store in a new database file. -/
def newDatabase : Store :=
  ⟨.database [] none, none⟩

/-- The table that values are read from. -/
def table : Store → Table
  | ⟨.memory table, _⟩ => table
  | ⟨.database table pending, _⟩ => pending.getD table
  | _ => []

/-- Whether values are kept in a database. -/
def isDatabase (s : Store) : Bool :=
  match s.medium with
  | .database .. | .tableless | .corrupted => true
  | .memory _ | .unimplemented => false

/-- The key of a table that a value stands for in a store. A database turns keys into texts; what
is no text is kept under no key that can be found again. In memory any key will do that can be told
apart from others. -/
def keyOf (s : Store) (key : Json) : Except StoreError (Option Key) :=
  if s.isDatabase then .ok ((Key.text? key).map .string)
  else
    match key, Key.ofJson? key with
    | _, some k => .ok (some k)
    | value, none => .error (.unhashable value.typeName)

/-- The text that is read under a key. -/
def textOf? (s : Store) (key : Json) : Except StoreError (Option String) := do
  return ((← s.keyOf key).bind fun k => OrderedMap.get? k s.table).map Prod.snd

/-- The value of a key, or the default when there is none. A text that is no value counts as
none. -/
def get (s : Store) (key default : Json) : Except StoreError Json :=
  match s.medium with
  | .unimplemented => .error .notImplemented
  | _ => do
      match ← s.textOf? key with
      | none => return default
      | some text =>
          match Json.read text with
          | .ok value => return value
          | .error .malformed => return default
          | .error excess => throw (.unreadable excess)

/-- Adds a text to a table. -/
def insertText (key : Json) (k : Key) (text : String) (table : Table) : Table :=
  let shown := (OrderedMap.get? k table).elim key Prod.fst
  OrderedMap.insert k (shown, text) table

/-- The table of a database after a text is written under a key. What is written under no key at all
is never found. -/
def execute (key : Json) (text : String) (table : Table) : Except StoreError Table :=
  match key, Key.text? key with
  | .null, _ => .ok table
  | _, some name => .ok (insertText (.string name) (.string name) text table)
  | _, none => .error .unwritable

/-- Writes a text under a key. -/
def write (s : Store) (key : Json) (text : String) : Except StoreError Store :=
  match s.medium with
  | .memory table => do
      match ← s.keyOf key with
      | some k => return { s with medium := .memory (insertText key k text table) }
      | none => return s
  | .database .. => do
      let table ← execute key text s.table
      if s.fault == some .uncommitted then throw .uncommitted
      return { s with medium := .database table none }
  | .tableless => .error .unwritable
  | .corrupted => .error .unusable
  | .unimplemented => .error .notImplemented

/-- Sets the value of a key. A value without a text is refused before anything is written. -/
def set (s : Store) (key value : Json) : Except StoreError Store :=
  if s.fault == some .refused then .error .diskFull
  else
    match s.medium, value.text? with
    | .unimplemented, _ => .error .notImplemented
    | _, .error problem => .error (.notSerializable key.display problem)
    | _, .ok text =>
        match s.write key text with
        | .error (.unhashable type) => .error (.notSerializable key.display (.unhashable type))
        | result => result

/-- What is left of a store when a value could not be set. The failed commit is not rolled back, so
that the value stays pending until the next commit or until the file is closed. -/
def afterFailure (s : Store) (key value : Json) : Store :=
  match s.medium, s.fault, value.text? with
  | .database table _, some .uncommitted, .ok text =>
      match execute key text s.table with
      | .ok pending => { s with medium := .database table (some pending) }
      | .error _ => s
  | _, _, _ => s

/-- The keys that have a value. -/
def keys (s : Store) : List Json :=
  (OrderedMap.values s.table).map Prod.fst

/-- Sets several values one after the other. -/
def setAll (s : Store) (values : List (String × Json)) : Except StoreError Store :=
  values.foldlM (fun s entry => s.set (.string entry.1) entry.2) s

/-- Closes the file. What is kept stays kept, since the next call opens the file again; what is
pending is lost. In memory there is nothing to close. -/
def close (s : Store) : Store :=
  match s.medium with
  | .database table _ => { s with medium := .database table none }
  | _ => s

/-- Opens the file again. A missing table is created; a file that is not a database stays
unusable. -/
def reopen (s : Store) : Store :=
  match s.medium with
  | .tableless => { s with medium := .database [] none }
  | _ => s.close

/-- Drops the table of a database. -/
def dropTable (s : Store) : Store :=
  match s.medium with
  | .database .. => { s with medium := .tableless }
  | _ => s

/-- Overwrites the file with something that is not a database. -/
def corrupt (s : Store) : Store :=
  match s.medium with
  | .database .. | .tableless => { s with medium := .corrupted }
  | _ => s

end Store

end SymbolSearch
