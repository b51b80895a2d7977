import SymbolSearch.Proofs.PathResolution
import SymbolSearch.Proofs.ProgramRuns
import SymbolSearch.Proofs.ReadNumbers
import SymbolSearch.Proofs.StoreRuns
import SymbolSearch.Proofs.Utf8Text

namespace SymbolSearch.Proofs.ResumedSearch

open CommandLine
open DeskActions
open DeskInvariants
open JsonReading
open JsonText
open PathResolution
open ProgramRuns
open ReadNumbers
open StoredMap
open StoreRuns
open Traversal

section Given

variable {files : FileTree} {words : List String} {search : Search} {interactive : Bool}

end Given

section Remembering

variable {search : Search} {name : String} {table : Table} {s : Store}

end Remembering

section Programs

variable {t : Terminal} {config : Config} {search : Search} {c : Client} {path : Path}
  {given root : String}

/-- A terminal where commands can be run: the settings can be read and are in range, and there is a
place for the persistent state. -/
structure Ready (config : Config) (t : Terminal) : Prop where
  settings : Config.ofEnvironment t.environment = .ok config
  valid : config.validate = .ok ()
  state : ∃ file, config.statePath t.environment.homes = .ok file

theorem Ready.client_run (h : Ready config t) :
    Program.client.run.run t = (.ok (clientAt config t), t) := by
  rw [ProgramRuns.client_run h.settings, h.valid]

theorem Ready.needState_run (h : Ready config t) :
    (Program.needState (clientAt config t)).run.run t = (.ok (), t) := by
  obtain ⟨file, hfile⟩ := h.state
  have hneed := ProgramRuns.needState_run (clientAt config t) t
  have hdesk : (clientAt config t).desk.config = config := rfl
  rwa [hdesk, hfile] at hneed

end Programs

section Commands

variable {words : List String} {t : Terminal} {config : Config} {search : Search} {table : Table}
  {given : String} {path : Path}

theorem parse_of_read {files : FileTree} {name : String} {rest : List String} {usage : Usage}
    {task : Task} (g : Given) (hname : name ≠ "--") (husage : usages.lookup name = some usage)
    (hread : usage.read files rest = .ok g) (htask : taskOf? name g = some task) :
    Task.parse files (name :: rest) = .ok task := by
  have hwords : ((name :: rest).head? == some "--") = false := by simpa using hname
  rw [Task.parse, hwords]
  simp only [Bool.false_eq_true, if_false, husage, hread, bind, Except.bind, htask]
  rfl

/-- A terminal in a working directory with nothing but its home directory, an empty database, and a
tool that finds one class. -/
def sampleTerminal : Terminal where
  environment := ⟨[], "/home/a", []⟩
  files := ⟨[], ["/home/a"], [], "/work", "/home/a", []⟩
  tool := fun _ => .finished (Utf8Text.encode "./a.ts:1:1:class Foo \x7b\n") [] 0
  store := .newDatabase
  now := 0
  columns := 80
  lines := []
  output := ""
  errors := ""

theorem exists_ready_sample : ∃ config, Ready config sampleTerminal := by
  have hchecked : ((Config.ofEnvironment ⟨[], "/home/a", []⟩).toOption.bind fun config =>
      config.validate.toOption.bind fun _ =>
        (config.statePath ⟨"/home/a", []⟩).toOption).isSome := by
    decide +kernel
  obtain ⟨file, h⟩ := Option.isSome_iff_exists.mp hchecked
  obtain ⟨config, hconfig, h⟩ := Option.bind_eq_some_iff.mp h
  obtain ⟨⟨⟩, hvalid, hstate⟩ := Option.bind_eq_some_iff.mp h
  exact ⟨config, toOption_eq_some_iff.mp hconfig, toOption_eq_some_iff.mp hvalid, file,
    toOption_eq_some_iff.mp hstate⟩

end Commands

end SymbolSearch.Proofs.ResumedSearch
