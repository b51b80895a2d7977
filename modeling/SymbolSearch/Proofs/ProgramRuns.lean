import SymbolSearch.CommandLine.Run
import SymbolSearch.Proofs.DeskInvariants

namespace SymbolSearch.Proofs.ProgramRuns

open CommandLine
open DeskActions
open DeskInvariants

variable {α : Type} {t : Terminal} {config : Config} {c : Client}

/-- A terminal after a line beside the output. -/
def told (t : Terminal) (text : String) : Terminal :=
  { t with errors := t.errors ++ Text.withoutControlSequences text ++ "\n" }

/-- The client with the given settings that a terminal has. -/
def clientAt (config : Config) (t : Terminal) : Client :=
  ⟨⟨config, Catalog.builtin, CacheSlot.adopt [], Tracker.fresh, t.store, t.now, t.tool, t.files,
      []⟩,
    []⟩

theorem give_run (result : Except Failure α) (t : Terminal) :
    (Program.give result).run.run t =
      match result with
      | .ok a => (.ok a, t)
      | .error reason => (.error (.broken reason), t) := by
  cases result <;> rfl

/-- The environment decides about the search tool, its time and its number, where the state is kept,
and how much is logged. All other settings are as by default. -/
theorem exists_of_ofEnvironment {e : Environment} (h : Config.ofEnvironment e = .ok config) :
    ∃ binary timeout workers directory level, config =
      { Config.defaults e.home with
        binary := binary, timeout := timeout, workers := workers, stateDirectory := directory,
        logLevel := level } := by
  rw [Config.ofEnvironment] at h
  obtain ⟨timeout, -, h⟩ := Traversal.bind_eq_ok_iff.mp h
  obtain ⟨workers, -, h⟩ := Traversal.bind_eq_ok_iff.mp h
  obtain rfl := Except.ok.inj h
  exact ⟨_, _, _, _, _, rfl⟩

theorem client_run (h : Config.ofEnvironment t.environment = .ok config) :
    Program.client.run.run t =
      match config.validate with
      | .ok () => (.ok (clientAt config t), t)
      | .error e => (.error .told, told t ("Error: " ++ e.message)) := by
  rw [Program.client, run_get_bind, h]
  simp only
  cases config.validate <;> rfl

theorem needState_run (c : Client) (t : Terminal) :
    (Program.needState c).run.run t =
      match c.desk.config.statePath t.environment.homes with
      | .ok _ => (.ok (), t)
      | .error reason => (.error (.broken reason), t) := by
  rw [Program.needState, run_get_bind]
  cases c.desk.config.statePath t.environment.homes <;> rfl

theorem attempt_run (c : Client) (action : ClientAction α) (t : Terminal) :
    (Program.attempt c action).run.run t =
      (.ok (action.run.run c).1, { t with store := (action.run.run c).2.desk.store }) :=
  rfl

theorem perform_run (c : Client) (action : ClientAction α) (t : Terminal) :
    (Program.perform c action).run.run t =
      match action.run.run c with
      | (.ok a, c') => (.ok a, { t with store := c'.desk.store })
      | (.error reason, c') => (.error (.broken reason), { t with store := c'.desk.store }) := by
  rw [Program.perform, run_bind_ok (attempt_run c action t), give_run]
  rcases action.run.run c with ⟨result, c'⟩
  cases result <;> rfl

/-- How a command line ends, with what its task comes to. -/
def endingOf : Except Stop Unit × Terminal → Ending × Terminal
  | (.ok (), t) => (.done, t)
  | (.error .told, t) => (.told, t)
  | (.error (.broken reason), t) => (.broken reason, t)

theorem run_of_parse {words : List String} {task : Task} (h : Task.parse t.files words = .ok task) :
    run words t = endingOf (task.program.run.run t) := by
  rw [run, h]
  rfl

end SymbolSearch.Proofs.ProgramRuns
