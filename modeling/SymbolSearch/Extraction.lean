import SymbolSearch.Argument
import SymbolSearch.Catalog.Basic
import SymbolSearch.Occurrence
import SymbolSearch.Pattern.SmartCase

namespace SymbolSearch

/-- One pattern of one rule. Each is searched for by a call of its own. -/
structure Job where
  rule : Rule
  pattern : String
deriving Repr, DecidableEq

/-- The jobs of some rules, in order. -/
def jobsOf (rules : List Rule) : List Job :=
  rules.flatMap fun rule => rule.patterns.map fun pattern => ⟨rule, pattern⟩

/-- What an extraction found, and the calls that it made. -/
structure Scan where
  occurrences : List Occurrence
  invocations : List Invocation

/-- What an extraction works with. -/
structure Extractor where
  ripgrep : Ripgrep
  catalog : Catalog
  workers : Json

namespace Extractor

/-- The call for a job. -/
def invocation (x : Extractor) (root : String) (job : Job) : Invocation :=
  x.ripgrep.invocation [job.pattern] job.rule.globs root

/-- The occurrences on the lines that a job finds. The pattern is applied again to each line; a
call that fails finds nothing. -/
def scan (x : Extractor) (tool : SearchTool) (root : String) (job : Job) :
    Except Failure (List Occurrence) := do
  let lines ← (x.ripgrep.search tool (x.invocation root job)).mapError .arithmetic
  let pattern ← (Pattern.compile job.pattern).mapError .pattern
  return (← lines.mapM (Occurrence.parse job.rule pattern)).filterMap id

/-- The result of a job. One that breaks down, as with a pattern that does not compile, finds
nothing. -/
def result (x : Extractor) (tool : SearchTool) (root : String) (job : Job) : List Occurrence :=
  match x.scan tool root job with
  | .ok found => found
  | .error _ => []

/-- Jobs run side by side and finish in any order. The results are put back into the order of the
jobs by their numbers; a job without a result found nothing. -/
def collect (count : Nat) (finished : List (Nat × List Occurrence)) : List Occurrence :=
  (List.range count).flatMap fun index => (finished.lookup index).getD []

/-- The rules that a selector of any type stands for. -/
def rulesFor (x : Extractor) (selector : Json) : Except Failure (List Rule) := do
  return (← Argument.selector selector).elim [] x.catalog.rulesFor

/-- Whether there is anybody to do the work. No number at all leaves it open. -/
def checkWorkers (x : Extractor) : Except Failure Unit :=
  match x.workers with
  | .null => .ok ()
  | workers =>
      match Operand.atMost (.ofJson workers) (.ofJson (.int 0)) with
      | .error error => .error (.arithmetic error)
      | .ok true => .error .noWorkers
      | .ok false => .ok ()

/-- Extracts the symbols of a selector below a root. It fails only when the selector makes no sense,
or when there is something to do and nobody to do it. -/
def extract (x : Extractor) (tool : SearchTool) (selector : Json) (root : String) :
    Except Failure Scan := do
  let rules ← x.rulesFor selector
  if rules.isEmpty then return ⟨[], []⟩
  x.checkWorkers
  let jobs := jobsOf rules
  let finished := jobs.zipIdx.map fun (job, index) => (index, x.result tool root job)
  return ⟨Occurrence.deduplicate (collect jobs.length finished), jobs.map (x.invocation root)⟩

end Extractor

end SymbolSearch
