import SymbolSearch.Proofs.Scanning

namespace SymbolSearch.Proofs.JobSchedules

open OutputLines
open Scanning

variable {x : Extractor} {tool : SearchTool} {root : String} {job : Job} {jobs : List Job}
  {rules : List Rule}

section Failures

/-- Whether a call comes to nothing: the tool is missing, takes too long or cannot be started, it
writes more than is allowed, or it reports an error and writes nothing. -/
def callFails (rg : Ripgrep) : Outcome → Bool
  | .missing | .timedOut | .notStarted _ => true
  | .finished output _ status =>
      (rg.isTooLong output).toOption == some true ||
        (status != 0 && status != 1 && (Text.lines (Text.Utf8.decode output)).isEmpty)

/-- Whether a job fails, by its call or because its pattern does not compile. -/
def fails (x : Extractor) (tool : SearchTool) (root : String) (job : Job) : Bool :=
  callFails x.ripgrep (tool (x.invocation root job)) ||
    (Pattern.compile job.pattern).toOption.isNone

theorem lines_eq_nil_of_callFails {rg : Ripgrep} {call : Invocation} {lines : List String}
    (h : callFails rg (tool call) = true) (hsearch : rg.search tool call = .ok lines) :
    lines = [] := by
  cases hout : tool call with
  | finished output errors status =>
      rw [search_finished rg hout] at hsearch
      rw [hout] at h
      split at hsearch
      · cases hsearch
      · cases hsearch
        rfl
      · rename_i hshort
        have hempty : Text.lines (Text.Utf8.decode output) = [] := by
          simp only [callFails, hshort] at h
          simp_all [Except.toOption]
        have hfilled : filledLines output = [] := congrArg (List.filter _) hempty
        rw [hfilled] at hsearch
        cases hsearch
        rfl
  | missing =>
      simp only [Ripgrep.search, Ripgrep.run, hout] at hsearch
      exact (Except.ok.inj hsearch).symm
  | timedOut =>
      simp only [Ripgrep.search, Ripgrep.run, hout] at hsearch
      exact (Except.ok.inj hsearch).symm
  | notStarted reason =>
      simp only [Ripgrep.search, Ripgrep.run, hout] at hsearch
      exact (Except.ok.inj hsearch).symm

theorem result_of_fails (h : fails x tool root job = true) : x.result tool root job = [] := by
  rw [result_eq]
  cases hsearch : x.ripgrep.search tool (x.invocation root job) with
  | error error => rfl
  | ok lines =>
      cases hcompile : Pattern.compile job.pattern with
      | error error => rfl
      | ok pattern =>
          have hcall : callFails x.ripgrep (tool (x.invocation root job)) = true := by
            simpa [fails, hcompile, Except.toOption] using h
          obtain rfl := lines_eq_nil_of_callFails hcall hsearch
          rfl

end Failures

section Pools

/-- Workers on some jobs: the jobs that wait and those under way, each with its number, how the
others ended, in the order in which they did, and the calls made so far. -/
structure Pool where
  waiting : List (Job × Nat)
  running : List (Job × Nat)
  finished : List (Nat × Except Failure (List Occurrence))
  calls : List Invocation

/-- All jobs wait. -/
def Pool.start (jobs : List Job) : Pool :=
  ⟨jobs.zipIdx, [], [], []⟩

/-- The end of a job that has been begun, under its number. -/
def ended (x : Extractor) (tool : SearchTool) (root : String) (entry : Job × Nat) :
    Nat × Except Failure (List Occurrence) :=
  (entry.2, x.scan tool root entry.1)

/-- One of a number of workers begins with the next job, or any job under way comes to its end. -/
inductive Pool.Step (x : Extractor) (tool : SearchTool) (root : String) (workers : Int) :
    Pool → Pool → Prop
  | begin {entry : Job × Nat} {waiting running : List (Job × Nat)}
      {finished : List (Nat × Except Failure (List Occurrence))} {calls : List Invocation}
      (free : (running.length : Int) < workers) :
      Step x tool root workers ⟨entry :: waiting, running, finished, calls⟩
        ⟨waiting, running ++ [entry], finished, calls ++ [x.invocation root entry.1]⟩
  | finish {entry : Job × Nat} {waiting before after : List (Job × Nat)}
      {finished : List (Nat × Except Failure (List Occurrence))} {calls : List Invocation} :
      Step x tool root workers ⟨waiting, before ++ entry :: after, finished, calls⟩
        ⟨waiting, before ++ after, finished ++ [ended x tool root entry], calls⟩

/-- What a series of steps leads to. -/
inductive Pool.Reaches (x : Extractor) (tool : SearchTool) (root : String) (workers : Int)
    (p : Pool) : Pool → Prop
  | refl : Reaches x tool root workers p p
  | step {q r : Pool} (run : Reaches x tool root workers p q)
      (next : Pool.Step x tool root workers q r) : Reaches x tool root workers p r

namespace Pool

/-- No job is left. -/
def IsDone (p : Pool) : Prop :=
  p.waiting = [] ∧ p.running = []

/-- What the pool makes of the ends of its jobs. One that broke down has no result. -/
def outcome (count : Nat) (p : Pool) : Scan :=
  let results := p.finished.map fun entry => (entry.1, entry.2.toOption.getD [])
  ⟨Occurrence.deduplicate (Extractor.collect count results), p.calls⟩

/-- How many steps are left. -/
def left (p : Pool) : Nat :=
  2 * p.waiting.length + p.running.length

variable {workers : Int} {p q : Pool}

theorem left_lt_of_step (h : Step x tool root workers p q) : q.left < p.left := by
  cases h with
  | begin =>
      simp only [left, List.length_append, List.length_cons, List.length_nil]
      omega
  | finish =>
      simp only [left, List.length_append, List.length_cons]
      omega

/-- As long as there is a worker and a job left, something can happen. -/
theorem exists_step (hworkers : 1 ≤ workers) (h : ¬p.IsDone) :
    ∃ q, Step x tool root workers p q := by
  obtain ⟨waiting, running, finished, calls⟩ := p
  cases running with
  | cons entry running =>
      rw [← List.nil_append (entry :: running)]
      exact ⟨_, .finish⟩
  | nil =>
      cases waiting with
      | nil => exact absurd ⟨rfl, rfl⟩ h
      | cons entry waiting =>
          refine ⟨_, .begin ?_⟩
          rw [List.length_nil]
          omega

/-- No job is lost or done twice, and the calls are those of the jobs that do not wait. -/
structure Accounts (x : Extractor) (tool : SearchTool) (root : String) (jobs : List Job)
    (p : Pool) : Prop where
  ends : ((p.waiting ++ p.running).map (ended x tool root) ++ p.finished).Perm
    (jobs.zipIdx.map (ended x tool root))
  calls : p.calls ++ p.waiting.map (fun entry => x.invocation root entry.1) =
    jobs.map (x.invocation root)

theorem accounts_start : Accounts x tool root jobs (start jobs) where
  ends := by simp [start]
  calls := by
    have hfirst : (jobs.zipIdx.map fun entry => x.invocation root entry.1) =
        (jobs.zipIdx.map Prod.fst).map (x.invocation root) := by
      rw [List.map_map]
      rfl
    simp [start, hfirst]

theorem Accounts.step (h : Accounts x tool root jobs p) (hstep : Step x tool root workers p q) :
    Accounts x tool root jobs q := by
  cases hstep with
  | @begin entry waiting running finished calls free =>
      refine ⟨?_, ?_⟩
      · refine List.Perm.trans ?_ h.ends
        apply List.Perm.append_right
        apply List.Perm.map
        rw [← List.append_assoc]
        exact List.perm_append_singleton entry (waiting ++ running)
      · rw [← h.calls]
        simp
  | @finish entry waiting before after finished calls =>
      refine ⟨?_, h.calls⟩
      refine List.Perm.trans ?_ h.ends
      have hsplit : (waiting ++ (before ++ after)) ++ [entry] |>.Perm
          (waiting ++ (before ++ entry :: after)) := by
        rw [List.append_assoc, List.append_assoc]
        apply List.Perm.append_left
        apply List.Perm.append_left
        exact List.perm_append_singleton entry after
      calc
        ((waiting ++ (before ++ after)).map (ended x tool root) ++
            (finished ++ [ended x tool root entry])).Perm
          (((waiting ++ (before ++ after)).map (ended x tool root) ++
            [ended x tool root entry]) ++ finished) := by
              rw [List.append_assoc]
              exact List.Perm.append_left _ List.perm_append_comm
        _ = ((waiting ++ (before ++ after)) ++ [entry]).map (ended x tool root) ++ finished := by
              simp
        List.Perm _ ((waiting ++ (before ++ entry :: after)).map (ended x tool root) ++
            finished) := (hsplit.map _).append_right _

theorem Reaches.accounts (h : Reaches x tool root workers (start jobs) p) :
    Accounts x tool root jobs p := by
  induction h with
  | refl => exact accounts_start
  | step _ next ih => exact ih.step next

theorem lookup_eq_get? (finished : List (Nat × List Occurrence)) (index : Nat) :
    finished.lookup index = OrderedMap.get? index finished := by
  induction finished with
  | nil => rfl
  | cons entry finished ih =>
      obtain ⟨k, found⟩ := entry
      rw [List.lookup_cons, OrderedMap.get?, ih]
      by_cases hk : k = index
      · simp [hk]
      · have hbeq : (index == k) = false := by simpa using Ne.symm hk
        rw [hbeq, if_neg hk]

theorem collect_perm {finished finished' : List (Nat × List Occurrence)} (count : Nat)
    (h : finished.Perm finished') (hnodup : (finished.map Prod.fst).Nodup) :
    Extractor.collect count finished = Extractor.collect count finished' := by
  have hnodup' : (finished'.map Prod.fst).Nodup := (h.map Prod.fst).nodup_iff.mp hnodup
  have hlookup : ∀ index, finished.lookup index = finished'.lookup index := by
    intro index
    rw [lookup_eq_get?, lookup_eq_get?]
    apply Option.ext
    intro found
    rw [OrderedMap.get?_eq_some_iff hnodup, OrderedMap.get?_eq_some_iff hnodup', h.mem_iff]
  simp only [Extractor.collect, hlookup]

/-- Once all jobs are done, their results stand in the order of the jobs, and each job has made its
call. -/
theorem Accounts.outcome_eq (h : Accounts x tool root jobs p) (hdone : p.IsDone) :
    p.outcome jobs.length =
      ⟨Occurrence.deduplicate (jobs.flatMap (x.result tool root)),
        jobs.map (x.invocation root)⟩ := by
  obtain ⟨hwaiting, hrunning⟩ := hdone
  have hends : p.finished.Perm (jobs.zipIdx.map (ended x tool root)) := by
    simpa [hwaiting, hrunning] using h.ends
  have hcalls : p.calls = jobs.map (x.invocation root) := by
    simpa [hwaiting] using h.calls
  have hresult : ∀ entry : Job × Nat,
      ((ended x tool root entry).1, (ended x tool root entry).2.toOption.getD []) =
        (entry.2, x.result tool root entry.1) := by
    rintro ⟨job, index⟩
    rw [ended, Extractor.result]
    cases x.scan tool root job <;> rfl
  have hresults : (p.finished.map fun entry => (entry.1, entry.2.toOption.getD [])).Perm
      (jobs.zipIdx.map fun entry => (entry.2, x.result tool root entry.1)) := by
    have hmap := hends.map fun entry => (entry.1, entry.2.toOption.getD [])
    rw [List.map_map] at hmap
    simpa only [Function.comp_def, hresult] using hmap
  have hnodup : ((p.finished.map fun entry =>
      (entry.1, entry.2.toOption.getD [])).map Prod.fst).Nodup := by
    have hnumbers := hresults.map Prod.fst
    rw [hnumbers.nodup_iff, List.map_map]
    change (jobs.zipIdx.map Prod.snd).Nodup
    rw [List.zipIdx_map_snd]
    exact List.nodup_range'
  have hcollect : Extractor.collect jobs.length
      (p.finished.map fun entry => (entry.1, entry.2.toOption.getD [])) =
        jobs.flatMap (x.result tool root) :=
    (collect_perm jobs.length hresults hnodup).trans (collect_eq _ jobs)
  rw [outcome, hcalls, hcollect]

end Pool

end Pools

section Removal

/-- A rule without the patterns whose jobs fail. -/
def soundRule (x : Extractor) (tool : SearchTool) (root : String) (rule : Rule) : Rule :=
  { rule with patterns := rule.patterns.filter fun pattern => !fails x tool root ⟨rule, pattern⟩ }

/-- The same extractor with the jobs that fail left out of its rules. -/
def withoutFailures (x : Extractor) (tool : SearchTool) (root : String) : Extractor :=
  { x with
    catalog := ⟨x.catalog.entries.map fun entry => (entry.1, soundRule x tool root entry.2)⟩ }

theorem get?_map (f : Rule → Rule) (name : String) (entries : OrderedMap String Rule) :
    OrderedMap.get? name (entries.map fun entry => (entry.1, f entry.2)) =
      (OrderedMap.get? name entries).map f := by
  induction entries with
  | nil => rfl
  | cons entry entries ih =>
      obtain ⟨k, rule⟩ := entry
      rw [List.map_cons, OrderedMap.get?, OrderedMap.get?, ih]
      split <;> rfl

theorem rulesFor_map (c : Catalog) {f : Rule → Rule} (hkind : ∀ rule, (f rule).kind = rule.kind)
    (selector : String) :
    Catalog.rulesFor ⟨c.entries.map fun entry => (entry.1, f entry.2)⟩ selector =
      (c.rulesFor selector).map f := by
  have hrules : Catalog.rules ⟨c.entries.map fun entry => (entry.1, f entry.2)⟩ =
      c.rules.map f := by
    simp [Catalog.rules, OrderedMap.values]
  have hfilter : ((c.rules.map f).filter fun rule => rule.kind.name == selector) =
      (c.rules.filter fun rule => rule.kind.name == selector).map f := by
    rw [List.filter_map]
    simp [Function.comp_def, hkind]
  rw [Catalog.rulesFor, Catalog.rulesFor, hrules, hfilter]
  split
  · rfl
  · cases c.rules.filter fun rule => rule.kind.name == selector with
    | nil =>
        simp only [List.map_nil, Catalog.rule?, get?_map]
        cases OrderedMap.get? selector c.entries <;> rfl
    | cons rule rules => rfl

theorem jobsOf_cons (rule : Rule) (rules : List Rule) :
    jobsOf (rule :: rules) =
      (rule.patterns.map fun pattern => ⟨rule, pattern⟩) ++ jobsOf rules :=
  List.flatMap_cons

theorem jobsOf_map_soundRule (rules : List Rule) :
    jobsOf (rules.map (soundRule x tool root)) =
      ((jobsOf rules).filter fun job => !fails x tool root job).map fun job =>
        ⟨soundRule x tool root job.rule, job.pattern⟩ := by
  induction rules with
  | nil => rfl
  | cons rule rules ih =>
      rw [List.map_cons, jobsOf_cons, ih, jobsOf_cons, List.filter_append, List.map_append,
        List.filter_map, List.map_map]
      rfl

theorem flatMap_filter_sound (jobs : List Job) :
    (jobs.filter fun job => !fails x tool root job).flatMap (x.result tool root) =
      jobs.flatMap (x.result tool root) := by
  induction jobs with
  | nil => rfl
  | cons job jobs ih =>
      rw [List.flatMap_cons, List.filter_cons]
      by_cases hfails : fails x tool root job = true
      · rw [result_of_fails hfails]
        simpa [hfails] using ih
      · simp only [hfails, Bool.not_false, if_true, List.flatMap_cons, ih]

theorem scanOf_withoutFailures (rules : List Rule) :
    scanOf (withoutFailures x tool root) root tool (rules.map (soundRule x tool root)) =
      ⟨(scanOf x root tool rules).occurrences,
        ((jobsOf rules).filter fun job => !fails x tool root job).map (x.invocation root)⟩ := by
  have hfound : (jobsOf (rules.map (soundRule x tool root))).flatMap
      ((withoutFailures x tool root).result tool root) =
        (jobsOf rules).flatMap (x.result tool root) := by
    rw [jobsOf_map_soundRule, List.flatMap_map, ← flatMap_filter_sound]
    rfl
  have hcalls : (jobsOf (rules.map (soundRule x tool root))).map
      ((withoutFailures x tool root).invocation root) =
        ((jobsOf rules).filter fun job => !fails x tool root job).map (x.invocation root) := by
    rw [jobsOf_map_soundRule, List.map_map]
    rfl
  rw [scanOf, hfound, hcalls]
  rfl

end Removal

theorem extract_of_rules (hworkers : Staffed x.workers) {selector : Json}
    (hrules : x.rulesFor selector = .ok rules) :
    x.extract tool selector root = .ok (scanOf x root tool rules) := by
  rw [extract_eq, hrules, checkWorkers_ok x hworkers]
  cases rules <;> rfl

/-- An extraction always comes to an end, and its outcome does not depend on the order in which its
jobs do: it is what the jobs find, put together in the order of the rules and of their patterns, and
each job makes one call. A job that fails finds nothing, so the extraction finds the same when the
jobs that fail are left out. -/
theorem extract_under_every_schedule {workers : Int} (hworkers : x.workers = .int workers)
    (hstaffed : 1 ≤ workers) {selector : Json} (hselector : IsSelector selector) (tool : SearchTool)
    (root : String) :
    ∃ rules scan,
      x.rulesFor selector = .ok rules ∧
      x.extract tool selector root = .ok scan ∧
      scan.occurrences =
        Occurrence.deduplicate (rules.flatMap fun rule =>
          rule.patterns.flatMap fun pattern => x.result tool root ⟨rule, pattern⟩) ∧
      scan.invocations = (jobsOf rules).map (x.invocation root) ∧
      (∀ job ∈ jobsOf rules, fails x tool root job = true → x.result tool root job = []) ∧
      (∀ p, Pool.Reaches x tool root workers (Pool.start (jobsOf rules)) p →
        (p.IsDone → p.outcome (jobsOf rules).length = scan) ∧
        (¬p.IsDone → ∃ q, Pool.Step x tool root workers p q) ∧
        ∀ q, Pool.Step x tool root workers p q → q.left < p.left) ∧
      (withoutFailures x tool root).extract tool selector root =
        .ok ⟨scan.occurrences,
          ((jobsOf rules).filter fun job => !fails x tool root job).map (x.invocation root)⟩ := by
  obtain ⟨selected, hselected⟩ := hselector
  have hstaff : Staffed x.workers := ⟨workers, hworkers, hstaffed⟩
  have hrules : x.rulesFor selector = .ok (selected.elim [] x.catalog.rulesFor) := by
    rw [Extractor.rulesFor, hselected]
    rfl
  have hsound : (withoutFailures x tool root).rulesFor selector =
      .ok ((selected.elim [] x.catalog.rulesFor).map (soundRule x tool root)) := by
    rw [Extractor.rulesFor, hselected]
    cases selected with
    | none => rfl
    | some kind =>
        exact congrArg Except.ok (rulesFor_map x.catalog (f := soundRule x tool root)
          (fun _ => rfl) kind)
  refine ⟨_, _, hrules, extract_of_rules hstaff hrules, ?_, rfl, ?_, ?_, ?_⟩
  · simp only [scanOf, jobsOf, List.flatMap_assoc, List.flatMap_map]
  · intro job _ hfails
    exact result_of_fails hfails
  · intro p hp
    refine ⟨?_, Pool.exists_step hstaffed, fun q => Pool.left_lt_of_step⟩
    intro hdone
    exact hp.accounts.outcome_eq hdone
  · rw [extract_of_rules (x := withoutFailures x tool root) hstaff hsound, scanOf_withoutFailures]

section Sample

/-- One rule with a good pattern and a malformed one, and a rule whose only call takes too long. -/
def sampleRules : List Rule :=
  [{ name := "class", patterns := ["class ([A-Z]+)", "("], globs := ["*.js"], kind := .classDecl },
    { name := "func", patterns := ["func"], globs := ["*.go"], kind := .function }]

/-- Two workers for the sample. -/
def sampleExtractor : Extractor :=
  ⟨Ripgrep.ofConfig (Config.defaults "/home"), Catalog.ofRules sampleRules, .int 2⟩

/-- A class in a script file; the other files are never got through. -/
def sampleTool : SearchTool := fun call =>
  if call.globs == ["*.go"] then .timedOut
  else .finished "./a.js:3:1:class A".toUTF8.toList [] 0

/-- Two of three jobs fail, and the class is found whichever job ends first. -/
theorem extract_under_every_schedule_sample :
    ∃ scan,
      sampleExtractor.extract sampleTool (.string "all") "/" = .ok scan ∧
      scan.occurrences = [⟨"A", "a.js", 3, 7, 7, .classDecl⟩] ∧
      scan.invocations.length = 3 ∧
      ∀ p, Pool.Reaches sampleExtractor sampleTool "/" 2 (Pool.start (jobsOf sampleRules)) p →
        p.IsDone → p.outcome 3 = scan := by
  obtain ⟨rules, scan, hrules, hscan, hfound, hcalls, -, hpools, -⟩ :=
    extract_under_every_schedule (x := sampleExtractor) rfl (by decide) (isSelector_string "all")
      sampleTool "/"
  obtain rfl : sampleRules = rules := Except.ok.inj hrules
  refine ⟨scan, hscan, ?_, ?_, ?_⟩
  · rw [hfound]
    decide +kernel
  · rw [hcalls]
    rfl
  · intro p hp hdone
    exact (hpools p hp).1 hdone

end Sample

end SymbolSearch.Proofs.JobSchedules
