import Mathlib.Data.List.Basic
import SymbolSearch.Extraction
import SymbolSearch.Proofs.Deduplication
import SymbolSearch.Proofs.OutputLines
import SymbolSearch.Proofs.Traversal

namespace SymbolSearch.Proofs.Scanning

open Deduplication
open OutputLines

/-- The file and the line that a line of output speaks of, when it has the form of a record. -/
def placeOf? (line : String) : Option (String × Int) :=
  match Record.read line with
  | .ok (some record) => some (Record.normalizePath record.path, record.line)
  | _ => none

/-- What a line of output contributes to a scan. -/
def occurrenceOf? (rule : Rule) (pattern : Pattern) (line : String) : Option Occurrence :=
  match Occurrence.parse rule pattern line with
  | .ok found => found
  | .error _ => none

theorem placeOf?_of_occurrenceOf? {rule : Rule} {pattern : Pattern} {line : String}
    {o : Occurrence} (h : occurrenceOf? rule pattern line = some o) :
    placeOf? line = some (o.file, o.line) := by
  unfold occurrenceOf? Occurrence.parse at h
  cases hread : Record.read line with
  | error error => simp [hread, Except.mapError, bind, Except.bind] at h
  | ok record? =>
      cases record? with
      | none => simp [hread, Except.mapError, bind, Except.bind, pure, Except.pure] at h
      | some record =>
          cases hfound : Identifier.extract pattern record.text.toList with
          | error error => simp [hread, hfound, Except.mapError, bind, Except.bind] at h
          | ok found =>
              simp only [hread, hfound, Except.mapError, bind, Except.bind, pure,
                Except.pure] at h
              obtain ⟨f, -, hf⟩ := Option.bind_eq_some_iff.mp h
              unfold Occurrence.ofFound? at hf
              split at hf
              · cases hf
              · obtain rfl := Option.some.inj hf
                simp [placeOf?, hread]

theorem nodup_places_filterMap (rule : Rule) (pattern : Pattern) {lines : List String}
    (h : (lines.filterMap placeOf?).Nodup) :
    ((lines.filterMap (occurrenceOf? rule pattern)).map fun o => (o.file, o.line)).Nodup := by
  refine h.sublist ?_
  clear h
  induction lines with
  | nil => exact List.Sublist.slnil
  | cons line rest ih =>
      cases hline : occurrenceOf? rule pattern line with
      | none =>
          rw [List.filterMap_cons_none hline]
          cases hplace : placeOf? line with
          | none => rwa [List.filterMap_cons_none hplace]
          | some place =>
              rw [List.filterMap_cons_some hplace]
              exact ih.cons place
      | some o =>
          rw [List.filterMap_cons_some hline,
            List.filterMap_cons_some (placeOf?_of_occurrenceOf? hline), List.map_cons]
          exact ih.cons_cons _

/-- The occurrences on some lines of output. A line that cannot be read spoils them all. -/
def occurrencesOn (rule : Rule) (pattern : Pattern) (lines : List String) : List Occurrence :=
  match lines.mapM (Occurrence.parse rule pattern) with
  | .ok found => found.filterMap id
  | .error _ => []

theorem occurrencesOn_of_readable {rule : Rule} {pattern : Pattern} {lines : List String}
    (h : ∀ line ∈ lines, ∃ found, Occurrence.parse rule pattern line = .ok found) :
    occurrencesOn rule pattern lines = lines.filterMap (occurrenceOf? rule pattern) := by
  have hmap : lines.mapM (Occurrence.parse rule pattern) =
      .ok (lines.map (occurrenceOf? rule pattern)) := by
    apply Traversal.mapM_ok
    intro line hline
    obtain ⟨found, hfound⟩ := h line hline
    rw [occurrenceOf?, hfound]
  simp only [occurrencesOn, hmap, List.filterMap_map]
  rfl

theorem occurrencesOn_of_unreadable {rule : Rule} {pattern : Pattern} {lines : List String}
    (h : ¬∀ line ∈ lines, ∃ found, Occurrence.parse rule pattern line = .ok found) :
    occurrencesOn rule pattern lines = [] := by
  simp only [Classical.not_forall, not_exists] at h
  obtain ⟨line, hline, hbad⟩ := h
  cases hparse : Occurrence.parse rule pattern line with
  | ok found => exact absurd hparse (hbad found)
  | error failure =>
      obtain ⟨failure', hfailure⟩ := Traversal.mapM_error hline hparse
      rw [occurrencesOn, hfailure]

theorem occurrencesOn_perm (rule : Rule) (pattern : Pattern) {lines lines' : List String}
    (h : lines.Perm lines') :
    (occurrencesOn rule pattern lines).Perm (occurrencesOn rule pattern lines') := by
  by_cases hreadable : ∀ line ∈ lines, ∃ found, Occurrence.parse rule pattern line = .ok found
  · have hreadable' : ∀ line ∈ lines', ∃ found, Occurrence.parse rule pattern line = .ok found :=
      fun line hline => hreadable line (h.mem_iff.mpr hline)
    rw [occurrencesOn_of_readable hreadable, occurrencesOn_of_readable hreadable']
    exact h.filterMap _
  · have hreadable' :
        ¬∀ line ∈ lines', ∃ found, Occurrence.parse rule pattern line = .ok found :=
      fun hall => hreadable fun line hline => hall line (h.mem_iff.mp hline)
    rw [occurrencesOn_of_unreadable hreadable, occurrencesOn_of_unreadable hreadable']

theorem nodup_key_occurrencesOn {rule : Rule} {pattern : Pattern} {lines : List String}
    (h : (lines.filterMap placeOf?).Nodup) :
    ((occurrencesOn rule pattern lines).map Occurrence.key).Nodup := by
  by_cases hreadable : ∀ line ∈ lines, ∃ found, Occurrence.parse rule pattern line = .ok found
  · rw [occurrencesOn_of_readable hreadable]
    have hplaces := nodup_places_filterMap rule pattern h
    rw [List.nodup_iff_pairwise_ne, List.pairwise_map] at hplaces ⊢
    refine hplaces.imp ?_
    intro a b hne he
    simp only [Occurrence.key, Prod.mk.injEq] at he
    exact hne (by rw [he.1, he.2.1])
  · rw [occurrencesOn_of_unreadable hreadable]
    exact List.nodup_nil

section Extraction

variable (x : Extractor) {tool tool' : SearchTool} (root : String)

/-- The lines that the call of a job finds. -/
def linesOf (tool : SearchTool) (job : Job) : List String :=
  match x.ripgrep.search tool (x.invocation root job) with
  | .ok lines => lines
  | .error _ => []

theorem result_eq (tool : SearchTool) (job : Job) :
    x.result tool root job =
      match x.ripgrep.search tool (x.invocation root job), Pattern.compile job.pattern with
      | .ok lines, .ok pattern => occurrencesOn job.rule pattern lines
      | _, _ => [] := by
  unfold Extractor.result Extractor.scan
  cases x.ripgrep.search tool (x.invocation root job) with
  | error error => rfl
  | ok lines =>
      cases Pattern.compile job.pattern with
      | error error => rfl
      | ok pattern =>
          simp only [Except.mapError, bind, Except.bind, pure, Except.pure, occurrencesOn]
          cases lines.mapM (Occurrence.parse job.rule pattern) <;> rfl

theorem result_perm {job : Job}
    (h : SameUpToOrder (tool (x.invocation root job)) (tool' (x.invocation root job))) :
    (x.result tool root job).Perm (x.result tool' root job) := by
  rw [result_eq, result_eq]
  rcases search_perm x.ripgrep h with ⟨lines, lines', hl, hl', hperm⟩ | ⟨error, he, he'⟩
  · rw [hl, hl']
    cases Pattern.compile job.pattern with
    | error error => exact .refl _
    | ok pattern => exact occurrencesOn_perm _ _ hperm
  · rw [he, he']

theorem nodup_key_result {job : Job} (h : ((linesOf x root tool job).filterMap placeOf?).Nodup) :
    ((x.result tool root job).map Occurrence.key).Nodup := by
  rw [result_eq]
  unfold linesOf at h
  cases hsearch : x.ripgrep.search tool (x.invocation root job) with
  | error error => exact List.nodup_nil
  | ok lines =>
      rw [hsearch] at h
      cases Pattern.compile job.pattern with
      | error error => exact List.nodup_nil
      | ok pattern => exact nodup_key_occurrencesOn h

theorem lookup_zipIdx (found : Job → List Occurrence) (jobs : List Job) (start index : Nat) :
    ((jobs.zipIdx start).map fun (job, index) => (index, found job)).lookup (start + index) =
      jobs[index]?.map found := by
  induction jobs generalizing start index with
  | nil => rfl
  | cons job rest ih =>
      rw [List.zipIdx_cons, List.map_cons, List.lookup_cons]
      cases index with
      | zero => simp
      | succ index =>
          have hne : (start + (index + 1) == start) = false := by simp
          have hnext : start + (index + 1) = start + 1 + index := by omega
          rw [hne, hnext, ih]
          rfl

theorem collect_eq (found : Job → List Occurrence) (jobs : List Job) :
    Extractor.collect jobs.length (jobs.zipIdx.map fun (job, index) => (index, found job)) =
      jobs.flatMap found := by
  have hlookup : ∀ index, (jobs.zipIdx.map fun (job, index) => (index, found job)).lookup index =
      jobs[index]?.map found := by
    intro index
    have := lookup_zipIdx found jobs 0 index
    rwa [Nat.zero_add] at this
  simp only [Extractor.collect, hlookup]
  clear hlookup
  induction jobs with
  | nil => rfl
  | cons job rest ih =>
      rw [List.length_cons, List.range_succ_eq_map, List.flatMap_cons, List.flatMap_map,
        List.flatMap_cons, ← ih]
      rfl

/-- What a scan with some rules finds, and the calls that it makes. -/
def scanOf (tool : SearchTool) (rules : List Rule) : Scan :=
  ⟨Occurrence.deduplicate ((jobsOf rules).flatMap (x.result tool root)),
    (jobsOf rules).map (x.invocation root)⟩

theorem extract_eq (tool : SearchTool) (selector : Json) :
    x.extract tool selector root =
      (x.rulesFor selector).bind fun rules =>
        if rules.isEmpty then .ok ⟨[], []⟩
        else x.checkWorkers.map fun _ => scanOf x root tool rules := by
  simp only [Extractor.extract, collect_eq]
  cases x.rulesFor selector with
  | error failure => rfl
  | ok rules =>
      by_cases hnil : rules.isEmpty = true
      · simp only [bind, Except.bind, hnil, if_true]
        rfl
      · simp only [bind, Except.bind, hnil]
        cases x.checkWorkers <;> rfl

/-- The jobs of a selector. -/
def jobsFor (selector : Json) : List Job :=
  match x.rulesFor selector with
  | .ok rules => jobsOf rules
  | .error _ => []

/-- Extractions with different tools go the same way: both fail for one reason, or both scan with
the same rules. -/
theorem extract_cases (tool tool' : SearchTool) (selector : Json) :
    (∃ failure, x.extract tool selector root = .error failure ∧
        x.extract tool' selector root = .error failure) ∨
      ∃ rules, jobsFor x selector = jobsOf rules ∧
        x.extract tool selector root = .ok (scanOf x root tool rules) ∧
          x.extract tool' selector root = .ok (scanOf x root tool' rules) := by
  rw [extract_eq, extract_eq, jobsFor]
  cases x.rulesFor selector with
  | error failure => exact .inl ⟨failure, rfl, rfl⟩
  | ok rules =>
      cases rules with
      | nil => exact .inr ⟨[], rfl, rfl, rfl⟩
      | cons rule rest =>
          cases x.checkWorkers with
          | error failure => exact .inl ⟨failure, rfl, rfl⟩
          | ok _ => exact .inr ⟨rule :: rest, rfl, rfl, rfl⟩

theorem nodup_key_extract {tool : SearchTool} {selector : Json} {scan : Scan}
    (h : x.extract tool selector root = .ok scan) :
    (scan.occurrences.map Occurrence.key).Nodup := by
  rcases extract_cases x root tool tool selector with ⟨failure, he, -⟩ | ⟨rules, -, hok, -⟩
  · rw [he] at h
    cases h
  · rw [hok] at h
    obtain rfl := Except.ok.inj h
    exact nodup_key_deduplicate _

theorem result_congr {job : Job}
    (h : tool' (x.invocation root job) = tool (x.invocation root job)) :
    x.result tool' root job = x.result tool root job := by
  simp only [result_eq, Ripgrep.search, Ripgrep.run, h]

theorem extract_congr {selector : Json} {scan : Scan} (h : x.extract tool selector root = .ok scan)
    (htool : ∀ call ∈ scan.invocations, tool' call = tool call) :
    x.extract tool' selector root = .ok scan := by
  rcases extract_cases x root tool tool' selector with ⟨failure, he, -⟩ | ⟨rules, -, hok, hok'⟩
  · rw [he] at h
    cases h
  · rw [hok] at h
    obtain rfl := Except.ok.inj h
    have hresults : (jobsOf rules).flatMap (x.result tool' root) =
        (jobsOf rules).flatMap (x.result tool root) := by
      apply List.flatMap_congr
      intro job hjob
      exact result_congr x root (htool _ (List.mem_map_of_mem hjob))
    rw [hok', scanOf, hresults, scanOf]

/-- The calls of two tools end alike, up to the order of lines, and the lines of each speak of
different places. -/
structure Interchangeable (tool tool' : SearchTool) (selector : Json) : Prop where
  same : ∀ job ∈ jobsFor x selector,
    SameUpToOrder (tool (x.invocation root job)) (tool' (x.invocation root job))
  distinct : ∀ job ∈ jobsFor x selector, ((linesOf x root tool job).filterMap placeOf?).Nodup

theorem ofKey_flatMap (key : String × Int × String) (jobs : List Job)
    (found : Job → List Occurrence) :
    ofKey key (jobs.flatMap found) = jobs.flatMap fun job => ofKey key (found job) := by
  induction jobs with
  | nil => rfl
  | cons job rest ih => rw [List.flatMap_cons, ofKey_append, ih, List.flatMap_cons]

/-- The order of lines within the calls of an extraction shows only in the order of what it finds.
Which of two occurrences with one key is kept is decided between calls, never within one. -/
theorem extract_perm {selector : Json} (h : Interchangeable x root tool tool' selector) :
    (∃ failure, x.extract tool selector root = .error failure ∧
        x.extract tool' selector root = .error failure) ∨
      ∃ scan scan', x.extract tool selector root = .ok scan ∧
        x.extract tool' selector root = .ok scan' ∧
          scan.occurrences.Perm scan'.occurrences ∧ scan.invocations = scan'.invocations := by
  rcases extract_cases x root tool tool' selector with he | ⟨rules, hjobs, hok, hok'⟩
  · exact .inl he
  · refine .inr ⟨_, _, hok, hok', ?_, rfl⟩
    apply deduplicate_perm
    intro key
    rw [ofKey_flatMap, ofKey_flatMap]
    apply List.flatMap_congr
    intro job hjob
    rw [← hjobs] at hjob
    exact ofKey_eq_of_perm (result_perm x root (h.same job hjob))
      (nodup_key_result x root (h.distinct job hjob)) key

/-- Whole workers, and at least one of them. -/
def Staffed (workers : Json) : Prop :=
  ∃ n : Int, workers = .int n ∧ 1 ≤ n

instance (workers : Json) : Decidable (Staffed workers) :=
  match workers with
  | .int n => decidable_of_iff (1 ≤ n) (by simp [Staffed])
  | .null | .bool _ | .real _ | .string _ | .array _ | .object _ | .foreign =>
      isFalse (by simp [Staffed])

theorem checkWorkers_ok (h : Staffed x.workers) : x.checkWorkers = .ok () := by
  obtain ⟨n, hn, hpos⟩ := h
  have hcompare : Number.compare? (.int n) (.int 0) = some .gt := by
    rw [Number.compare?_int, Int.compare_eq_gt.mpr (by omega)]
  have hless : Operand.atMost (.ofJson (.int n)) (.ofJson (.int 0)) = .ok false := by
    simp only [Operand.atMost, Operand.ofJson, Operand.compareWith, Number.atMost, hcompare]
  simp only [Extractor.checkWorkers, hn, hless]

/-- A value that can be looked up among the kinds, such as any text. -/
def IsSelector (value : Json) : Prop :=
  ∃ selected, Argument.selector value = .ok selected

theorem isSelector_string (kind : String) : IsSelector (.string kind) :=
  ⟨some kind, rfl⟩

theorem extract_ok (h : Staffed x.workers) (tool : SearchTool) {selector : Json}
    (hselector : IsSelector selector) : ∃ scan, x.extract tool selector root = .ok scan := by
  obtain ⟨selected, hselected⟩ := hselector
  have hrules : x.rulesFor selector = .ok (selected.elim [] x.catalog.rulesFor) := by
    rw [Extractor.rulesFor, hselected]
    rfl
  rw [extract_eq, checkWorkers_ok x h, hrules]
  cases selected.elim [] x.catalog.rulesFor with
  | nil => exact ⟨_, rfl⟩
  | cons rule rest => exact ⟨_, rfl⟩

end Extraction

end SymbolSearch.Proofs.Scanning
