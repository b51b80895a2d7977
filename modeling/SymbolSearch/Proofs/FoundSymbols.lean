import SymbolSearch.Occurrence
import SymbolSearch.Proofs.MatchRuns
import SymbolSearch.Proofs.Records

namespace SymbolSearch.Proofs.FoundSymbols

open Pattern MatchRuns

section Searching

variable {text : List Char} {m : Match}

/-- A tree that was run from some place of a text, where nothing was marked yet, and left the given
marks behind. -/
def Leaves (text : List Char) (node : Node) (marks : Marks) : Prop :=
  ∃ c d, Inside text c ∧ c.marks = [] ∧ node.run ⟨false, none⟩ c done = .matched d ∧
    d.marks = marks

theorem leaves_of_searchFrom {node : Node} {least : Nat} (fuel : Nat) {c : Cursor}
    (hc : Inside text c) (h : searchFrom node least fuel c = some m) :
    Leaves text node m.marks := by
  induction fuel generalizing c with
  | zero => cases h
  | succ fuel ih =>
      rw [searchFrom] at h
      split at h
      · cases h
      · split at h
        · rename_i m' hm
          obtain rfl := Option.some.inj h
          rw [matchAt?] at hm
          split at hm
          · rename_i d hd
            obtain rfl := Option.some.inj hm
            exact ⟨_, d, hc.note.remember hc.position_le [], rfl, hd, rfl⟩
          · cases hm
        · obtain ⟨d, hstep, hd⟩ := Option.bind_eq_some_iff.mp h
          exact ih (hc.step hstep).1 hd

theorem leaves_of_search {p : Pattern} (h : p.search text = .ok (some m)) :
    Leaves text p.root m.marks := by
  unfold Pattern.search at h
  split at h
  · rename_i m' hm
    split at h
    · cases h
    · obtain rfl := Option.some.inj (Except.ok.inj h)
      exact leaves_of_searchFrom _ (inside_start text) hm
  · cases h

/-- A property of marks that holds before anything is marked, and that a tree keeps, holds at the
end. -/
theorem Leaves.keeps {node : Node} {marks : Marks} {I G : Marks → Prop}
    (h : Leaves text node marks) (hheld : Held ⟨false, none⟩ I G) (hallow : Allows text I node)
    (hnil : I []) : I marks := by
  obtain ⟨c, d, hc, hmarks, hrun, rfl⟩ := h
  have hends : Ends text (fun d => I d.marks) G (node.run ⟨false, none⟩ c done) :=
    runsWell text node hheld hallow hc (hmarks ▸ hnil) fun e _ hIe _ => hIe
  rw [hrun] at hends
  exact hends

end Searching

section Bounds

/-- Every mark is a position of the text. -/
def Bounded (text : List Char) (marks : Marks) : Prop :=
  ∀ p, some p ∈ marks → p ≤ text.length

variable {text : List Char} {marks : Marks}

theorem Bounded.put (h : Bounded text marks) (entry : Nat) {position : Nat}
    (hposition : position ≤ text.length) : Bounded text (marks.put entry position) := by
  intro p hp
  unfold Marks.put at hp
  split at hp
  · rcases List.mem_or_eq_of_mem_set hp with hp | hp
    · exact h p hp
    · exact Option.some.inj hp ▸ hposition
  · simp only [List.mem_append, List.mem_replicate, List.mem_singleton, reduceCtorEq, and_false,
      or_false] at hp
    rcases hp with hp | hp
    · exact h p hp
    · exact Option.some.inj hp ▸ hposition

theorem Bounded.take (h : Bounded text marks) (n : Nat) : Bounded text (marks.take n) :=
  fun p hp => h p (List.mem_of_mem_take hp)

theorem allows_of_put {I : Marks → Prop}
    (h : ∀ marks entry p, p ≤ text.length → I marks → I (marks.put entry p)) (node : Node) :
    Allows text I node := by
  induction node with
  | group i body ih =>
      refine ⟨ih, ?_, ?_⟩
      · intro p marks hp hI
        exact h marks _ p hp hI
      · intro p q marks hq _ hI
        exact h marks _ q hq hI
  | seq a b iha ihb | alt a b iha ihb | given i a b iha ihb => exact ⟨iha, ihb⟩
  | loop least most mode body ih => exact .inl ih
  | scope body ih | atomic body ih | ahead positive body ih | behind positive width body ih =>
      exact ih
  | empty | one set | anchor a | again i folding => trivial

theorem held_bounded (s : Setting) : Held s (Bounded text) (Bounded text) := by
  refine ⟨?_, fun _ h => h⟩
  intro saved left hsaved hleft
  unfold Setting.restore
  split
  · exact hsaved
  · exact hleft.take _

theorem bounded_of_search {p : Pattern} {m : Match} (h : p.search text = .ok (some m)) :
    Bounded text m.marks :=
  (leaves_of_search h).keeps (held_bounded _)
    (allows_of_put (fun _ entry _ hp hI => hI.put entry hp) _) (by simp [Bounded])

theorem bounds?_eq_some {group : Nat} {span : Span} (h : marks.bounds? group = some span) :
    marks[2 * (group - 1)]? = some (some span.start) ∧
      marks[2 * (group - 1) + 1]? = some (some span.stop) := by
  unfold Marks.bounds? at h
  split at h
  · rename_i start stop hstart hstop
    obtain rfl := Option.some.inj h
    exact ⟨hstart, hstop⟩
  · cases h

theorem span?_eq_some {group : Nat} {span : Span} (h : marks.span? group = some span) :
    marks.bounds? group = some span ∧ span.start ≤ span.stop := by
  obtain ⟨hbounds, horder⟩ := Option.filter_eq_some_iff.mp h
  exact ⟨hbounds, of_decide_eq_true horder⟩

theorem Bounded.stop_le (h : Bounded text marks) {group : Nat} {span : Span}
    (hspan : marks.span? group = some span) : span.stop ≤ text.length :=
  h _ (List.mem_of_getElem? (bounds?_eq_some (span?_eq_some hspan).1).2)

end Bounds

section Names

open Identifier

/-- The characters of a name: an identifier from its first character to its last that is not a
reserved word. -/
def IsName (cs : List Char) : Prop :=
  isForm cs = true ∧ String.ofList cs ∉ reservedWords

theorem isCandidate_iff {cs : List Char} (h : '\n' ∉ cs) : isCandidate cs = true ↔ IsName cs := by
  have hlast : (cs.getLast? == some '\n') = false := by
    apply beq_eq_false_iff_ne.mpr
    intro hlast
    exact h (List.mem_of_getLast? hlast)
  simp [isCandidate, hlast, IsName]

/-- The group of a match that a symbol is taken from: no later one matched a name. -/
structure Chosen (text : List Char) (m : Match) (groups group : Nat) (span : Span) : Prop where
  positive : 1 ≤ group
  among : group ≤ groups
  span_eq : m.span? group = some span
  name : IsName (text.extract span.start span.stop)
  last : ∀ later other, group < later → later ≤ groups → m.span? later = some other →
    ¬IsName (text.extract other.start other.stop)

theorem chosen_of_lastCandidate? {text : List Char} {m : Match} {groups : Nat} {found : Found}
    (htext : '\n' ∉ text) (h : lastCandidate? text m groups = some found) :
    String.ofList (text.extract found.start found.stop) = found.name ∧
      ∃ group, Chosen text m groups group ⟨found.start, found.stop⟩ := by
  have hline (span : Span) : '\n' ∉ text.extract span.start span.stop := fun hmem =>
    htext (List.mem_of_mem_drop (List.mem_of_mem_take hmem))
  induction groups with
  | zero => cases h
  | succ groups ih =>
      rw [lastCandidate?] at h
      split at h
      · rename_i f hf
        obtain rfl := Option.some.inj h
        obtain ⟨span, hspan, hvalue⟩ := Option.bind_eq_some_iff.mp hf
        dsimp only at hvalue
        split at hvalue
        · rename_i hcandidate
          obtain rfl := Option.some.inj hvalue
          refine ⟨rfl, groups + 1, by omega, Nat.le_refl _, hspan,
            (isCandidate_iff (hline span)).mp hcandidate, ?_⟩
          intro later other hlt hle
          omega
        · cases hvalue
      · rename_i hnone
        obtain ⟨hname, group, hpositive, hamong, hspan, hform, hlast⟩ := ih h
        refine ⟨hname, group, hpositive, by omega, hspan, hform, ?_⟩
        intro later other hlt hle hother hisName
        by_cases htop : later = groups + 1
        · subst htop
          have hcandidate := (isCandidate_iff (hline other)).mpr hisName
          rw [hother, Option.bind_some] at hnone
          simp only [List.extract_eq_take_drop] at hcandidate
          simp [hcandidate] at hnone
        · exact hlast later other hlt (by omega) hother hisName

end Names

section Occurrences

/-- An occurrence of a symbol that a pattern of a rule finds in a text. -/
structure WellFormed (rule : Rule) (pattern : Pattern) (text : List Char) (o : Occurrence) :
    Prop where
  name : IsName o.symbol.toList
  unignored : o.symbol ∉ rule.ignored
  kind : o.kind = rule.kind
  start_pos : 1 ≤ o.startColumn
  start_le_end : o.startColumn ≤ o.endColumn
  end_le : o.endColumn ≤ text.length
  spelling : text.extract (o.startColumn - 1).toNat o.endColumn.toNat = o.symbol.toList
  length : o.endColumn - o.startColumn + 1 = o.symbol.length
  group : ∃ m group, pattern.search text = .ok (some m) ∧
    Chosen text m pattern.groups group ⟨(o.startColumn - 1).toNat, o.endColumn.toNat⟩

theorem length_pos_of_isForm {cs : List Char} (h : Identifier.isForm cs = true) :
    0 < cs.length := by
  cases cs with
  | nil => cases h
  | cons c rest => simp

theorem isRest_of_isStart {c : Char} (h : Identifier.isStart c = true) :
    Identifier.isRest c = true := by
  simp only [Identifier.isStart, Identifier.isRest, Char.isAlphanum, Bool.or_eq_true] at h ⊢
  rcases h with h | h
  · exact .inl (.inl h)
  · exact .inr h

theorem all_isRest_of_isForm {cs : List Char} (h : Identifier.isForm cs = true) :
    cs.all Identifier.isRest = true := by
  cases cs with
  | nil => cases h
  | cons c rest =>
      obtain ⟨hstart, hrest⟩ := Bool.and_eq_true_iff.mp h
      rw [List.all_cons, isRest_of_isStart hstart, hrest]
      rfl

theorem search_of_extract {pattern : Pattern} {text : List Char} {found : Identifier.Found}
    (h : Identifier.extract pattern text = .ok (some found)) :
    ∃ m, pattern.search text = .ok (some m) ∧
      Identifier.lastCandidate? text m pattern.groups = some found := by
  unfold Identifier.extract at h
  cases hsearch : pattern.search text with
  | error error =>
      rw [hsearch] at h
      cases h
  | ok m? =>
      rw [hsearch] at h
      obtain ⟨m, rfl, hlast⟩ := Option.bind_eq_some_iff.mp (Except.ok.inj h)
      exact ⟨m, rfl, hlast⟩

theorem wellFormed_of_extract {rule : Rule} {pattern : Pattern} {record : Record}
    {found : Identifier.Found} {o : Occurrence} (htext : '\n' ∉ record.text.toList)
    (hfound : Identifier.extract pattern record.text.toList = .ok (some found))
    (h : Occurrence.ofFound? rule record found = some o) :
    WellFormed rule pattern record.text.toList o := by
  obtain ⟨m, hsearch, hlast⟩ := search_of_extract hfound
  obtain ⟨hname, group, hchosen⟩ := chosen_of_lastCandidate? htext hlast
  have hspelling : record.text.toList.extract found.start found.stop = found.name.toList := by
    rw [← hname, String.toList_ofList]
  have hisName : IsName found.name.toList := hspelling ▸ hchosen.name
  have hstop : found.stop ≤ record.text.toList.length :=
    (bounded_of_search hsearch).stop_le hchosen.span_eq
  have hlength : found.name.toList.length = found.stop - found.start := by
    rw [← hspelling, List.extract_eq_take_drop, List.length_take, List.length_drop]
    omega
  have hpositive := length_pos_of_isForm hisName.1
  have hcolumn : ((found.start : Int) + 1 - 1).toNat = found.start := by omega
  have hcolumn' : (found.stop : Int).toNat = found.stop := rfl
  unfold Occurrence.ofFound? at h
  split at h
  · cases h
  · rename_i hignored
    obtain rfl := Option.some.inj h
    constructor
    · exact hisName
    · simpa [Rule.ignores] using hignored
    · rfl
    · simp only
      omega
    · simp only
      omega
    · exact Int.ofNat_le.mpr hstop
    · simp only [hcolumn, hcolumn']
      exact hspelling
    · simp only [String.length]
      omega
    · simp only [hcolumn, hcolumn']
      exact ⟨m, group, hsearch, hchosen⟩

theorem parse_eq_some {rule : Rule} {pattern : Pattern} {line : String} {o : Occurrence}
    (h : Occurrence.parse rule pattern line = .ok (some o)) :
    ∃ record found, Record.read line = .ok (some record) ∧
      Identifier.extract pattern record.text.toList = .ok (some found) ∧
        Occurrence.ofFound? rule record found = some o := by
  unfold Occurrence.parse at h
  cases hread : Record.read line with
  | error error =>
      rw [hread] at h
      cases h
  | ok record? =>
      rw [hread] at h
      cases record? with
      | none => cases h
      | some record =>
          cases hextract : Identifier.extract pattern record.text.toList with
          | error error =>
              simp only [hextract, Except.mapError, bind, Except.bind] at h
              cases h
          | ok found? =>
              simp only [hextract, Except.mapError, bind, Except.bind] at h
              obtain ⟨found, rfl, hfound⟩ := Option.bind_eq_some_iff.mp (Except.ok.inj h)
              exact ⟨record, found, rfl, hextract, hfound⟩

theorem wellFormed_of_parse {rule : Rule} {pattern : Pattern} {line : String} {o : Occurrence}
    (h : Occurrence.parse rule pattern line = .ok (some o)) :
    ∃ record, Record.read line = .ok (some record) ∧
      o.file = Record.normalizePath record.path ∧ o.line = record.line ∧
        WellFormed rule pattern record.text.toList o := by
  obtain ⟨record, found, hread, hextract, hfound⟩ := parse_eq_some h
  refine ⟨record, hread, ?_, ?_,
    wellFormed_of_extract (Records.lineFeed_not_mem_text hread) hextract hfound⟩
  all_goals
    unfold Occurrence.ofFound? at hfound
    split at hfound
    · cases hfound
    · obtain rfl := Option.some.inj hfound
      rfl

end Occurrences

end SymbolSearch.Proofs.FoundSymbols
