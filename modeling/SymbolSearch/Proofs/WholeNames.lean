import SymbolSearch.Catalog.Builtin
import SymbolSearch.Pattern.SmartCase
import SymbolSearch.Proofs.GroupTraces

namespace SymbolSearch.Proofs.WholeNames

open FoundSymbols GroupTraces Identifier MatchRuns NameBounds Pattern

section Names

variable {text : List Char} {p q : Nat}

theorem not_freeBefore_of_isName (hq : q ≤ text.length) (h : IsName (text.extract p q)) :
    ¬FreeBefore text q := by
  intro hfree
  have hpos := length_pos_of_isForm h.1
  rw [List.extract_eq_take_drop, List.length_take, List.length_drop] at hpos
  have hget : (text.extract p q)[q - 1 - p]? = text[q - 1]? := by
    rw [List.extract_eq_take_drop, List.getElem?_take_of_lt (by omega), List.getElem?_drop]
    congr 1
    omega
  have hsome : text[q - 1]? = some text[q - 1] := List.getElem?_eq_getElem (by omega)
  have hmem : text[q - 1] ∈ text.extract p q := List.mem_of_getElem? (hget.trans hsome)
  have hrest := List.all_eq_true.mp (all_isRest_of_isForm h.1) _ hmem
  rw [hfree (q - 1) _ (by omega) hsome] at hrest
  cases hrest

/-- Whether a tree matches no names but the given ones. -/
def isTame (front : List (List Char)) (body : Node) : Bool :=
  isPlain body && (spellings body).any fun ws =>
    ws.all fun w => !isForm w || reservedWords.contains (String.ofList w) || front.contains w

theorem mem_of_isTame {front : List (List Char)} {body : Node} (h : isTame front body = true)
    (hspan : Spans text body p q) (hname : IsName (text.extract p q)) :
    text.extract p q ∈ front := by
  obtain ⟨hplain, hwords⟩ := Bool.and_eq_true_iff.mp h
  obtain ⟨v, hreads, hamong⟩ := reads_spellings hplain hspan
  rw [hreads.extract_eq] at hname ⊢
  obtain ⟨ws, hws, hall⟩ := (Option.any_eq_true _ _).mp hwords
  have hv : v ∈ ws := hamong ws hws (all_isRest_of_isForm hname.1)
  have hcheck := List.all_eq_true.mp hall v hv
  simpa [hname.1, hname.2] using hcheck

end Names

section Checking

/-- Whether no name goes on where the first of some parts begins, apart from the given words. The
flag tells whether this is so behind the last. -/
def trailsAll (back : List (List Char)) (stopped : Bool) (items : List Node) : Bool :=
  items.foldr (trails back) stopped

/-- Whether every group among the parts of a spine matches no name, or is bounded on both sides. The
last flag tells whether the first part is. -/
def isDelimited (front back : List (List Char)) (stopped : Bool) : List Node → Bool → Bool
  | [], _ => true
  | item :: rest, led =>
      ((row? item).isNone || isTame front (core item) || led && trailsAll back stopped rest) &&
        isDelimited front back stopped rest (leads front item led)

/-- Whether a tree goes on through a name up to its end. -/
def exhaustsNames (root : Node) : Bool :=
  (lastSet? root).any fun set => nameChars.all set.contains

/-- Whether the names that a pattern finds are whole, apart from words that may stand right before
or behind them, and apart from the former words themselves. -/
def delimitsNames (front back : List (List Char)) (p : Pattern) : Bool :=
  isTraceable p.root && (List.range p.groups).all (rows p.root).contains &&
    (offSpine p.root).all (fun g => endsOutside g.2 || isTame front g.2) &&
    isDelimited front back (exhaustsNames p.root) (spine p.root) false

variable {text : List Char} {front back : List (List Char)} {marks : Marks}

theorem trailed_of_traced {items : List Node} {stopped : Bool} {p q : Nat}
    (h : trailsAll back stopped items = true) (htraced : Traced text marks items p q)
    (hstopped : stopped = true → Trailed back text q) : Trailed back text p := by
  induction items generalizing p with
  | nil =>
      obtain rfl := htraced
      exact hstopped h
  | cons item rest ih =>
      obtain ⟨m, hspan, -, hrest⟩ := htraced
      exact trailed_of_trails h hspan fun htrails => ih htrails hrest

/-- What a checked pattern guarantees of the place of a name. -/
def Enclosed (front back : List (List Char)) (text : List Char) (span : Span) : Prop :=
  text.extract span.start span.stop ∈ front ∨
    Led front text span.start ∧ Trailed back text span.stop

theorem span_eq_of_pins {item : Node} {group p q : Nat} {span : Span}
    (hrow : row? item = some (group - 1))
    (hpins : ∀ pin ∈ pinsOf item p q, entry marks pin.1 = some pin.2)
    (hbounds : marks.bounds? group = some span) : span = ⟨p, q⟩ := by
  obtain ⟨hstart, hstop⟩ := entry_of_bounds? hbounds
  cases item with
  | group i body =>
      rw [← Option.some.inj hrow] at hstart hstop
      have hstart' := hpins _ (List.mem_cons_of_mem _ List.mem_cons_self)
      have hstop' := hpins _ List.mem_cons_self
      have hp : span.start = p := Option.some.inj (hstart.symm.trans hstart')
      have hq : span.stop = q := Option.some.inj (hstop.symm.trans hstop')
      rw [← hp, ← hq]
  | _ => cases hrow

theorem spans_core {item : Node} {p q : Nat} (h : Spans text item p q) :
    Spans text (core item) p q := by
  cases item with
  | group i body => exact h
  | _ => exact h

theorem enclosed_of_traced {items : List Node} {stopped led : Bool} {p q : Nat}
    (h : isDelimited front back stopped items led = true)
    (htraced : Traced text marks items p q) (hled : led = true → Led front text p)
    (hstopped : stopped = true → Trailed back text q) {group : Nat} {span : Span}
    (hgroup : group - 1 ∈ items.filterMap row?) (hbounds : marks.bounds? group = some span)
    (hname : IsName (text.extract span.start span.stop)) : Enclosed front back text span := by
  induction items generalizing led p with
  | nil => cases hgroup
  | cons item rest ih =>
      obtain ⟨hitem, hdelimited⟩ := Bool.and_eq_true_iff.mp h
      obtain ⟨m, hspan, hpins, hrest⟩ := htraced
      by_cases hrow : row? item = some (group - 1)
      · obtain rfl := span_eq_of_pins hrow hpins hbounds
        simp only [hrow, Option.isNone_some, Bool.false_or, Bool.or_eq_true, Bool.and_eq_true]
          at hitem
        rcases hitem with htame | ⟨hstart, htrails⟩
        · exact .inl (mem_of_isTame htame (spans_core hspan) hname)
        · exact .inr ⟨hled hstart, trailed_of_traced htrails hrest hstopped⟩
      · have hgroup' : group - 1 ∈ rest.filterMap row? := by
          obtain ⟨other, hmem, hother⟩ := List.mem_filterMap.mp hgroup
          rcases List.mem_cons.mp hmem with rfl | hmem
          · exact absurd hother hrow
          · exact List.mem_filterMap.mpr ⟨other, hmem, hother⟩
        exact ih hdelimited hrest (fun hleads => led_of_leads hleads hspan hled) hgroup'

theorem enclosed_of_fits {g : Nat × Node} (h : (endsOutside g.2 || isTame front g.2) = true)
    (hfits : Fits text marks g) {group : Nat} {span : Span} (hgroup : g.1 - 1 = group - 1)
    (hbounds : marks.bounds? group = some span) (hstop : span.stop ≤ text.length)
    (hname : IsName (text.extract span.start span.stop)) : Enclosed front back text span := by
  obtain ⟨hstart, hend⟩ := entry_of_bounds? hbounds
  rw [← hgroup] at hstart hend
  cases hends : endsOutside g.2 with
  | true => exact absurd (hfits.outside hends _ hend) (not_freeBefore_of_isName hstop hname)
  | false =>
      rw [hends, Bool.false_or] at h
      exact .inl (mem_of_isTame h (hfits.paired hends _ _ hstart hend) hname)

theorem freeBehind_of_exhaustsNames {root : Node} {q : Nat} (h : exhaustsNames root = true)
    (hstops : ∀ set, lastSet? root = some set → StopsAt text set q) : FreeBehind text q := by
  obtain ⟨set, hset, hall⟩ := (Option.any_eq_true _ _).mp h
  intro x hx
  apply Bool.eq_false_iff.mpr
  intro hrest
  have hcontains := List.all_eq_true.mp hall x (mem_nameChars hrest)
  rw [hstops set hset x hx] at hcontains
  cases hcontains

/-- The check is sound: a name that a checked pattern finds in a text is enclosed. -/
theorem enclosed_of_chosen {p : Pattern} (h : delimitsNames front back p = true) {m : Match}
    (hsearch : p.search text = .ok (some m)) {group : Nat} {span : Span}
    (hchosen : Chosen text m p.groups group span) : Enclosed front back text span := by
  simp only [delimitsNames, Bool.and_eq_true] at h
  obtain ⟨⟨⟨htraceable, hrows⟩, hoff⟩, hdelimited⟩ := h
  obtain ⟨hfits, start, stop, htraced, hstops⟩ :=
    traced_of_leaves (leaves_of_search hsearch) htraceable
  have hbounds := (span?_eq_some hchosen.span_eq).1
  have hstop := (bounded_of_search hsearch).stop_le hchosen.span_eq
  have hstopped : exhaustsNames p.root = true → Trailed back text stop :=
    fun hexhausts => .inl (freeBehind_of_exhaustsNames hexhausts hstops)
  have hrow : group - 1 ∈ rows p.root := by
    have hrange : group - 1 ∈ List.range p.groups := by
      have := hchosen.positive
      have := hchosen.among
      exact List.mem_range.mpr (by omega)
    exact List.contains_iff_mem.mp (List.all_eq_true.mp hrows _ hrange)
  rcases List.mem_append.mp hrow with hspine | hoffSpine
  · exact enclosed_of_traced hdelimited htraced nofun hstopped hspine hbounds hchosen.name
  · obtain ⟨g, hg, hgroup⟩ := List.mem_map.mp hoffSpine
    exact enclosed_of_fits (List.all_eq_true.mp hoff g hg) (hfits g hg) hgroup hbounds hstop
      hchosen.name

end Checking

section Builtin

/-- The words that the method rule passes over before a name. -/
def modifiers : List String :=
  ["public", "private", "protected", "static", "async"]

/-- The words that a rule may find right before a name. -/
def wordsBefore (rule : Rule) : List (List Char) :=
  if rule.name = "method" then modifiers.map String.toList else []

/-- The words that a pattern of a rule may find right behind a name. -/
def wordsBehind (rule : Rule) (source : String) : List (List Char) :=
  if rule.name = "component" ∧ rule.patterns.head? = some source then ["extends".toList] else []

/-- Whether every pattern of a rule compiles and delimits names. -/
def ruleDelimitsNames (rule : Rule) : Bool :=
  rule.patterns.all fun source =>
    match Pattern.compile source with
    | .ok pattern => delimitsNames (wordsBefore rule) (wordsBehind rule source) pattern
    | .error _ => false

theorem builtin_rules_delimit_names :
    Catalog.builtin.rules.all ruleDelimitsNames = true := by
  decide +kernel

theorem exists_delimitsNames {rule : Rule} (hrule : rule ∈ Catalog.builtin.rules)
    {source : String} (hsource : source ∈ rule.patterns) :
    ∃ pattern, Pattern.compile source = .ok pattern ∧
      delimitsNames (wordsBefore rule) (wordsBehind rule source) pattern = true := by
  have hdelimits := List.all_eq_true.mp builtin_rules_delimit_names rule hrule
  have hcheck := List.all_eq_true.mp hdelimits source hsource
  split at hcheck
  · rename_i pattern hcompile
    exact ⟨pattern, hcompile, hcheck⟩
  · cases hcheck

/-- The symbol of an occurrence is no part of a longer name in the text. -/
def IsWhole (text : List Char) (o : Occurrence) : Prop :=
  FreeBefore text (o.startColumn - 1).toNat ∧ FreeBehind text o.endColumn.toNat

/-- The symbol is what is left of a name when modifiers are taken off its front, or is such a
modifier. -/
def FollowsModifier (text : List Char) (o : Occurrence) : Prop :=
  o.symbol ∈ modifiers ∨
    (∃ w ∈ modifiers, w.toList <:+ text.take (o.startColumn - 1).toNat) ∧
      FreeBehind text o.endColumn.toNat

/-- The symbol is what is left of a name when `extends` is taken off its end. -/
def PrecedesExtends (text : List Char) (o : Occurrence) : Prop :=
  FreeBefore text (o.startColumn - 1).toNat ∧ "extends".toList <+: text.drop o.endColumn.toNat

theorem cases_of_enclosed {rule : Rule} {source : String} {text : List Char} {o : Occurrence}
    (hspelling : text.extract (o.startColumn - 1).toNat o.endColumn.toNat = o.symbol.toList)
    (h : Enclosed (wordsBefore rule) (wordsBehind rule source) text
      ⟨(o.startColumn - 1).toNat, o.endColumn.toNat⟩) :
    IsWhole text o ∨ rule.name = "method" ∧ FollowsModifier text o ∨
      (rule.name = "component" ∧ rule.patterns.head? = some source) ∧ PrecedesExtends text o := by
  have hbefore {w : List Char} (hw : w ∈ wordsBefore rule) :
      rule.name = "method" ∧ ∃ s ∈ modifiers, s.toList = w := by
    unfold wordsBefore at hw
    split at hw
    · rename_i hname
      exact ⟨hname, List.mem_map.mp hw⟩
    · cases hw
  have hbehind {w : List Char} (hw : w ∈ wordsBehind rule source) :
      (rule.name = "component" ∧ rule.patterns.head? = some source) ∧ w = "extends".toList := by
    unfold wordsBehind at hw
    split at hw
    · rename_i hname
      exact ⟨hname, List.mem_singleton.mp hw⟩
    · cases hw
  rcases h with hword | ⟨hfree | ⟨w, hw, hends⟩, hfree' | ⟨w', hw', hbegins⟩⟩
  · obtain ⟨hname, s, hs, hsymbol⟩ := hbefore hword
    rw [hspelling] at hsymbol
    exact .inr (.inl ⟨hname, .inl (String.toList_injective hsymbol ▸ hs)⟩)
  · exact .inl ⟨hfree, hfree'⟩
  · obtain ⟨hname, rfl⟩ := hbehind hw'
    exact .inr (.inr ⟨hname, hfree, hbegins⟩)
  · obtain ⟨hname, s, hs, rfl⟩ := hbefore hw
    exact .inr (.inl ⟨hname, .inr ⟨⟨s, hs, hends⟩, hfree'⟩⟩)
  · obtain ⟨hmethod, -⟩ := hbefore hw
    obtain ⟨⟨hcomponent, -⟩, -⟩ := hbehind hw'
    exact absurd (hmethod.symm.trans hcomponent) (by decide)

/-- Every pattern of the built-in rules compiles, and a symbol that it finds on a line is a whole
name, with two exceptions: the method rule splits modifiers off the front of a name even where
nothing separates them from the rest of it, and the first pattern of the component rule splits
`extends` off its end. -/
theorem builtin_rules_find_whole_names {rule : Rule} (hrule : rule ∈ Catalog.builtin.rules)
    {source : String} (hsource : source ∈ rule.patterns) :
    ∃ pattern, Pattern.compile source = .ok pattern ∧
      ∀ line o, Occurrence.parse rule pattern line = .ok (some o) →
        ∃ record, Record.read line = .ok (some record) ∧
          (IsWhole record.text.toList o ∨
            rule.name = "method" ∧ FollowsModifier record.text.toList o ∨
            (rule.name = "component" ∧ rule.patterns.head? = some source) ∧
              PrecedesExtends record.text.toList o) := by
  obtain ⟨pattern, hcompile, hdelimits⟩ := exists_delimitsNames hrule hsource
  refine ⟨pattern, hcompile, ?_⟩
  intro line o hparse
  obtain ⟨record, hread, -, -, hwellFormed⟩ := wellFormed_of_parse hparse
  obtain ⟨m, group, hsearch, hchosen⟩ := hwellFormed.group
  exact ⟨record, hread,
    cases_of_enclosed hwellFormed.spelling (enclosed_of_chosen hdelimits hsearch hchosen)⟩

end Builtin

section Samples

/-- The first pattern of a rule finds a symbol on a line. -/
def Finds (rule : Rule) (line : String) (o : Occurrence) : Prop :=
  (rule.patterns.head?.bind fun source => (Pattern.compile source).toOption.bind fun pattern =>
    (Occurrence.parse rule pattern line).toOption) = some (some o)

theorem Finds.parse {rule : Rule} {source line : String} {pattern : Pattern} {o : Occurrence}
    (h : Finds rule line o) (hsource : rule.patterns.head? = some source)
    (hcompile : Pattern.compile source = .ok pattern) :
    Occurrence.parse rule pattern line = .ok (some o) := by
  rw [Finds, hsource, Option.bind_some, hcompile] at h
  change (Occurrence.parse rule pattern line).toOption = some (some o) at h
  cases hparse : Occurrence.parse rule pattern line with
  | error failure =>
      rw [hparse] at h
      cases h
  | ok found =>
      rw [hparse] at h
      exact congrArg Except.ok (Option.some.inj h)

/-- The class rule as it is built in. -/
def classRule : Rule where
  name := "class"
  patterns := ["\\bclass\\s+([A-Z][a-zA-Z0-9_]*)"]
  globs := Catalog.scriptGlobs
  kind := .classDecl

theorem builtin_rules_find_whole_names_sample :
    classRule ∈ Catalog.builtin.rules ∧
      Finds classRule "a.ts:1:1:class Foo_1(" ⟨"Foo_1", "a.ts", 1, 7, 11, .classDecl⟩ ∧
      ∃ record, Record.read "a.ts:1:1:class Foo_1(" = .ok (some record) ∧
        IsWhole record.text.toList ⟨"Foo_1", "a.ts", 1, 7, 11, .classDecl⟩ := by
  have hrule : classRule ∈ Catalog.builtin.rules := by decide +kernel
  have hfinds : Finds classRule "a.ts:1:1:class Foo_1("
      ⟨"Foo_1", "a.ts", 1, 7, 11, .classDecl⟩ := by
    unfold Finds
    decide +kernel
  obtain ⟨pattern, hcompile, hall⟩ :=
    builtin_rules_find_whole_names hrule (List.mem_singleton_self _)
  obtain ⟨record, hread, hcases⟩ := hall _ _ (hfinds.parse rfl hcompile)
  refine ⟨hrule, hfinds, record, hread, ?_⟩
  rcases hcases with hwhole | ⟨hname, -⟩ | ⟨⟨hname, -⟩, -⟩
  · exact hwhole
  · exact absurd hname (by decide)
  · exact absurd hname (by decide)

/-- The method rule as it is built in. -/
def methodRule : Rule where
  name := "method"
  patterns := ["^\\s*(public|private|protected|static|async|\\s)*\\s*([a-zA-Z0-9_]+)\\("]
  globs := Catalog.scriptGlobs
  kind := .method
  ignored := Catalog.methodNoise

/-- On a call of `publicfoo` the method rule finds a symbol `foo`. -/
theorem method_rule_splits_name :
    methodRule ∈ Catalog.builtin.rules ∧
      Finds methodRule "a.ts:1:1:publicfoo(" ⟨"foo", "a.ts", 1, 7, 9, .method⟩ ∧
      ∀ record, Record.read "a.ts:1:1:publicfoo(" = .ok (some record) →
        ¬IsWhole record.text.toList ⟨"foo", "a.ts", 1, 7, 9, .method⟩ := by
  refine ⟨by decide +kernel, by unfold Finds; decide +kernel, ?_⟩
  rintro record hread ⟨hfree, -⟩
  have htext : (Record.read "a.ts:1:1:publicfoo(").toOption.map
      (fun record? => record?.map (·.text.toList[5]?)) = some (some (some 'c')) := by
    decide +kernel
  rw [hread] at htext
  have hchar : record.text.toList[5]? = some 'c' := Option.some.inj (Option.some.inj htext)
  exact absurd (hfree 5 'c' rfl hchar) (by decide)

end Samples

end SymbolSearch.Proofs.WholeNames
