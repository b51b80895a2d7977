import SymbolSearch.Catalog.Basic
import SymbolSearch.Proofs.BuiltMaps

namespace SymbolSearch.Proofs.CatalogSelectors

variable {c : Catalog} {r : Rule} {registered : List Rule} {name selector : String}

section Registering

theorem entries_ofRules (registered : List Rule) :
    (Catalog.ofRules registered).entries =
      OrderedMap.ofList (registered.map fun r => (r.name, r)) := by
  have hfoldl (c : Catalog) : (registered.foldl Catalog.register c).entries =
      registered.foldl (fun m r => OrderedMap.insert r.name r m) c.entries := by
    induction registered generalizing c with
    | nil => rfl
    | cons r rest ih => exact ih (c.register r)
  rw [OrderedMap.ofList, List.foldl_map]
  exact hfoldl Catalog.empty

theorem names_ofRules (registered : List Rule) :
    (Catalog.ofRules registered).names = (registered.map Rule.name).eraseDups := by
  rw [Catalog.names, entries_ofRules, BuiltMaps.keys_ofList, List.map_map]
  rfl

theorem rule?_ofRules (registered : List Rule) (name : String) :
    (Catalog.ofRules registered).rule? name = registered.findRev? fun r => r.name = name := by
  rw [Catalog.rule?, entries_ofRules, BuiltMaps.get?_ofList, List.findRev?_eq_find?_reverse,
    List.findRev?_eq_find?_reverse, ← List.map_reverse, List.find?_map, Option.map_map]
  exact Option.map_id'

theorem rules_ofRules (registered : List Rule) :
    (Catalog.ofRules registered).rules =
      (Catalog.ofRules registered).names.filterMap (Catalog.ofRules registered).rule? := by
  apply BuiltMaps.values_eq_filterMap
  rw [entries_ofRules]
  exact OrderedMap.nodup_keys_ofList _

theorem rule?_name (h : r ∈ (Catalog.ofRules registered).rules) :
    (Catalog.ofRules registered).rule? r.name = some r := by
  rw [rules_ofRules] at h
  obtain ⟨name, -, hrule⟩ := List.mem_filterMap.mp h
  have hname : r.name = name := by
    rw [rule?_ofRules, List.findRev?_eq_find?_reverse] at hrule
    simpa using List.find?_some hrule
  rw [hname]
  exact hrule

end Registering

section Selecting

theorem rulesFor_everything (c : Catalog) : c.rulesFor Catalog.everything = c.rules :=
  if_pos (beq_self_eq_true Catalog.everything)

/-- The name of a kind that some rule has stands for the rules of that kind, even where a rule has
that name. -/
theorem rulesFor_kind (hselector : selector ≠ Catalog.everything)
    (h : ∃ r ∈ c.rules, r.kind.name = selector) :
    c.rulesFor selector = c.rules.filter fun r => r.kind.name == selector := by
  obtain ⟨r, hr, hkind⟩ := h
  have hfound : r ∈ c.rules.filter fun r => r.kind.name == selector :=
    List.mem_filter.mpr ⟨hr, beq_iff_eq.mpr hkind⟩
  rw [Catalog.rulesFor, if_neg (by simpa using hselector)]
  split
  · rename_i hnil
    rw [hnil] at hfound
    cases hfound
  · rfl

theorem rulesFor_name (hselector : selector ≠ Catalog.everything)
    (h : ∀ r ∈ c.rules, r.kind.name ≠ selector) :
    c.rulesFor selector = (c.rule? selector).toList := by
  have hnil : (c.rules.filter fun r => r.kind.name == selector) = [] := by
    rw [List.filter_eq_nil_iff]
    intro r hr
    simpa using h r hr
  rw [Catalog.rulesFor, if_neg (by simpa using hselector), hnil]

theorem everything_ne_name (kind : Kind) : kind.name ≠ Catalog.everything := by
  cases kind <;> decide

theorem mem_rulesFor_kind (h : r ∈ c.rules) : r ∈ c.rulesFor r.kind.name := by
  rw [rulesFor_kind (everything_ne_name r.kind) ⟨r, h, rfl⟩]
  exact List.mem_filter.mpr ⟨h, beq_self_eq_true _⟩

theorem rulesFor_sublist (c : Catalog) (selector : String) :
    (c.rulesFor selector).Sublist c.rules := by
  by_cases hselector : selector = Catalog.everything
  · rw [hselector, rulesFor_everything]
  · by_cases hkind : ∃ r ∈ c.rules, r.kind.name = selector
    · rw [rulesFor_kind hselector hkind]
      exact List.filter_sublist
    · have hother : ∀ r ∈ c.rules, r.kind.name ≠ selector := fun r hr h => hkind ⟨r, hr, h⟩
      rw [rulesFor_name hselector hother]
      cases hrule : c.rule? selector with
      | none => exact List.nil_sublist _
      | some r => exact List.singleton_sublist.mpr (BuiltMaps.mem_values_of_get? hrule)

theorem mem_kindNames_iff : selector ∈ c.kindNames ↔ ∃ r ∈ c.rules, r.kind.name = selector := by
  simp only [Catalog.kindNames, List.mem_map, List.mem_filter, List.any_eq_true, beq_iff_eq]
  constructor
  · rintro ⟨kind, ⟨-, r, hr, rfl⟩, rfl⟩
    exact ⟨r, hr, rfl⟩
  · rintro ⟨r, hr, rfl⟩
    exact ⟨r.kind, ⟨Kind.mem_all r.kind, r, hr, rfl⟩, rfl⟩

theorem mem_names_iff : name ∈ c.names ↔ c.rule? name ≠ none := by
  rw [Catalog.rule?, ne_eq, OrderedMap.get?_eq_none_iff, not_not]
  rfl

theorem mem_selectors_iff :
    selector ∈ c.selectors ↔ selector = Catalog.everything ∨ c.rulesFor selector ≠ [] := by
  by_cases hselector : selector = Catalog.everything
  · simp [Catalog.selectors, hselector]
  · by_cases hkind : ∃ r ∈ c.rules, r.kind.name = selector
    · obtain ⟨r, hr, rfl⟩ := hkind
      have hlisted : r.kind.name ∈ c.selectors := by
        simp [Catalog.selectors, mem_kindNames_iff.mpr ⟨r, hr, rfl⟩]
      exact iff_of_true hlisted (.inr (List.ne_nil_of_mem (mem_rulesFor_kind hr)))
    · have hother : ∀ r ∈ c.rules, r.kind.name ≠ selector := fun r hr h => hkind ⟨r, hr, h⟩
      have hunlisted : selector ∉ c.kindNames := fun h => hkind (mem_kindNames_iff.mp h)
      rw [rulesFor_name hselector hother, ne_eq, Option.toList_eq_nil_iff, ← ne_eq, ← mem_names_iff]
      simp [Catalog.selectors, hselector, hunlisted]

end Selecting

/-- After any registrations a catalog lists every name once, in the order in which the names were
first registered, and under each name the last rule that was registered with it. A selector stands
for some of these rules, in that order, and is listed exactly if it is the one for all rules or
stands for some. The name of its kind stands for every rule; its own name stands for it alone unless
that name means all rules or a kind that some rule has. -/
theorem selectors_stand_for_rules (registered : List Rule) :
    let c := Catalog.ofRules registered
    c.names = (registered.map Rule.name).eraseDups ∧
      (∀ name, c.rule? name = registered.findRev? fun r => r.name = name) ∧
      c.rules = c.names.filterMap c.rule? ∧
      (∀ s, (c.rulesFor s).Sublist c.rules ∧
        (s ∈ c.selectors ↔ s = "all" ∨ c.rulesFor s ≠ [])) ∧
      ∀ r ∈ c.rules, r ∈ c.rulesFor r.kind.name ∧
        (r.name ≠ "all" → (∀ other ∈ c.rules, other.kind.name ≠ r.name) →
          c.rulesFor r.name = [r]) := by
  refine ⟨names_ofRules registered, rule?_ofRules registered, rules_ofRules registered, ?_, ?_⟩
  · intro s
    exact ⟨rulesFor_sublist _ s, mem_selectors_iff⟩
  · intro r hr
    refine ⟨mem_rulesFor_kind hr, ?_⟩
    intro hname hother
    rw [rulesFor_name hname hother, rule?_name hr]
    rfl

section Sample

/-- A rule that is replaced by one of another kind, between rules named after a kind and after all
rules. -/
def sampleRules : List Rule :=
  [("x", Kind.function), ("class", Kind.method), ("all", Kind.schema), ("x", Kind.classDecl)].map
    fun (name, kind) => { name := name, patterns := [], globs := [], kind := kind }

def replacingRule : Rule where
  name := "x"
  patterns := []
  globs := []
  kind := .classDecl

/-- The later rule has taken the place of the earlier one. Its name stands for it alone, and so does
the name of its kind, which is the name of another rule. -/
theorem selectors_stand_for_rules_sample :
    replacingRule ∈ (Catalog.ofRules sampleRules).rules ∧
      (Catalog.ofRules sampleRules).names = ["x", "class", "all"] ∧
      (Catalog.ofRules sampleRules).rulesFor "x" = [replacingRule] ∧
      replacingRule ∈ (Catalog.ofRules sampleRules).rulesFor "class" ∧
      "function" ∉ (Catalog.ofRules sampleRules).selectors := by
  have hrule : replacingRule ∈ (Catalog.ofRules sampleRules).rules := by decide +kernel
  obtain ⟨hnames, -, -, hselectors, hrules⟩ := selectors_stand_for_rules sampleRules
  obtain ⟨hkind, hname⟩ := hrules replacingRule hrule
  refine ⟨hrule, hnames.trans (by decide +kernel), hname (by decide) (by decide +kernel), hkind, ?_⟩
  rw [(hselectors "function").2]
  decide +kernel

end Sample

end SymbolSearch.Proofs.CatalogSelectors
