import Mathlib.Data.List.Nodup
import SymbolSearch.Proofs.FoundSymbols
import SymbolSearch.Proofs.NameBounds

namespace SymbolSearch.Proofs.GroupTraces

open FoundSymbols MatchRuns NameBounds Pattern

section Entries

/-- An entry of the marks, if it is set. Entries `2 * r` and `2 * r + 1` make up row `r`, which
belongs to group `r + 1`. -/
def entry (marks : Marks) (k : Nat) : Option Nat :=
  marks[k]?.join

theorem entry_put (marks : Marks) (k p j : Nat) :
    entry (marks.put k p) j = if j = k then some p else entry marks j := by
  unfold Marks.put entry
  split
  · rename_i hlt
    rw [List.getElem?_set]
    grind
  · rename_i hle
    grind

theorem entry_take (marks : Marks) (n j : Nat) :
    entry (marks.take n) j = if j < n then entry marks j else none := by
  unfold entry
  rw [List.getElem?_take]
  split <;> rfl

theorem lt_length_of_entry {marks : Marks} {k p : Nat} (h : entry marks k = some p) :
    k < marks.length := by
  by_contra hle
  rw [entry, List.getElem?_eq_none (by omega)] at h
  cases h

theorem entry_of_bounds? {marks : Marks} {group : Nat} {span : Span}
    (h : marks.bounds? group = some span) :
    entry marks (2 * (group - 1)) = some span.start ∧
      entry marks (2 * (group - 1) + 1) = some span.stop := by
  obtain ⟨hstart, hstop⟩ := bounds?_eq_some h
  exact ⟨by rw [entry, hstart]; rfl, by rw [entry, hstop]; rfl⟩

end Entries

section Watching

/-- The groups of a tree, each with its body. -/
def groupsOf : Node → List (Nat × Node)
  | .group i body => (i, body) :: groupsOf body
  | .seq a b | .alt a b | .given _ a b => groupsOf a ++ groupsOf b
  | .scope body | .loop _ _ _ body | .atomic body | .ahead _ body | .behind _ _ body =>
      groupsOf body
  | .empty | .one _ | .anchor _ | .again .. => []

/-- Whether every match of a tree ends outside names. -/
def endsOutside (body : Node) : Bool :=
  leads [] body false

/-- What the marks tell of a group, whatever attempts have failed in it. If its matches end outside
names, its end does so too, wherever its start is; of another group the two marks go together. -/
structure Fits (text : List Char) (marks : Marks) (group : Nat × Node) : Prop where
  outside : endsOutside group.2 = true →
    ∀ q, entry marks (2 * (group.1 - 1) + 1) = some q → FreeBefore text q
  paired : endsOutside group.2 = false →
    ∀ p q, entry marks (2 * (group.1 - 1)) = some p →
      entry marks (2 * (group.1 - 1) + 1) = some q → Spans text group.2 p q

/-- Some groups fit, and some entries are settled. -/
structure Watch (text : List Char) (groups : List (Nat × Node)) (pins : List (Nat × Nat))
    (marks : Marks) : Prop where
  fits : ∀ g ∈ groups, Fits text marks g
  pinned : ∀ k p, (k, p) ∈ pins → entry marks k = some p

/-- Groups with rows of their own, apart from those of the settled entries. -/
structure Apart (groups : List (Nat × Node)) (pins : List (Nat × Nat)) : Prop where
  rows : (groups.map fun g => g.1 - 1).Nodup
  pins : ∀ k p, (k, p) ∈ pins → ∀ g ∈ groups, g.1 - 1 ≠ k / 2

variable {text : List Char} {groups : List (Nat × Node)} {pins : List (Nat × Nat)}
  {marks marks' : Marks} {g : Nat × Node}

theorem Fits.congr (h : Fits text marks g)
    (hsame : ∀ k, k / 2 = g.1 - 1 → entry marks' k = entry marks k) : Fits text marks' g := by
  have hstart := hsame (2 * (g.1 - 1)) (by omega)
  have hstop := hsame (2 * (g.1 - 1) + 1) (by omega)
  constructor
  · intro hends q hq
    exact h.outside hends q (hstop ▸ hq)
  · intro hends p q hp hq
    exact h.paired hends p q (hstart ▸ hp) (hstop ▸ hq)

theorem fits_nil (text : List Char) (g : Nat × Node) : Fits text [] g :=
  ⟨fun _ _ => nofun, fun _ _ _ => nofun⟩

theorem watch_nil (text : List Char) (groups : List (Nat × Node)) : Watch text groups [] [] :=
  ⟨fun g _ => fits_nil text g, fun _ _ h => nomatch h⟩

theorem held_watch (s : Setting) : Held s (Watch text groups pins) (Watch text groups pins) := by
  refine ⟨?_, fun _ h => h⟩
  intro saved left hsaved hleft
  unfold Setting.restore
  split
  · exact hsaved
  · have hkept {k p : Nat} (h : entry (left.take saved.length) k = some p) :
        entry left k = some p := by
      rw [entry_take] at h
      split at h
      · exact h
      · cases h
    constructor
    · intro g hg
      refine ⟨?_, ?_⟩
      · intro hends q hq
        exact (hleft.fits g hg).outside hends q (hkept hq)
      · intro hends p q hp hq
        exact (hleft.fits g hg).paired hends p q (hkept hp) (hkept hq)
    · intro k p hpin
      rw [entry_take, if_pos (lt_length_of_entry (hsaved.pinned k p hpin))]
      exact hleft.pinned k p hpin

theorem Watch.changeRow (hapart : Apart groups pins) (hg : g ∈ groups)
    (h : Watch text groups pins marks)
    (hsame : ∀ k, k / 2 ≠ g.1 - 1 → entry marks' k = entry marks k)
    (hown : Fits text marks' g) : Watch text groups pins marks' := by
  constructor
  · intro other hother
    by_cases hrow : other.1 - 1 = g.1 - 1
    · obtain rfl := List.inj_on_of_nodup_map hapart.rows hother hg hrow
      exact hown
    · exact (h.fits other hother).congr fun k hk => hsame k (by omega)
  · intro k p hpin
    rw [hsame k (hapart.pins k p hpin g hg).symm]
    exact h.pinned k p hpin

theorem Watch.pin {k p : Nat} (h : Watch text groups pins marks)
    (hrow : ∀ g ∈ groups, g.1 - 1 ≠ k / 2) (hpins : ∀ k' p', (k', p') ∈ pins → k' ≠ k) :
    Watch text groups ((k, p) :: pins) (marks.put k p) := by
  constructor
  · intro g hg
    refine (h.fits g hg).congr ?_
    rintro j hj
    have hne : j ≠ k := by
      rintro rfl
      exact hrow g hg hj.symm
    rw [entry_put, if_neg hne]
  · intro k' p' hpin
    rw [entry_put]
    rcases List.mem_cons.mp hpin with heq | hpin
    · cases heq
      rw [if_pos rfl]
    · rw [if_neg (hpins k' p' hpin)]
      exact h.pinned k' p' hpin

theorem Watch.forget {pins' : List (Nat × Nat)} (h : Watch text groups pins' marks)
    (hpins : pins ⊆ pins') : Watch text groups pins marks :=
  ⟨h.fits, fun k p hpin => h.pinned k p (hpins hpin)⟩

/-- Whether a tree is a group without groups in it. -/
def isBareGroup : Node → Bool
  | .group _ body => !hasGroups body
  | _ => false

/-- Whether the groups of a tree go on fitting whatever attempts fail: each of them ends outside
names, or is all of a greedy loop that may have no rounds. -/
def isSteady : Node → Bool
  | .group _ body => endsOutside body && isSteady body
  | .loop least _ mode body =>
      isSteady body || least == 0 && mode == .greedy && isBareGroup body
  | .seq a b | .alt a b | .given _ a b => isSteady a && isSteady b
  | .scope body | .atomic body | .ahead _ body | .behind _ _ body => isSteady body
  | .empty | .one _ | .anchor _ | .again .. => true

theorem freeBefore_of_endsOutside {body : Node} {p q : Nat} (h : endsOutside body = true)
    (hspan : Spans text body p q) : FreeBefore text q := by
  rcases led_of_leads h hspan nofun with hfree | ⟨w, hw, -⟩
  · exact hfree
  · cases hw

theorem allows_group {i : Nat} {body : Node} (hapart : Apart groups pins)
    (hmem : (i, body) ∈ groups) (hends : endsOutside body = true)
    (hbody : Allows text (Watch text groups pins) body) :
    Allows text (Watch text groups pins) (.group i body) := by
  refine ⟨hbody, ?_, ?_⟩
  · intro p marks _ h
    refine h.changeRow hapart hmem ?_ ?_
    · intro k hk
      rw [entry_put, if_neg (by simp only at hk; omega)]
    · refine ⟨?_, fun hends' => absurd (hends.symm.trans hends') nofun⟩
      intro _ q hq
      rw [entry_put, if_neg (by simp only; omega)] at hq
      exact (h.fits _ hmem).outside hends q hq
  · intro p q marks _ hspan h
    refine h.changeRow hapart hmem ?_ ?_
    · intro k hk
      rw [entry_put, if_neg (by simp only at hk; omega)]
    · refine ⟨?_, fun hends' => absurd (hends.symm.trans hends') nofun⟩
      intro _ q' hq'
      rw [entry_put, if_pos rfl] at hq'
      exact Option.some.inj hq' ▸ freeBefore_of_endsOutside hends hspan

theorem pairs_group {i : Nat} {inner : Node} (hapart : Apart groups pins)
    (hmem : (i, inner) ∈ groups) (hbare : hasGroups inner = false) :
    Pairs text (Watch text groups pins) (.group i inner) := by
  refine ⟨i, inner, rfl, hbare, ?_⟩
  intro p q marks _ _ hspan h
  refine h.changeRow hapart hmem ?_ ?_
  · intro k hk
    simp only at hk
    rw [entry_put, if_neg (by omega), entry_put, if_neg (by omega)]
  · constructor
    · intro hends q' hq'
      rw [entry_put, if_pos rfl] at hq'
      exact Option.some.inj hq' ▸ freeBefore_of_endsOutside hends hspan
    · intro _ p' q' hp' hq'
      rw [entry_put, if_neg (by simp only; omega), entry_put, if_pos rfl] at hp'
      rw [entry_put, if_pos rfl] at hq'
      exact Option.some.inj hp' ▸ Option.some.inj hq' ▸ hspan

theorem allows_watch {node : Node} (hapart : Apart groups pins) (hsteady : isSteady node = true)
    (hgroups : ∀ g ∈ groupsOf node, g ∈ groups) :
    Allows text (Watch text groups pins) node := by
  induction node with
  | group i body ih =>
      obtain ⟨hends, hbody⟩ := Bool.and_eq_true_iff.mp hsteady
      apply allows_group hapart (hgroups _ List.mem_cons_self) hends
      exact ih hbody fun g hg => hgroups g (List.mem_cons_of_mem _ hg)
  | seq a b iha ihb | alt a b iha ihb | given i a b iha ihb =>
      obtain ⟨ha, hb⟩ := Bool.and_eq_true_iff.mp hsteady
      exact ⟨iha ha fun g hg => hgroups g (List.mem_append_left _ hg),
        ihb hb fun g hg => hgroups g (List.mem_append_right _ hg)⟩
  | loop least most mode body ih =>
      rcases Bool.or_eq_true_iff.mp hsteady with hbody | hbare
      · exact .inl (ih hbody hgroups)
      · simp only [Bool.and_eq_true, beq_iff_eq] at hbare
        obtain ⟨⟨hleast, hmode⟩, hbare⟩ := hbare
        refine .inr ⟨⟨hleast, hmode⟩, ?_⟩
        cases body with
        | group i inner =>
            have hfree : hasGroups inner = false := by simpa [isBareGroup] using hbare
            exact pairs_group hapart (hgroups _ List.mem_cons_self) hfree
        | _ => cases hbare
  | scope body ih | atomic body ih | ahead positive body ih | behind positive width body ih =>
      exact ih hsteady hgroups
  | empty | one set | anchor a | again i folding => trivial

end Watching

section Spines

/-- The parts of a tree that are matched one after the other, each exactly once. -/
def spine : Node → List Node
  | .seq a b => a :: spine b
  | node => [node]

/-- A part of the spine without the group that it may be. -/
def core : Node → Node
  | .group _ body => body
  | node => node

/-- The row of a part of the spine that is a group. -/
def row? : Node → Option Nat
  | .group i _ => some (i - 1)
  | _ => none

/-- The entries that a part of the spine settles when it matches between two places. -/
def pinsOf : Node → Nat → Nat → List (Nat × Nat)
  | .group i _, p, q => [(2 * (i - 1) + 1, q), (2 * (i - 1), p)]
  | _, _, _ => []

/-- The groups of a tree that are not themselves parts of its spine. -/
def offSpine (root : Node) : List (Nat × Node) :=
  (spine root).flatMap fun item => groupsOf (core item)

/-- Marks tell where each part of a spine has matched, from one place to another. -/
def Traced (text : List Char) (marks : Marks) : List Node → Nat → Nat → Prop
  | [], p, q => p = q
  | item :: rest, p, q =>
      ∃ m, Spans text item p m ∧ (∀ pin ∈ pinsOf item p m, entry marks pin.1 = some pin.2) ∧
        Traced text marks rest m q

/-- Parts of a spine that can be traced while some groups are watched and some entries settled. -/
structure Traceable (groups : List (Nat × Node)) (pins : List (Nat × Nat)) (items : List Node) :
    Prop where
  apart : Apart groups pins
  steady : ∀ item ∈ items, isSteady (core item) = true ∧ ∀ g ∈ groupsOf (core item), g ∈ groups
  rows : (items.filterMap row?).Nodup
  spineApart : ∀ r ∈ items.filterMap row?,
    (∀ g ∈ groups, g.1 - 1 ≠ r) ∧ ∀ k p, (k, p) ∈ pins → k / 2 ≠ r

variable {text : List Char} {groups : List (Nat × Node)} {pins : List (Nat × Nat)}
  {items : List Node} {item : Node}

theorem row_of_mem_pinsOf {p q : Nat} {pin : Nat × Nat} (h : pin ∈ pinsOf item p q) :
    row? item = some (pin.1 / 2) := by
  cases item with
  | group i body =>
      simp only [pinsOf, List.mem_cons, List.not_mem_nil, or_false] at h
      rcases h with rfl | rfl
      · simp only [row?, Option.some.injEq]
        omega
      · simp only [row?, Option.some.injEq]
        omega
  | _ => cases h

theorem Traceable.tail (h : Traceable groups pins (item :: items)) (p q : Nat) :
    Traceable groups (pinsOf item p q ++ pins) items := by
  have hsub : ∀ r ∈ items.filterMap row?, r ∈ (item :: items).filterMap row? := by
    intro r hr
    exact (List.sublist_cons_self item items).filterMap row? |>.subset hr
  constructor
  · refine ⟨h.apart.rows, ?_⟩
    intro k p' hpin g hg
    rcases List.mem_append.mp hpin with hpin | hpin
    · have hrow : k / 2 ∈ (item :: items).filterMap row? :=
        List.mem_filterMap.mpr ⟨item, List.mem_cons_self, row_of_mem_pinsOf hpin⟩
      exact (h.spineApart _ hrow).1 g hg
    · exact h.apart.pins k p' hpin g hg
  · intro other hother
    exact h.steady other (List.mem_cons_of_mem _ hother)
  · exact h.rows.sublist ((List.sublist_cons_self item items).filterMap row?)
  · intro r hr
    refine ⟨(h.spineApart r (hsub r hr)).1, ?_⟩
    intro k p' hpin
    rcases List.mem_append.mp hpin with hpin | hpin
    · have hrow := row_of_mem_pinsOf hpin
      have hrows := h.rows
      rw [List.filterMap_cons_some hrow, List.nodup_cons] at hrows
      rintro rfl
      exact hrows.1 hr
    · exact (h.spineApart r (hsub r hr)).2 k p' hpin

section Parts

variable {Q : Cursor → Prop} {s : Setting} {c : Cursor} {next : Continuation}

theorem plain_part_ends (hrow : row? item = none) (h : Traceable groups pins (item :: items))
    (hc : Inside text c) (hwatch : Watch text groups pins c.marks)
    (hnext : ∀ d, Inside text d → Spans text item c.position d.position →
      Watch text groups pins d.marks → Ends text Q (Watch text groups pins) (next d)) :
    Ends text Q (Watch text groups pins) (item.run s c next) := by
  have hcore : core item = item := by
    cases item with
    | group i body => cases hrow
    | _ => rfl
  obtain ⟨hsteady, hgroups⟩ := h.steady item List.mem_cons_self
  rw [hcore] at hsteady hgroups
  apply runsWell text item (held_watch s) (allows_watch h.apart hsteady hgroups) hc hwatch
  intro d hd hwatch' hspan
  exact hnext d hd hspan hwatch'

theorem group_part_ends {i : Nat} {body : Node}
    (h : Traceable groups pins (.group i body :: items)) (hc : Inside text c)
    (hwatch : Watch text groups pins c.marks)
    (hnext : ∀ d, Inside text d → Spans text body c.position d.position →
      Watch text groups ((2 * (i - 1) + 1, d.position) :: (2 * (i - 1), c.position) :: pins)
        d.marks →
      Ends text Q
        (Watch text groups ((2 * (i - 1) + 1, d.position) :: (2 * (i - 1), c.position) :: pins))
        (next d)) :
    Ends text Q (Watch text groups pins) ((Node.group i body).run s c next) := by
  obtain ⟨hsteady, hgroups⟩ := h.steady _ List.mem_cons_self
  obtain ⟨hspine, hpins⟩ :=
    h.spineApart (i - 1) (List.mem_filterMap.mpr ⟨_, List.mem_cons_self, rfl⟩)
  -- While the body is matched, of this group only the start is settled.
  have hopen : Watch text groups ((2 * (i - 1), c.position) :: pins)
      (c.marks.put (2 * (i - 1)) c.position) := by
    refine hwatch.pin ?_ ?_
    · intro g hg
      have := hspine g hg
      omega
    · intro k p hpin
      have := hpins k p hpin
      omega
  have hapart : Apart groups ((2 * (i - 1), c.position) :: pins) := by
    refine ⟨h.apart.rows, ?_⟩
    intro k p hpin g hg
    rcases List.mem_cons.mp hpin with heq | hpin
    · cases heq
      have := hspine g hg
      omega
    · exact h.apart.pins k p hpin g hg
  have hbody : Ends text Q (Watch text groups ((2 * (i - 1), c.position) :: pins))
      (body.run s.alone (c.mark (2 * (i - 1))) fun d => next (d.mark (2 * (i - 1) + 1))) := by
    apply runsWell text body (held_watch _) (allows_watch hapart hsteady hgroups) (hc.mark _) hopen
    intro d hd hwatch' hspan
    have hclosed : Watch text groups
        ((2 * (i - 1) + 1, d.position) :: (2 * (i - 1), c.position) :: pins)
        (d.mark (2 * (i - 1) + 1)).marks := by
      refine hwatch'.pin ?_ ?_
      · intro g hg
        have := hspine g hg
        omega
      · intro k p hpin
        rcases List.mem_cons.mp hpin with heq | hpin
        · cases heq
          omega
        · have := hpins k p hpin
          omega
    exact (hnext _ (hd.mark _) hspan hclosed).mono (fun _ hQ => hQ)
      fun _ hG => hG.forget (List.subset_cons_self _ _)
  exact hbody.mono (fun _ hQ => hQ) fun _ hG => hG.forget (List.subset_cons_self _ _)

/-- A part of a spine settles its own entries for what comes behind it. -/
theorem part_ends (h : Traceable groups pins (item :: items)) (hc : Inside text c)
    (hwatch : Watch text groups pins c.marks)
    (hnext : ∀ d, Inside text d → Spans text item c.position d.position →
      Watch text groups (pinsOf item c.position d.position ++ pins) d.marks →
      Ends text Q (Watch text groups (pinsOf item c.position d.position ++ pins)) (next d)) :
    Ends text Q (Watch text groups pins) (item.run s c next) := by
  cases item with
  | group i body => exact group_part_ends h hc hwatch hnext
  | _ => exact plain_part_ends rfl h hc hwatch hnext

end Parts

/-- When a tree has been matched, the marks tell where each part of its spine has. -/
theorem spine_ends {node : Node} {s : Setting} {c : Cursor}
    (h : Traceable groups pins (spine node)) (hc : Inside text c)
    (hwatch : Watch text groups pins c.marks) :
    Ends text
      (fun d => Watch text groups pins d.marks ∧
        Traced text d.marks (spine node) c.position d.position)
      (Watch text groups pins) (node.run s c done) := by
  fun_induction spine node generalizing s c pins with
  | case1 a b ih =>
      change Ends text _ _ (a.run (s.before b) c fun d => b.run s d done)
      apply part_ends h hc hwatch
      intro d hd hspan hwatch'
      refine (ih (h.tail _ _) hd hwatch').mono ?_ fun _ hG => hG
      rintro e ⟨hwatch'', htraced⟩
      refine ⟨hwatch''.forget (List.subset_append_right _ _), d.position, hspan, ?_, htraced⟩
      intro pin hpin
      exact hwatch''.pinned _ _ (List.mem_append_left _ hpin)
  | case2 node hseq =>
      apply part_ends h hc hwatch
      intro d hd hspan hwatch'
      refine ⟨hwatch'.forget (List.subset_append_right _ _), d.position, hspan, ?_, rfl⟩
      intro pin hpin
      exact hwatch'.pinned _ _ (List.mem_append_left _ hpin)

/-- The rows of all groups, those on the spine first. -/
def rows (root : Node) : List Nat :=
  (spine root).filterMap row? ++ (offSpine root).map fun g => g.1 - 1

/-- Whether the marks tell enough of the groups of a tree. -/
def isTraceable (root : Node) : Bool :=
  (spine root).all (fun item => isSteady (core item)) && decide (rows root).Nodup

theorem traceable_of_isTraceable {root : Node} (h : isTraceable root = true) :
    Traceable (offSpine root) [] (spine root) := by
  obtain ⟨hsteady, hrows⟩ := Bool.and_eq_true_iff.mp h
  obtain ⟨hspine, hoff, hdisjoint⟩ := List.nodup_append.mp (of_decide_eq_true hrows)
  constructor
  · exact ⟨hoff, fun _ _ hpin => nomatch hpin⟩
  · intro item hitem
    refine ⟨List.all_eq_true.mp hsteady item hitem, ?_⟩
    intro g hg
    exact List.mem_flatMap.mpr ⟨item, hitem, hg⟩
  · exact hspine
  · intro r hr
    refine ⟨?_, fun _ _ hpin => nomatch hpin⟩
    intro g hg heq
    exact hdisjoint r hr _ (List.mem_map_of_mem hg) heq.symm

end Spines

section Ends

/-- The set that a tree goes through at its end for as long as it can. -/
def lastSet? : Node → Option CharSet
  | .loop _ none .greedy body => body.set?
  | .seq _ b => lastSet? b
  | .group _ body | .scope body => lastSet? body
  | _ => none

/-- The character behind a place, if there is one, does not belong to a set. -/
def StopsAt (text : List Char) (set : CharSet) (p : Nat) : Prop :=
  ∀ x, text[p]? = some x → set.contains x = false

variable {text : List Char} {set : CharSet} {c : Cursor}

theorem stopsAt_of_step? (h : Inside text c) (hstep : c.step? set.contains = none) :
    StopsAt text set c.position := by
  intro x hx
  rw [h.getElem?_position] at hx
  obtain ⟨rest, hrest⟩ := List.head?_eq_some_iff.mp hx
  rw [Cursor.step?, hrest] at hstep
  simpa using hstep

theorem reach_stops {limit : Nat} (h : Inside text c) (hlimit : c.after.length ≤ limit)
    (passed : List Cursor) :
    ∃ last rest, c.reach set limit passed = last :: rest ∧ StopsAt text set last.position := by
  induction limit generalizing c passed with
  | zero =>
      refine ⟨c, passed, rfl, ?_⟩
      have hnil : c.after = [] := List.eq_nil_of_length_eq_zero (Nat.le_zero.mp hlimit)
      intro x hx
      rw [h.getElem?_position, hnil] at hx
      cases hx
  | succ limit ih =>
      rw [Cursor.reach]
      split
      · rename_i d hstep
        obtain ⟨hd, -, -, hposition, -⟩ := h.step hstep
        apply ih hd
        rw [h.after_eq, List.length_drop] at hlimit
        rw [hd.after_eq, List.length_drop]
        omega
      · rename_i hstep
        exact ⟨c, passed, rfl, stopsAt_of_step? h hstep⟩

/-- Nothing is left but what always succeeds where it stands. -/
def Settled (text : List Char) (next : Continuation) : Prop :=
  ∀ d, Inside text d → ∃ e, next d = .matched e ∧ e.position = d.position

variable {s : Setting} {next : Continuation}

theorem runSet_stops {least : Nat} (hs : s.next = none) (hc : Inside text c)
    (hnext : Settled text next) :
    Ends text (fun d => StopsAt text set d.position) (fun _ => True)
      (runSet s set least none .greedy c next) := by
  unfold runSet
  split
  · exact ⟨hc.noted, trivial⟩
  · extract_lets limit
    have hlimit : c.note.after.length ≤ limit := by
      simp [limit, Cursor.note]
    obtain ⟨last, passed, hreach, hstops⟩ :
        ∃ last rest, c.note.reach set limit [] = last :: rest ∧ StopsAt text set last.position :=
      reach_stops hc.note hlimit []
    have horigin : Behind text set c.note c.note := ⟨hc.note, rfl, 0, rfl, rfl⟩
    obtain ⟨last', passed', hreach', hplaces⟩ := reach_behind [] limit horigin (by simp)
    obtain ⟨rfl, rfl⟩ := List.cons.inj (hreach.symm.trans hreach')
    have hlast : Inside text last := (hplaces 0 last rfl).1.1
    rw [hreach]
    dsimp only
    split
    · refine ⟨?_, trivial⟩
      split
      · exact hlast.position_le
      · exact hc.position_le
    · rename_i hcount
      obtain ⟨k, hk⟩ : ∃ k, last.position - c.position + 1 - least = k + 1 :=
        ⟨last.position - c.position - least, by omega⟩
      -- The farthest place is tried first, and nothing stands in the way there.
      obtain ⟨e, he, hposition⟩ := hnext { last.note with marks := c.marks }
        (hlast.note.remember hlast.position_le c.marks)
      rw [hk, List.take_succ_cons, attemptAll, hs, Option.any_none, if_neg Bool.false_ne_true, he]
      show StopsAt text set e.position
      rw [hposition]
      exact hstops

/-- A tree that ends with a loop over a set, with nothing behind it to give way to, leaves no
character of the set behind it. -/
theorem run_stops {node : Node} (hset : lastSet? node = some set) (hs : s.next = none)
    (hc : Inside text c) (hnext : Settled text next) :
    Ends text (fun d => StopsAt text set d.position) (fun _ => True) (node.run s c next) := by
  induction node generalizing s c next with
  | loop least most mode body =>
      cases most with
      | some n => cases hset
      | none =>
          cases mode with
          | frugal | possessive => cases hset
          | greedy =>
              rw [lastSet?] at hset
              rw [Node.run, hset]
              exact runSet_stops hs hc hnext
  | seq a b _ ihb =>
      have hheld : Held (s.before b) (fun _ => True) (fun _ => True) :=
        ⟨fun _ _ _ _ => trivial, fun _ _ => trivial⟩
      change Ends text _ _ (a.run (s.before b) c fun d => b.run s d next)
      apply runsWell text a hheld (allows_of_put (fun _ _ _ _ _ => trivial) a) hc trivial
      intro d hd _ _
      exact ihb hset hs hd hnext
  | group i body ih =>
      refine ih hset rfl (hc.mark _) ?_
      intro d hd
      exact hnext _ (hd.mark _)
  | scope body ih => exact ih hset hs hc hnext
  | _ => cases hset

end Ends

/-- What is known of a match from its marks: where the parts of the spine have matched, that the
other groups fit, and what does not come behind it. -/
theorem traced_of_leaves {text : List Char} {root : Node} {marks : Marks}
    (h : Leaves text root marks) (htraceable : isTraceable root = true) :
    (∀ g ∈ offSpine root, Fits text marks g) ∧
      ∃ p q, Traced text marks (spine root) p q ∧
        ∀ set, lastSet? root = some set → StopsAt text set q := by
  obtain ⟨c, d, hc, hmarks, hrun, rfl⟩ := h
  have hwatch : Watch text (offSpine root) [] c.marks := by
    rw [hmarks]
    exact watch_nil text _
  have hspine : Ends text _ _ (root.run ⟨false, none⟩ c done) :=
    spine_ends (traceable_of_isTraceable htraceable) hc hwatch
  rw [hrun] at hspine
  refine ⟨hspine.1.fits, c.position, d.position, hspine.2, ?_⟩
  intro set hset
  have hstops : Ends text _ _ (root.run ⟨false, none⟩ c done) :=
    run_stops hset rfl hc fun e _ => ⟨e.note, rfl, rfl⟩
  rw [hrun] at hstops
  exact hstops

end SymbolSearch.Proofs.GroupTraces
