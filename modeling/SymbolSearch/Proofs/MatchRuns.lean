import SymbolSearch.Pattern.Matcher

namespace SymbolSearch.Proofs.MatchRuns

open Pattern

section Places

/-- A cursor that stands somewhere in a text. -/
structure Inside (text : List Char) (c : Cursor) : Prop where
  around : c.before.reverse ++ c.after = text
  position : c.position = c.before.length
  noted : c.noted ≤ text.length

/-- A position of a text as a cursor. -/
def placeAt (text : List Char) (position : Nat) : Cursor :=
  ⟨(text.take position).reverse, text.drop position, position, position, []⟩

variable {text : List Char} {c d : Cursor}

theorem inside_start (text : List Char) : Inside text (.start text) :=
  ⟨rfl, rfl, Nat.zero_le _⟩

theorem Inside.position_le (h : Inside text c) : c.position ≤ text.length := by
  rw [h.position, ← h.around, List.length_append, List.length_reverse]
  omega

theorem Inside.note (h : Inside text c) : Inside text c.note :=
  ⟨h.around, h.position, h.position_le⟩

theorem Inside.remember {noted : Nat} (h : Inside text c) (hnoted : noted ≤ text.length)
    (marks : Marks) : Inside text { c with noted := noted, marks := marks } :=
  ⟨h.around, h.position, hnoted⟩

theorem Inside.mark (h : Inside text c) (entry : Nat) : Inside text (c.mark entry) :=
  ⟨h.around, h.position, h.noted⟩

theorem Inside.before_eq (h : Inside text c) : c.before = (text.take c.position).reverse := by
  rw [← h.around, h.position, ← List.length_reverse, List.take_left, List.reverse_reverse]

theorem Inside.after_eq (h : Inside text c) : c.after = text.drop c.position := by
  rw [← h.around, h.position, ← List.length_reverse, List.drop_left]

theorem Inside.getElem?_position (h : Inside text c) : text[c.position]? = c.after.head? := by
  rw [h.after_eq, List.head?_drop]

theorem Inside.step {p : Char → Bool} (h : Inside text c) (hstep : c.step? p = some d) :
    Inside text d ∧ d.marks = c.marks ∧ d.noted = c.noted ∧ d.position = c.position + 1 ∧
      ∃ x, text[c.position]? = some x ∧ p x = true := by
  rw [Cursor.step?] at hstep
  split at hstep
  · cases hstep
  · rename_i x rest hafter
    split at hstep
    · rename_i hx
      obtain rfl := Option.some.inj hstep
      refine ⟨⟨?_, ?_, h.noted⟩, rfl, rfl, rfl, x, ?_, hx⟩
      · rw [← h.around, hafter]
        simp
      · rw [List.length_cons, ← h.position]
      · have hdrop := h.after_eq
        rw [hafter] at hdrop
        rw [← Nat.add_zero c.position, ← List.getElem?_drop, ← hdrop]
        rfl
    · cases hstep

theorem Inside.back {width : Nat} (h : Inside text c) (hback : c.back? width = some d) :
    Inside text d ∧ d.marks = c.marks := by
  induction width generalizing c with
  | zero =>
      obtain rfl := Option.some.inj hback
      exact ⟨h, rfl⟩
  | succ width ih =>
      rw [Cursor.back?] at hback
      split at hback
      · cases hback
      · rename_i x rest hbefore
        have hmoved : Inside text
            { c with before := rest, after := x :: c.after, position := c.position - 1 } := by
          refine ⟨?_, ?_, h.noted⟩
          · rw [← h.around, hbefore]
            simp
          · rw [h.position, hbefore]
            rfl
        have hd := ih hmoved hback
        exact hd

theorem Inside.seek {position : Nat} (h : Inside text c) (hle : position ≤ text.length) :
    Inside text (c.seek position) := by
  have htext : c.text = text := h.around
  refine ⟨?_, ?_, hle⟩
  · simp [Cursor.seek, htext]
  · simp [Cursor.seek, htext, hle]

theorem Inside.stepOver {folding : Folding} {xs : List Char} (h : Inside text c)
    (hstep : stepOver? folding xs c = some d) : Inside text d ∧ d.marks = c.marks := by
  induction xs generalizing c with
  | nil =>
      obtain rfl := Option.some.inj hstep
      exact ⟨h, rfl⟩
  | cons x xs ih =>
      rw [stepOver?] at hstep
      split at hstep
      · rename_i e he
        obtain ⟨hinside, hmarks, -⟩ := h.step he
        rw [← hmarks]
        exact ih hinside hstep
      · cases hstep

end Places

section Spans

/-- A number of steps of a relation, one after the other. -/
def Repeats (R : Nat → Nat → Prop) : Nat → Nat → Nat → Prop
  | 0, p, q => p = q
  | n + 1, p, q => ∃ m, Repeats R n p m ∧ R m q

theorem Repeats.mono {R R' : Nat → Nat → Prop} {n p q : Nat} (h : Repeats R n p q)
    (hR : ∀ p q, R p q → R' p q) : Repeats R' n p q := by
  induction n generalizing q with
  | zero => exact h
  | succ n ih =>
      obtain ⟨m, hrepeats, hlast⟩ := h
      exact ⟨m, ih hrepeats, hR _ _ hlast⟩

theorem Repeats.lead {R : Nat → Nat → Prop} {L : Nat → Prop} {n p q : Nat}
    (h : Repeats R n p q) (hround : ∀ m m', R m m' → L m → L m') (hp : L p) : L q := by
  induction n generalizing q with
  | zero => exact h ▸ hp
  | succ n ih =>
      obtain ⟨m, hrounds, hlast⟩ := h
      exact hround m q hlast (ih hrounds)

theorem Repeats.trail {R : Nat → Nat → Prop} {L : Nat → Prop} {n p q : Nat}
    (h : Repeats R n p q) (hround : ∀ m m', R m m' → L m' → L m) (hq : L q) : L p := by
  induction n generalizing q with
  | zero => exact h ▸ hq
  | succ n ih =>
      obtain ⟨m, hrounds, hlast⟩ := h
      exact ih hrounds (hround m q hlast hq)

theorem Repeats.first {R : Nat → Nat → Prop} {n p q : Nat} (h : Repeats R n p q)
    (hn : n ≠ 0) : ∃ m, R p m := by
  induction n generalizing q with
  | zero => exact absurd rfl hn
  | succ n ih =>
      obtain ⟨m, hrounds, hlast⟩ := h
      by_cases hzero : n = 0
      · subst hzero
        obtain rfl := hrounds
        exact ⟨q, hlast⟩
      · exact ih hrounds hzero

theorem Repeats.last {R : Nat → Nat → Prop} {n p q : Nat} (h : Repeats R n p q) (hn : n ≠ 0) :
    ∃ m, R m q := by
  obtain ⟨n, rfl⟩ := Nat.exists_eq_succ_of_ne_zero hn
  obtain ⟨m, -, hlast⟩ := h
  exact ⟨m, hlast⟩

/-- A tree can match the text between two positions. Trees that look around, hold on to what they
have matched or refer to groups are taken to match anything, and so are frugal loops. -/
def Spans (text : List Char) : Node → Nat → Nat → Prop
  | .empty, p, q => p = q
  | .one set, p, q => (∃ x, text[p]? = some x ∧ set.contains x = true) ∧ q = p + 1
  | .anchor a, p, q => p = q ∧ a.holds (placeAt text p) = true
  | .seq a b, p, q => ∃ m, Spans text a p m ∧ Spans text b m q
  | .alt a b, p, q => Spans text a p q ∨ Spans text b p q
  | .group _ body, p, q => Spans text body p q
  | .scope body, p, q => Spans text body p q
  | .loop least _ .greedy body, p, q => ∃ n, least ≤ n ∧ Repeats (Spans text body) n p q
  | _, _, _ => True

theorem holds_placeAt {text : List Char} {c : Cursor} (h : Inside text c) (a : Anchor) :
    a.holds (placeAt text c.position) = a.holds c := by
  cases a <;> simp only [Anchor.holds, isBoundary, placeAt, h.before_eq, h.after_eq]

theorem spans_of_set? {text : List Char} {node : Node} {set : CharSet} {p q : Nat}
    (hset : node.set? = some set) (h : Spans text (.one set) p q) : Spans text node p q := by
  induction node with
  | one set' =>
      obtain rfl := Option.some.inj hset
      exact h
  | scope body ih => exact ih hset
  | _ => cases hset

end Spans

section Outcomes

/-- An attempt that succeeds ends in a place with a property, and one that fails leaves marks with a
property behind. -/
def Ends (text : List Char) (Q : Cursor → Prop) (G : Marks → Prop) : Pattern.Outcome → Prop
  | .matched d => Q d
  | .failed noted left => noted ≤ text.length ∧ G left

/-- A property of marks, and a weaker one of those that failed attempts leave: where an attempt is
followed by another one, the first property is restored. -/
structure Held (s : Setting) (I G : Marks → Prop) : Prop where
  restores : ∀ saved left, I saved → G left → I (s.restore saved left)
  weakens : ∀ marks, I marks → G marks

variable {text : List Char} {s : Setting} {I G G' : Marks → Prop} {Q Q' : Cursor → Prop}
  {c : Cursor} {o : Pattern.Outcome}

theorem Ends.mono (h : Ends text Q G o) (hQ : ∀ d, Q d → Q' d) (hG : ∀ m, G m → G' m) :
    Ends text Q' G' o := by
  cases o with
  | matched d => exact hQ d h
  | failed noted left => exact ⟨h.1, hG left h.2⟩

theorem Held.alone (h : Held s I G) : Held s.alone I G :=
  ⟨h.restores, h.weakens⟩

theorem Held.before (h : Held s I G) (node : Node) : Held (s.before node) I G := by
  refine ⟨?_, h.weakens⟩
  intro saved left hsaved hleft
  have hrestore : (s.before node).restore saved left = s.restore saved left := by
    rw [Setting.before]
    split <;> rfl
  rw [hrestore]
  exact h.restores saved left hsaved hleft

/-- Inside a loop every attempt starts with the marks of the first one. -/
theorem held_in_loop {next : Option Nat} (h : ∀ m, I m → G m) : Held ⟨true, next⟩ I G :=
  ⟨fun _ _ hsaved _ => hsaved, h⟩

theorem Held.failed (h : Held s I G) (hc : Inside text c) (hI : I c.marks) :
    Ends text Q G (.failed c.noted c.marks) :=
  ⟨hc.noted, h.weakens _ hI⟩

end Outcomes

section Loops

variable {text : List Char} {s : Setting} {I G : Marks → Prop} {Q : Cursor → Prop} {c : Cursor}
  {next : Continuation} {set : CharSet}

theorem attempt_ends {run : Cursor → Pattern.Outcome} {node : Node} (hheld : Held s I G)
    (hc : Inside text c) (hI : I c.marks) (hrun : Ends text Q G (run c.note)) :
    Ends text Q G (attempt run node c) := by
  rw [attempt]
  split
  · exact hheld.failed hc hI
  · exact hrun

theorem attemptAll_ends {saved marks : Marks} {places : List Cursor} {noted : Nat}
    (hheld : Held s I G) (hsaved : I saved) (hnoted : noted ≤ text.length) (hI : I marks)
    (hnext : ∀ d ∈ places, ∀ marks, I marks →
      Ends text Q G (next { d.note with marks := marks })) :
    Ends text Q G (attemptAll s saved next places noted marks) := by
  induction places generalizing noted marks with
  | nil => exact ⟨hnoted, hheld.weakens _ hI⟩
  | cons d places ih =>
      have hrest : ∀ e ∈ places, ∀ marks, I marks →
          Ends text Q G (next { e.note with marks := marks }) :=
        fun e he => hnext e (List.mem_cons_of_mem d he)
      rw [attemptAll]
      split
      · exact ih hnoted hI hrest
      · have hd := hnext d List.mem_cons_self marks hI
        split
        · rename_i e he
          rw [he] at hd
          exact hd
        · rename_i noted' left he
          rw [he] at hd
          exact ih hd.1 (hheld.restores _ _ hsaved hd.2) hrest

/-- A place behind a number of characters of a set. -/
def Behind (text : List Char) (set : CharSet) (origin d : Cursor) : Prop :=
  Inside text d ∧ d.marks = origin.marks ∧
    ∃ n, d.position = origin.position + n ∧
      Repeats (Spans text (.one set)) n origin.position d.position

theorem reach_behind {origin : Cursor} (passed : List Cursor) (limit : Nat)
    (hc : Behind text set origin c)
    (hpassed : ∀ k d, passed[k]? = some d →
      Behind text set origin d ∧ d.position + (k + 1) = c.position) :
    ∃ last rest, c.reach set limit passed = last :: rest ∧
      ∀ k d, (last :: rest)[k]? = some d →
        Behind text set origin d ∧ d.position + k = last.position := by
  have hhere : ∀ k d, (c :: passed)[k]? = some d →
      Behind text set origin d ∧ d.position + k = c.position := by
    intro k d hd
    cases k with
    | zero =>
        obtain rfl := Option.some.inj hd
        exact ⟨hc, rfl⟩
    | succ k => exact hpassed k d hd
  induction limit generalizing c passed with
  | zero => exact ⟨c, passed, rfl, hhere⟩
  | succ limit ih =>
      rw [Cursor.reach]
      split
      · rename_i d hstep
        obtain ⟨hinside, hmarks, -, hposition, hx⟩ := hc.1.step hstep
        obtain ⟨-, hmarks', n, hn, hrepeats⟩ := hc
        have hd : Behind text set origin d := by
          refine ⟨hinside, hmarks.trans hmarks', n + 1, by omega, c.position, hrepeats, hx, ?_⟩
          exact hposition
        have hpassed' : ∀ k e, (c :: passed)[k]? = some e →
            Behind text set origin e ∧ e.position + (k + 1) = d.position := by
          intro k e he
          obtain ⟨hbehind, hplace⟩ := hhere k e he
          exact ⟨hbehind, by omega⟩
        apply ih (c :: passed) hd hpassed'
        intro k e he
        cases k with
        | zero =>
            obtain rfl := Option.some.inj he
            exact ⟨hd, rfl⟩
        | succ k => exact hpassed' k e he
      · exact ⟨c, passed, rfl, hhere⟩

theorem creep_ends (hheld : Held s I G)
    (hnext : ∀ d, Inside text d → I d.marks → Ends text Q G (next d)) (fuel : Nat)
    (allowed : Option Nat) (hc : Inside text c) (hI : I c.marks) :
    Ends text Q G (creep s set next fuel allowed c) := by
  induction fuel generalizing allowed c with
  | zero => exact hheld.failed hc hI
  | succ fuel ih =>
      have hhere := hnext c.note hc.note hI
      rw [creep]
      split
      · rename_i d hd
        rw [hd] at hhere
        exact hhere
      · rename_i noted left hleft
        rw [hleft] at hhere
        have hrestored : I (s.restore c.marks left) := hheld.restores _ _ hI hhere.2
        dsimp only
        split
        · exact ⟨hc.position_le, hheld.weakens _ hrestored⟩
        · rename_i d hstep
          have hinside := (hc.step hstep).1.remember hc.position_le (s.restore c.marks left)
          have hplace : Inside text
              (if set.isStepwise then
                Cursor.note { d with noted := c.position, marks := s.restore c.marks left }
              else { d with noted := c.position, marks := s.restore c.marks left }) := by
            split
            · exact hinside.note
            · exact hinside
          have hmarks : I (if set.isStepwise then
                Cursor.note { d with noted := c.position, marks := s.restore c.marks left }
              else { d with noted := c.position, marks := s.restore c.marks left }).marks := by
            split <;> exact hrestored
          split
          · exact ⟨hplace.noted, hheld.weakens _ hrestored⟩
          · exact ih _ hplace hmarks

theorem runSet_ends {least : Nat} {most : Option Nat} {mode : Mode} (hheld : Held s I G)
    (hc : Inside text c) (hI : I c.marks)
    (hnext : ∀ d, Inside text d → I d.marks →
      (mode = .greedy →
        ∃ n, least ≤ n ∧ Repeats (Spans text (.one set)) n c.position d.position) →
      Ends text Q G (next d)) :
    Ends text Q G (runSet s set least most mode c next) := by
  unfold runSet
  split
  · exact hheld.failed hc hI
  · extract_lets limit
    have horigin : Behind text set c.note c.note := ⟨hc.note, rfl, 0, rfl, rfl⟩
    obtain ⟨last, passed, hreach, hplaces⟩ :=
      reach_behind [] limit horigin (by simp)
    obtain ⟨⟨hinside, hmarks, -⟩, -⟩ := hplaces 0 last rfl
    have hlast : I last.marks := by
      rw [hmarks]
      exact hI
    have hnoted : (if set.isStepwise then last.position else c.position) ≤ text.length := by
      split
      · exact hinside.position_le
      · exact hc.position_le
    rw [hreach]
    dsimp only
    split
    · exact ⟨hnoted, hheld.weakens _ hI⟩
    · split
      · -- Of the places that were passed, those are tried that enough characters precede.
        apply attemptAll_ends hheld hI hnoted hI
        intro d hd marks hmarks
        obtain ⟨k, hk, hget⟩ := List.mem_take_iff_getElem.mp hd
        have hget' : (last :: passed)[k]? = some d := by
          rw [List.getElem?_eq_getElem (by omega), hget]
        obtain ⟨⟨hd, -, n, hn, hrepeats⟩, hplace⟩ := hplaces k d hget'
        refine hnext _ (hd.note.remember hd.position_le marks) hmarks ?_
        intro _
        refine ⟨n, ?_, hrepeats⟩
        have hcount : c.note.position = c.position := rfl
        omega
      · apply creep_ends hheld ?_ _ _ hinside hlast
        intro d hd hI
        exact hnext d hd hI (by simp)
      · refine hnext _ ?_ hlast (by simp)
        exact hinside.remember hnoted _

/-- Rounds of a loop. In a greedy loop the marks of a round past the least number that fails are
dropped, so nothing need be known of them. -/
theorem rounds_ends {H : Marks → Prop} {R : Nat → Nat → Prop} {start least : Nat}
    {most : Option Nat} {eager : Bool} {body : Cursor → Continuation → Pattern.Outcome}
    (hheld : Held s I G) (hweak : ∀ m, G m → H m)
    (hback : least = 0 ∧ eager = true ∨ ∀ m, H m → G m)
    (hbody : ∀ c k, Inside text c → I c.marks →
      (∀ d, Inside text d → I d.marks → R c.position d.position → Ends text Q H (k d)) →
      Ends text Q H (body c k))
    (hnext : ∀ d n, Inside text d → I d.marks → least ≤ n → Repeats R n start d.position →
      Ends text Q G (next d))
    (fuel count : Nat) (last : Option Nat) (hc : Inside text c) (hI : I c.marks)
    (hcount : Repeats R count start c.position) :
    Ends text Q G (rounds s body least most eager next fuel count last c) := by
  induction fuel generalizing count last c with
  | zero => exact ⟨hc.position_le, hheld.weakens _ hI⟩
  | succ fuel ih =>
      have hanother : ∀ (d : Cursor) (last : Option Nat), Inside text d → I d.marks →
          d.position = c.position →
          Ends text Q H
            (body d (rounds s body least most eager next fuel (count + 1) last)) := by
        intro d last hd hI hplace
        apply hbody d _ hd hI
        intro e he hI' hround
        have hrepeats : Repeats R (count + 1) start e.position :=
          ⟨c.position, hcount, hplace ▸ hround⟩
        exact (ih (count + 1) last he hI' hrepeats).mono (fun _ h => h) hweak
      have hsettle : ∀ o, Ends text Q G o → Ends text Q G
          (match o with
            | .matched d => .matched d
            | .failed _ left => .failed c.note.position left) := by
        intro o ho
        cases o with
        | matched d => exact ho
        | failed noted left => exact ⟨hc.position_le, ho.2⟩
      rw [rounds]
      dsimp only
      split
      · -- A round that is still required: the loop cannot be a greedy one without a least number.
        rename_i hleast
        have hstrong : ∀ m, H m → G m := by
          rcases hback with ⟨rfl, -⟩ | hstrong
          · exact absurd hleast (Nat.not_lt_zero _)
          · exact hstrong
        apply hsettle
        exact (hanother c.note last hc.note hI rfl).mono (fun _ h => h) hstrong
      · rename_i hleast
        have hhere : Ends text Q G (next c.note) :=
          hnext c.note count hc.note hI (Nat.not_lt.mp hleast) hcount
        split
        · have htry : Ends text Q H
              (if (most.all fun n => decide (count < n)) && last != some c.note.position then
                body c.note (rounds s body least most eager next fuel (count + 1)
                  (some c.note.position))
              else .failed c.note.position c.note.marks) := by
            split
            · exact hanother c.note _ hc.note hI rfl
            · exact ⟨hc.position_le, hweak _ (hheld.weakens _ hI)⟩
          split
          · rename_i d hd
            rw [hd] at htry
            exact htry
          · exact hsettle _ hhere
        · rename_i heager
          have hstrong : ∀ m, H m → G m := by
            rcases hback with ⟨-, htrue⟩ | hstrong
            · exact absurd htrue heager
            · exact hstrong
          split
          · rename_i d hd
            rw [hd] at hhere
            exact hhere
          · rename_i noted left hleft
            rw [hleft] at hhere
            have hrestored : I (s.restore c.note.marks left) := hheld.restores _ _ hI hhere.2
            have hinside := hc.note.remember hc.note.noted (s.restore c.note.marks left)
            split
            · apply hsettle
              exact (hanother _ _ hinside hrestored rfl).mono (fun _ h => h) hstrong
            · exact ⟨hc.position_le, hheld.weakens _ hrestored⟩

theorem holdRounds_ends {start least : Nat} {most : Option Nat} {body : Cursor → Pattern.Outcome}
    (hheld : Held s I G) (hstart : start ≤ text.length)
    (hbody : ∀ c, Inside text c → I c.marks →
      Ends text (fun d => Inside text d ∧ I d.marks) G (body c))
    (fuel count : Nat) (last : Option Nat) (hc : Inside text c) (hI : I c.marks) :
    Ends text (fun d => Inside text d ∧ I d.marks) G
      (holdRounds body least most start fuel count last c) := by
  induction fuel generalizing count last c with
  | zero => exact ⟨hstart, hheld.weakens _ hI⟩
  | succ fuel ih =>
      have hround := hbody c hc hI
      rw [holdRounds]
      split
      · split
        · rename_i d hd
          rw [hd] at hround
          exact ih _ _ hround.1 hround.2
        · rename_i noted left hleft
          rw [hleft] at hround
          exact ⟨hstart, hround.2⟩
      · split
        · split
          · rename_i d hd
            rw [hd] at hround
            exact ih _ _ hround.1 hround.2
          · rename_i noted left hleft
            rw [hleft] at hround
            exact ⟨hc.seek hround.1, hI⟩
        · exact ⟨hc, hI⟩

end Loops

section Trees

/-- Whether a tree has groups. -/
def hasGroups : Node → Bool
  | .group .. => true
  | .seq a b | .alt a b | .given _ a b => hasGroups a || hasGroups b
  | .scope body | .loop _ _ _ body | .atomic body | .ahead _ body | .behind _ _ body =>
      hasGroups body
  | .empty | .one _ | .anchor _ | .again .. => false

/-- A property of marks is kept when a group without groups in it is entered and left again. -/
def Pairs (text : List Char) (I : Marks → Prop) (body : Node) : Prop :=
  ∃ i inner, body = .group i inner ∧ hasGroups inner = false ∧
    ∀ p q marks, p ≤ text.length → q ≤ text.length → Spans text inner p q → I marks →
      I ((marks.put (2 * (i - 1)) p).put (2 * (i - 1) + 1) q)

/-- A property of marks is kept whatever the groups of a tree match: when a group is entered and
when it is left. For the rounds of a loop that may have none it is enough that it is kept by the two
together. -/
def Allows (text : List Char) (I : Marks → Prop) : Node → Prop
  | .group i body =>
      Allows text I body ∧
        (∀ p marks, p ≤ text.length → I marks → I (marks.put (2 * (i - 1)) p)) ∧
        ∀ p q marks, q ≤ text.length → Spans text body p q → I marks →
          I (marks.put (2 * (i - 1) + 1) q)
  | .loop least _ mode body =>
      Allows text I body ∨ (least = 0 ∧ mode = .greedy) ∧ Pairs text I body
  | .seq a b | .alt a b | .given _ a b => Allows text I a ∧ Allows text I b
  | .scope body | .atomic body | .ahead _ body | .behind _ _ body => Allows text I body
  | .empty | .one _ | .anchor _ | .again .. => True

theorem allows_of_not_hasGroups {text : List Char} {node : Node} (h : hasGroups node = false)
    (I : Marks → Prop) : Allows text I node := by
  induction node with
  | group i body ih => cases h
  | seq a b iha ihb | alt a b iha ihb | given i a b iha ihb =>
      obtain ⟨ha, hb⟩ := Bool.or_eq_false_iff.mp h
      exact ⟨iha ha, ihb hb⟩
  | loop least most mode body ih => exact .inl (ih h)
  | scope body ih | atomic body ih | ahead positive body ih | behind positive width body ih =>
      exact ih h
  | empty | one set | anchor a | again i folding => trivial

/-- Whatever a tree is run with, it hands over only places that it can reach, with marks that keep a
property, and leaves marks behind as the continuation leaves them. -/
def RunsWell (text : List Char) (node : Node) : Prop :=
  ∀ {I G : Marks → Prop} {Q : Cursor → Prop} {s : Setting} {c : Cursor} {next : Continuation},
    Held s I G → Allows text I node → Inside text c → I c.marks →
    (∀ d, Inside text d → I d.marks → Spans text node c.position d.position →
      Ends text Q G (next d)) →
    Ends text Q G (node.run s c next)

variable {text : List Char} {a b body : Node}

theorem runsWell_one (set : CharSet) : RunsWell text (.one set) := by
  intro I G Q s c next hheld _ hc hI hnext
  rw [Node.run]
  split
  · rename_i d hd
    obtain ⟨hinside, hmarks, -, hposition, hx⟩ := hc.step hd
    exact hnext d hinside (hmarks ▸ hI) ⟨hx, hposition⟩
  · exact hheld.failed hc hI

theorem runsWell_anchor (anchor : Anchor) : RunsWell text (.anchor anchor) := by
  intro I G Q s c next hheld _ hc hI hnext
  change Ends text Q G (if anchor.holds c then next c else .failed c.noted c.marks)
  split
  · rename_i hholds
    exact hnext c hc hI ⟨rfl, (holds_placeAt hc anchor).trans hholds⟩
  · exact hheld.failed hc hI

theorem runsWell_seq (ha : RunsWell text a) (hb : RunsWell text b) :
    RunsWell text (.seq a b) := by
  intro I G Q s c next hheld hallow hc hI hnext
  change Ends text Q G (a.run (s.before b) c fun d => b.run s d next)
  apply ha (hheld.before b) hallow.1 hc hI
  intro d hd hId hspan
  apply hb hheld hallow.2 hd hId
  intro e he hIe hspan'
  exact hnext e he hIe ⟨d.position, hspan, hspan'⟩

theorem runsWell_alt (ha : RunsWell text a) (hb : RunsWell text b) :
    RunsWell text (.alt a b) := by
  intro I G Q s c next hheld hallow hc hI hnext
  have hleft : Ends text Q G (attempt (fun c => a.run s.alone c next) a c) :=
    attempt_ends hheld hc hI
      (ha hheld.alone hallow.1 hc.note hI fun d hd hId hspan => hnext d hd hId (.inl hspan))
  rw [Node.run]
  split
  · rename_i d hd
    rw [hd] at hleft
    exact hleft
  · rename_i noted left hfailed
    rw [hfailed] at hleft
    have hrestored : I (s.restore c.marks left) := hheld.restores _ _ hI hleft.2
    have hplace := hc.remember hleft.1 (s.restore c.marks left)
    dsimp only
    split
    · exact hb hheld hallow.2 hplace hrestored fun d hd hId hspan => hnext d hd hId (.inr hspan)
    · have hright : Ends text Q G (attempt (fun c => b.run s.alone c next) b
          { c with noted := noted, marks := s.restore c.marks left }) :=
        attempt_ends hheld hplace hrestored (hb hheld.alone hallow.2 hplace.note hrestored
          fun d hd hId hspan => hnext d hd hId (.inr hspan))
      split
      · rename_i d hd
        rw [hd] at hright
        exact hright
      · rename_i noted' left' hfailed'
        rw [hfailed'] at hright
        exact ⟨hright.1, hheld.weakens _ (hheld.restores _ _ hrestored hright.2)⟩

theorem runsWell_group (i : Nat) (hbody : RunsWell text body) :
    RunsWell text (.group i body) := by
  intro I G Q s c next hheld hallow hc hI hnext
  obtain ⟨hallow, hopen, hclose⟩ := hallow
  change Ends text Q G
    (body.run s.alone (c.mark (2 * (i - 1))) fun d => next (d.mark (2 * (i - 1) + 1)))
  apply hbody hheld.alone hallow (hc.mark _) (hopen _ _ hc.position_le hI)
  intro d hd hId hspan
  exact hnext (d.mark _) (hd.mark _) (hclose _ _ _ hd.position_le hspan hId) hspan

theorem group_in_loop_ends {i : Nat} {Q : Cursor → Prop} {c : Cursor} {next : Continuation}
    (hbody : RunsWell text body) (hfree : hasGroups body = false) (hc : Inside text c)
    (hnext : ∀ d, Inside text d →
      d.marks = (c.marks.put (2 * (i - 1)) c.position).put (2 * (i - 1) + 1) d.position →
      Spans text body c.position d.position → Ends text Q (fun _ => True) (next d)) :
    Ends text Q (fun _ => True) ((Node.group i body).run ⟨true, none⟩ c next) := by
  change Ends text Q _
    (body.run ⟨true, none⟩ (c.mark (2 * (i - 1))) fun d => next (d.mark (2 * (i - 1) + 1)))
  apply hbody (I := fun marks => marks = c.marks.put (2 * (i - 1)) c.position)
    (held_in_loop fun _ _ => trivial) (allows_of_not_hasGroups hfree _) (hc.mark _) rfl
  intro d hd hmarks hspan
  refine hnext (d.mark _) (hd.mark _) ?_ hspan
  rw [Cursor.mark, hmarks]

theorem runsWell_loop (least : Nat) (most : Option Nat) (mode : Mode) (hbody : RunsWell text body)
    (hinner : ∀ i inner, body = .group i inner → RunsWell text inner) :
    RunsWell text (.loop least most mode body) := by
  intro I G Q s c next hheld hallow hc hI hnext
  -- Only what a greedy loop hands over is told of.
  have hgreedy {d : Cursor}
      (h : mode = .greedy → ∃ n, least ≤ n ∧ Repeats (Spans text body) n c.position d.position) :
      Spans text (.loop least most mode body) c.position d.position := by
    cases mode with
    | greedy => exact h rfl
    | frugal => trivial
    | possessive => trivial
  rw [Node.run]
  split
  · rename_i set hset
    apply runSet_ends hheld hc hI
    intro d hd hId hspan
    apply hnext d hd hId
    apply hgreedy
    intro hmode
    obtain ⟨n, hn, hrepeats⟩ := hspan hmode
    exact ⟨n, hn, hrepeats.mono fun _ _ => spans_of_set? hset⟩
  · have hfinal : ∀ d n, Inside text d → I d.marks → least ≤ n →
        Repeats (Spans text body) n c.position d.position → Ends text Q G (next d) :=
      fun d n hd hId hn hrepeats => hnext d hd hId (hgreedy fun _ => ⟨n, hn, hrepeats⟩)
    dsimp only
    rcases hallow with hallow | ⟨⟨rfl, rfl⟩, i, inner, rfl, hfree, hpairs⟩
    · have hround : ∀ c k, Inside text c → I c.marks →
          (∀ d, Inside text d → I d.marks → Spans text body c.position d.position →
            Ends text Q G (k d)) → Ends text Q G (body.run ⟨true, none⟩ c k) :=
        fun _ _ => hbody (held_in_loop hheld.weakens) hallow
      split
      · exact rounds_ends hheld (fun _ h => h) (.inr fun _ h => h) hround hfinal _ 0 none hc hI rfl
      · exact rounds_ends hheld (fun _ h => h) (.inr fun _ h => h) hround hfinal _ 0 none hc hI rfl
      · have hround' : ∀ d, Inside text d → I d.marks →
            Ends text (fun d => Inside text d ∧ I d.marks) G (body.run s.alone d done) :=
          fun d hd hId => hbody hheld.alone hallow hd hId fun e he hIe _ => ⟨he.note, hIe⟩
        have hheld' : Ends text (fun d => Inside text d ∧ I d.marks) G
            (holdRounds (fun d => body.run s.alone d done) least most c.position
              (enoughRounds least c) 0 none c.note) :=
          holdRounds_ends hheld hc.position_le hround' _ 0 none hc.note hI
        split
        · rename_i d hd
          rw [hd] at hheld'
          exact hnext d hheld'.1 hheld'.2 trivial
        · rename_i noted left hfailed
          rw [hfailed] at hheld'
          exact hheld'
    · refine rounds_ends (H := fun _ => True) hheld (fun _ _ => trivial) (.inl ⟨rfl, rfl⟩) ?_
        hfinal _ 0 none hc hI rfl
      intro d k hd hId hk
      apply group_in_loop_ends (hinner i inner rfl) hfree hd
      intro e he hmarks hspan
      apply hk e he _ hspan
      rw [hmarks]
      exact hpairs _ _ _ hd.position_le he.position_le hspan hId

theorem runsWell_again (i : Nat) (folding : Folding) : RunsWell text (.again i folding) := by
  intro I G Q s c next hheld _ hc hI hnext
  rw [Node.run]
  split
  · rename_i d hd
    obtain ⟨span, -, hstep⟩ := Option.bind_eq_some_iff.mp hd
    obtain ⟨hinside, hmarks⟩ := hc.stepOver hstep
    exact hnext d hinside (hmarks ▸ hI) trivial
  · exact hheld.failed hc hI

theorem runsWell_given (i : Nat) (ha : RunsWell text a) (hb : RunsWell text b) :
    RunsWell text (.given i a b) := by
  intro I G Q s c next hheld hallow hc hI hnext
  have hgo : ∀ d, Inside text d → I d.marks → Ends text Q G (next d) :=
    fun d hd hId => hnext d hd hId trivial
  change Ends text Q G
    (if (c.marks.span? i).isSome then a.run (if b = .empty then s else s.alone) c next
      else b.run s c next)
  split
  · split
    · exact ha hheld hallow.1 hc hI fun d hd hId _ => hgo d hd hId
    · exact ha hheld.alone hallow.1 hc hI fun d hd hId _ => hgo d hd hId
  · exact hb hheld hallow.2 hc hI fun d hd hId _ => hgo d hd hId

theorem RunsWell.done {I G : Marks → Prop} {s : Setting} {c : Cursor} (h : RunsWell text body)
    (hheld : Held s I G) (hallow : Allows text I body) (hc : Inside text c) (hI : I c.marks) :
    Ends text (fun d => Inside text d ∧ I d.marks) G (body.run s.alone c.note done) :=
  h hheld.alone hallow hc.note hI fun _ hd hId _ => ⟨hd.note, hId⟩

theorem runsWell_atomic (hbody : RunsWell text body) : RunsWell text (.atomic body) := by
  intro I G Q s c next hheld hallow hc hI hnext
  have hdone := hbody.done hheld hallow hc hI
  change Ends text Q G (match body.run s.alone c.note done with
    | .matched d => next d
    | .failed _ left => .failed c.position left)
  split
  · rename_i d hd
    rw [hd] at hdone
    exact hnext d hdone.1 hdone.2 trivial
  · rename_i noted left hfailed
    rw [hfailed] at hdone
    exact ⟨hc.position_le, hdone.2⟩

theorem look_ends {I G : Marks → Prop} {Q : Cursor → Prop} {s : Setting} {c : Cursor}
    {next : Continuation} {o : Pattern.Outcome} (positive : Bool) (hheld : Held s I G)
    (hc : Inside text c) (hI : I c.marks)
    (hnext : ∀ d, Inside text d → I d.marks → Ends text Q G (next d)) :
    Ends text (fun d => Inside text d ∧ I d.marks) G o →
    Ends text Q G
      (match o with
        | .matched d =>
            if positive then next { c with noted := d.noted, marks := d.marks }
            else .failed d.noted d.marks
        | .failed noted left =>
            if positive then .failed noted left
            else next { c with noted := noted, marks := s.restore c.marks left }) := by
  intro hlook
  cases o with
  | matched d =>
      dsimp only
      split
      · exact hnext _ (hc.remember hlook.1.noted _) hlook.2
      · exact hheld.failed hlook.1 hlook.2
  | failed noted left =>
      dsimp only
      split
      · exact hlook
      · exact hnext _ (hc.remember hlook.1 _) (hheld.restores _ _ hI hlook.2)

theorem runsWell_ahead (positive : Bool) (hbody : RunsWell text body) :
    RunsWell text (.ahead positive body) := by
  intro I G Q s c next hheld hallow hc hI hnext
  exact look_ends positive hheld hc hI (fun d hd hId => hnext d hd hId trivial)
    (hbody.done hheld hallow hc hI)

theorem runsWell_behind (positive : Bool) (width : Nat) (hbody : RunsWell text body) :
    RunsWell text (.behind positive width body) := by
  intro I G Q s c next hheld hallow hc hI hnext
  rw [Node.run]
  split
  · split
    · exact hheld.failed hc hI
    · exact hnext c hc hI trivial
  · rename_i d hback
    obtain ⟨hd, hmarks⟩ := hc.back hback
    exact look_ends positive hheld hc hI (fun d hd hId => hnext d hd hId trivial)
      (hbody.done hheld hallow hd (hmarks ▸ hI))

theorem runsWell (text : List Char) : (node : Node) → RunsWell text node
  | .empty => fun _ _ hc hI hnext => hnext _ hc hI rfl
  | .one set => runsWell_one set
  | .anchor anchor => runsWell_anchor anchor
  | .seq a b => runsWell_seq (runsWell text a) (runsWell text b)
  | .alt a b => runsWell_alt (runsWell text a) (runsWell text b)
  | .group i body => runsWell_group i (runsWell text body)
  | .scope body => fun hheld hallow hc hI hnext => runsWell text body hheld hallow hc hI hnext
  | .loop least most mode body =>
      runsWell_loop least most mode (runsWell text body) fun i inner h => by
        subst h
        exact runsWell text inner
  | .again i folding => runsWell_again i folding
  | .given i a b => runsWell_given i (runsWell text a) (runsWell text b)
  | .atomic body => runsWell_atomic (runsWell text body)
  | .ahead positive body => runsWell_ahead positive (runsWell text body)
  | .behind positive width body => runsWell_behind positive width (runsWell text body)

end Trees

end SymbolSearch.Proofs.MatchRuns
