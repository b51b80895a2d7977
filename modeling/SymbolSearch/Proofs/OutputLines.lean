import SymbolSearch.Ripgrep

namespace SymbolSearch.Proofs.OutputLines

open Text

/-- The byte that ends a line of the search tool's output. -/
def lineFeed : UInt8 := 10

theorem low_of_mem_start (b : Nat) : ∀ p ∈ (Utf8.start b).2, 0x80 ≤ p.low := by
  intro p hp
  unfold Utf8.start at hp
  repeat' split at hp
  all_goals simp at hp
  all_goals
    subst hp
    simp

/-- A line feed never belongs to a longer sequence: it breaks one that has begun, and what follows
it is read anew. -/
theorem decodeFrom_append_lineFeed (xs ys : List UInt8) (pending : Option Utf8.Pending)
    (hpending : ∀ p ∈ pending, 0x80 ≤ p.low) :
    Utf8.decodeFrom pending (xs ++ lineFeed :: ys) =
      Utf8.decodeFrom pending xs ++ '\n' :: Utf8.decodeFrom none ys := by
  induction xs generalizing pending with
  | nil =>
      cases pending with
      | none => rfl
      | some p =>
          have hlow : ¬p.low ≤ lineFeed.toNat := by
            have := hpending p rfl
            have : lineFeed.toNat = 10 := rfl
            omega
          simp only [List.nil_append, Utf8.decodeFrom, hlow, decide_false, Bool.false_and,
            Bool.false_eq_true, if_false]
          rfl
  | cons b xs ih =>
      cases pending with
      | none =>
          simp only [List.cons_append, Utf8.decodeFrom]
          rw [ih _ (low_of_mem_start b.toNat), List.append_assoc]
      | some p =>
          simp only [List.cons_append, Utf8.decodeFrom]
          split
          · split
            · rw [ih none (by simp), List.cons_append]
            · exact ih _ (by simp)
          · rw [ih _ (low_of_mem_start b.toNat), List.cons_append, List.append_assoc]

theorem decode_append_lineFeed (xs ys : List UInt8) :
    Utf8.decode (xs ++ lineFeed :: ys) = Utf8.decode xs ++ '\n' :: Utf8.decode ys :=
  decodeFrom_append_lineFeed xs ys none (by simp)

/-- The lines of a text that hold anything; the first argument begins the first line. -/
def filledFrom (current cs : List Char) : List (List Char) :=
  (linesFrom isLineBoundary current cs).filter fun line => !line.isEmpty

/-- What a carriage return has behind it decides whether the two end one line. -/
def IsPair (c : Char) (rest : List Char) : Prop :=
  c = '\r' ∧ rest.head? = some '\n'

theorem linesFrom_cons {c : Char} {rest : List Char} (h : ¬IsPair c rest)
    (isBreak : Char → Bool) (current : List Char) :
    linesFrom isBreak current (c :: rest) =
      if isBreak c then current.reverse :: linesFrom isBreak [] rest
      else linesFrom isBreak (c :: current) rest := by
  rw [linesFrom]
  rintro rest' rfl rfl
  exact h ⟨rfl, rfl⟩

theorem filter_cons_reverse (current : List Char) (rest : List (List Char)) :
    ((current.reverse :: rest).filter fun line => !line.isEmpty) =
      filledFrom current [] ++ rest.filter fun line => !line.isEmpty := by
  cases current with
  | nil => simp [filledFrom, linesFrom]
  | cons c cs => simp [filledFrom, linesFrom]

theorem filledFrom_break {c : Char} {rest : List Char} (hbreak : isLineBoundary c = true)
    (h : ¬IsPair c rest) (current : List Char) :
    filledFrom current (c :: rest) = filledFrom current [] ++ filledFrom [] rest := by
  rw [filledFrom, linesFrom_cons h, if_pos hbreak, filter_cons_reverse]
  rfl

theorem filledFrom_pair (current rest : List Char) :
    filledFrom current ('\r' :: '\n' :: rest) = filledFrom current [] ++ filledFrom [] rest := by
  rw [filledFrom, linesFrom, filter_cons_reverse]
  rfl

theorem filledFrom_append_lineFeed (us vs current : List Char) :
    filledFrom current (us ++ '\n' :: vs) = filledFrom current us ++ filledFrom [] vs := by
  have hlineFeed (current : List Char) :
      filledFrom current ('\n' :: vs) = filledFrom current [] ++ filledFrom [] vs :=
    filledFrom_break (by decide) (by simp [IsPair]) current
  fun_induction linesFrom isLineBoundary current us with
  | case1 current hempty => exact hlineFeed current
  | case2 current hempty => exact hlineFeed current
  | case3 current rest ih =>
      rw [List.cons_append, List.cons_append, filledFrom_pair, filledFrom_pair, ih,
        List.append_assoc]
  | case4 current c rest hpair hbreak ih =>
      have hsplit : ¬IsPair c rest := by
        rintro ⟨rfl, hhead⟩
        obtain ⟨rest', rfl⟩ := List.head?_eq_some_iff.mp hhead
        exact hpair rest' rfl rfl
      rw [filledFrom_break hbreak hsplit, List.append_assoc, ← ih, List.cons_append]
      cases rest with
      | nil =>
          -- A carriage return at the very end joins the line feed that comes behind it.
          by_cases hc : c = '\r'
          · subst hc
            rw [List.nil_append, filledFrom_pair, hlineFeed]
            rfl
          · exact filledFrom_break hbreak (fun h => hc h.1) current
      | cons d rest =>
          have hsplit' : ¬IsPair c (d :: (rest ++ '\n' :: vs)) := fun h => hsplit ⟨h.1, h.2⟩
          exact filledFrom_break hbreak hsplit' current
  | case5 current c rest hpair hbreak ih =>
      have hc : c ≠ '\r' := by
        rintro rfl
        exact hbreak (by decide)
      have hstep (tail : List Char) :
          filledFrom current (c :: tail) = filledFrom (c :: current) tail := by
        rw [filledFrom, linesFrom_cons (fun h => hc h.1), if_neg hbreak, filledFrom]
      rw [List.cons_append, hstep, hstep, ih]

theorem unbroken_of_mem_linesFrom {isBreak : Char → Bool} {current cs : List Char}
    (hcurrent : ∀ c ∈ current, isBreak c = false) :
    ∀ line ∈ linesFrom isBreak current cs, ∀ c ∈ line, isBreak c = false := by
  have hreverse {current : List Char} (h : ∀ c ∈ current, isBreak c = false) :
      ∀ c ∈ current.reverse, isBreak c = false := by
    intro c hc
    exact h c (List.mem_reverse.mp hc)
  fun_induction linesFrom isBreak current cs with
  | case1 current hempty => simp
  | case2 current hempty =>
      intro line hline
      obtain rfl := List.mem_singleton.mp hline
      exact hreverse hcurrent
  | case3 current rest ih =>
      intro line hline
      rcases List.mem_cons.mp hline with rfl | hline
      · exact hreverse hcurrent
      · exact ih (by simp) line hline
  | case4 current c rest hpair hbreak ih =>
      intro line hline
      rcases List.mem_cons.mp hline with rfl | hline
      · exact hreverse hcurrent
      · exact ih (by simp) line hline
  | case5 current c rest hpair hbreak ih =>
      apply ih
      intro x hx
      rcases List.mem_cons.mp hx with rfl | hx
      · exact Bool.eq_false_iff.mpr hbreak
      · exact hcurrent x hx

theorem lineFeed_not_mem_lines {line cs : List Char} (h : line ∈ lines cs) : '\n' ∉ line := by
  intro hmem
  have hunbroken : ∀ c ∈ line, isLineBoundary c = false :=
    unbroken_of_mem_linesFrom (by simp) line h
  exact absurd (hunbroken '\n' hmem) (by decide)

/-- The lines of an output that hold anything. -/
def filledLines (output : List UInt8) : List (List Char) :=
  filledFrom [] (Utf8.decode output)

theorem filledLines_append_lineFeed (xs ys : List UInt8) :
    filledLines (xs ++ lineFeed :: ys) = filledLines xs ++ filledLines ys := by
  rw [filledLines, decode_append_lineFeed, filledFrom_append_lineFeed, filledLines, filledLines]

theorem filledLines_intercalate (parts : List (List UInt8)) :
    filledLines ([lineFeed].intercalate parts) = parts.flatMap filledLines := by
  induction parts with
  | nil => rfl
  | cons part rest ih =>
      cases rest with
      | nil => simp
      | cons next rest =>
          rw [List.intercalate_cons_cons, List.append_assoc, List.singleton_append,
            filledLines_append_lineFeed, ih]
          rfl

theorem intercalate_concat {parts : List (List UInt8)} (h : parts ≠ []) :
    [lineFeed].intercalate parts ++ [lineFeed] = parts.flatMap (· ++ [lineFeed]) := by
  induction parts with
  | nil => exact absurd rfl h
  | cons part rest ih =>
      cases rest with
      | nil => simp
      | cons next rest =>
          have htail := ih (by simp)
          rw [List.intercalate_cons_cons, List.append_assoc, htail]
          rfl

/-- Two outputs are reorderings of each other when the parts between their line feeds are the same
up to order. -/
def Reordered (output output' : List UInt8) : Prop :=
  (output.splitOn lineFeed).Perm (output'.splitOn lineFeed)

theorem Reordered.perm_filledLines {output output' : List UInt8} (h : Reordered output output') :
    (filledLines output).Perm (filledLines output') := by
  have hparts (xs : List UInt8) :
      filledLines xs = (xs.splitOn lineFeed).flatMap filledLines := by
    rw [← filledLines_intercalate, List.intercalate_splitOn]
  rw [hparts output, hparts output']
  exact h.flatMap_right _

theorem Reordered.length_eq {output output' : List UInt8} (h : Reordered output output') :
    output.length = output'.length := by
  have hparts (xs : List UInt8) :
      xs ++ [lineFeed] = (xs.splitOn lineFeed).flatMap (· ++ [lineFeed]) := by
    rw [← intercalate_concat (List.splitOn_ne_nil _ _), List.intercalate_splitOn]
  have hlength : (output ++ [lineFeed]).length = (output' ++ [lineFeed]).length := by
    rw [hparts output, hparts output']
    exact (h.flatMap_right _).length_eq
  simpa using hlength

theorem search_finished (rg : Ripgrep) {tool : SearchTool} {call : Invocation}
    {output errors : List UInt8} {status : Int} (h : tool call = .finished output errors status) :
    rg.search tool call =
      match rg.isTooLong output with
      | .error error => .error error
      | .ok true => .ok []
      | .ok false => .ok ((filledLines output).map String.ofList) := by
  simp only [Ripgrep.search, Ripgrep.run, h, Ripgrep.interpret]
  cases rg.isTooLong output with
  | error error => rfl
  | ok tooLong =>
      cases tooLong with
      | true => rfl
      | false =>
          by_cases hregular : (status == 0 || status == 1) = true
          · simp only [Ripgrep.reportOf, hregular, if_true]
            rfl
          · by_cases hnil : Text.lines (Utf8.decode output) = []
            · have hfilled : filledLines output = [] := by
                rw [filledLines, filledFrom]
                exact congrArg (List.filter _) hnil
              simp only [Ripgrep.reportOf, hregular, hnil, hfilled]
              rfl
            · have hlines : (Text.lines (Utf8.decode output)).isEmpty = false := by
                simpa using hnil
              simp only [Ripgrep.reportOf, hregular, hlines]
              rfl

/-- Two ends of a call that differ at most in the order of the output's lines, and in what the tool
has to complain of. -/
inductive SameUpToOrder : Outcome → Outcome → Prop
  | refl (outcome : Outcome) : SameUpToOrder outcome outcome
  | finished {output output' : List UInt8} (errors errors' : List UInt8) (status : Int)
      (h : Reordered output output') :
      SameUpToOrder (.finished output errors status) (.finished output' errors' status)

theorem search_perm (rg : Ripgrep) {tool tool' : SearchTool} {call : Invocation}
    (h : SameUpToOrder (tool call) (tool' call)) :
    (∃ lines lines', rg.search tool call = .ok lines ∧ rg.search tool' call = .ok lines' ∧
        lines.Perm lines') ∨
      ∃ error, rg.search tool call = .error error ∧ rg.search tool' call = .error error := by
  generalize hout : tool call = out at h
  generalize hout' : tool' call = out' at h
  cases h with
  | refl =>
      have hsame : rg.search tool call = rg.search tool' call := by
        simp only [Ripgrep.search, Ripgrep.run, hout, hout']
      cases hsearch : rg.search tool call with
      | error error => exact .inr ⟨error, rfl, hsame ▸ hsearch⟩
      | ok lines => exact .inl ⟨lines, lines, rfl, hsame ▸ hsearch, .refl _⟩
  | finished errors errors' status hlines =>
      have hlong : rg.isTooLong _ = rg.isTooLong _ :=
        congrArg (fun n : Nat => Operand.greater (.ofJson (.int n)) (.ofJson rg.maxOutput))
          hlines.length_eq
      rw [search_finished rg hout, search_finished rg hout', hlong]
      cases rg.isTooLong _ with
      | error error => exact .inr ⟨error, rfl, rfl⟩
      | ok tooLong =>
          cases tooLong with
          | true => exact .inl ⟨[], [], rfl, rfl, .refl _⟩
          | false => exact .inl ⟨_, _, rfl, rfl, hlines.perm_filledLines.map _⟩

end SymbolSearch.Proofs.OutputLines
