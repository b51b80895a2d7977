import SymbolSearch.Proofs.AcceptedItems
import SymbolSearch.Proofs.ResumedSearch
import SymbolSearch.Proofs.TermColumns

namespace SymbolSearch.Proofs.OpenedNames

open AcceptedItems
open CommandLine
open DeskActions
open FoundSymbols
open Identifier
open PathResolution
open ProgramRuns
open ResumedSearch
open TermColumns

variable {cs name word : List Char} {position start k : Nat} {c : Char}

section Tokens

/-- The maximal identifiers of a text, each with the position where it starts: the first character
that can begin one, with all that can follow it. -/
def placedTokens (position : Nat) : List Char → List (Nat × List Char)
  | [] => []
  | c :: rest =>
      if isStart c then
        (position, c :: rest.takeWhile isRest) ::
          placedTokens (position + 1 + (rest.takeWhile isRest).length) (rest.dropWhile isRest)
      else placedTokens (position + 1) rest
termination_by cs => cs.length
decreasing_by
  · exact Nat.lt_succ_of_le (List.length_dropWhile_le _ _)
  · exact Nat.lt_succ_self _

theorem tokensFrom_of_ne_nil {current : List Char} (h : current ≠ []) (cs : List Char) :
    tokensFrom current cs =
      (current.reverse ++ cs.takeWhile isRest) :: tokensFrom [] (cs.dropWhile isRest) := by
  induction cs generalizing current with
  | nil => simp [tokensFrom, h]
  | cons c rest ih =>
      have hempty : current.isEmpty = false := by simpa using h
      rw [tokensFrom, hempty, if_neg (by decide), List.takeWhile_cons, List.dropWhile_cons]
      by_cases hc : isRest c = true
      · rw [if_pos hc, if_pos hc, if_pos hc, ih (List.cons_ne_nil c current), List.reverse_cons,
          List.append_assoc]
        rfl
      · have hstart : ¬isStart c = true := fun hs => hc (isRest_of_isStart hs)
        rw [if_neg hc, if_neg hc, if_neg hc, List.append_nil]
        conv_rhs => rw [tokensFrom, if_pos List.isEmpty_nil, if_neg hstart]

theorem map_placedTokens (position : Nat) (cs : List Char) :
    (placedTokens position cs).map Prod.snd = tokensFrom [] cs := by
  fun_induction placedTokens position cs with
  | case1 => rfl
  | case2 position c rest hc ih =>
      rw [tokensFrom, if_pos List.isEmpty_nil, if_pos hc,
        tokensFrom_of_ne_nil (List.cons_ne_nil c []), List.map_cons, ih]
      rfl
  | case3 position c rest hc ih =>
      rw [tokensFrom, if_pos List.isEmpty_nil, if_neg hc, ih]

theorem isForm_of_mem_placedTokens {token : Nat × List Char}
    (h : token ∈ placedTokens position cs) : isForm token.2 = true := by
  fun_induction placedTokens position cs with
  | case1 => cases h
  | case2 position c rest hc ih =>
      rcases List.mem_cons.mp h with rfl | h
      · rw [isForm, hc, List.all_takeWhile]
        rfl
      · exact ih h
  | case3 position c rest hc ih => exact ih h

theorem drop_of_length_takeWhile_le (h : (cs.takeWhile isRest).length < k) :
    (c :: cs).drop k = (cs.dropWhile isRest).drop (k - (1 + (cs.takeWhile isRest).length)) := by
  have hsplit : c :: cs = (c :: cs.takeWhile isRest) ++ cs.dropWhile isRest := by
    rw [List.cons_append, List.takeWhile_append_dropWhile]
  rw [hsplit, List.drop_append, List.drop_eq_nil_of_le h, List.nil_append, List.length_cons,
    Nat.add_comm]

theorem stands_of_mem_placedTokens {token : Nat × List Char}
    (h : token ∈ placedTokens position cs) :
    position ≤ token.1 ∧ token.2 <+: cs.drop (token.1 - position) := by
  fun_induction placedTokens position cs with
  | case1 => cases h
  | case2 position c rest hc ih =>
      rcases List.mem_cons.mp h with rfl | h
      · rw [Nat.sub_self, List.drop_zero]
        exact ⟨Nat.le_refl _, List.cons_prefix_cons.mpr ⟨rfl, List.takeWhile_prefix _⟩⟩
      · obtain ⟨hle, hstands⟩ := ih h
        refine ⟨by omega, ?_⟩
        rw [drop_of_length_takeWhile_le (by omega)]
        have hplace : token.1 - position - (1 + (rest.takeWhile isRest).length) =
            token.1 - (position + 1 + (rest.takeWhile isRest).length) := by omega
        rw [hplace]
        exact hstands
  | case3 position c rest hc ih =>
      obtain ⟨hle, hstands⟩ := ih h
      refine ⟨by omega, ?_⟩
      have hdrop :
          (c :: rest).drop (token.1 - position) = rest.drop (token.1 - (position + 1)) := by
        rw [show token.1 - position = token.1 - (position + 1) + 1 by omega, List.drop_succ_cons]
      rw [hdrop]
      exact hstands

theorem pairwise_placedTokens (position : Nat) (cs : List Char) :
    (placedTokens position cs).Pairwise fun a b => a.1 + a.2.length ≤ b.1 := by
  fun_induction placedTokens position cs with
  | case1 => exact List.Pairwise.nil
  | case2 position c rest hc ih =>
      refine List.Pairwise.cons ?_ ih
      intro token htoken
      have hle := (stands_of_mem_placedTokens htoken).1
      rw [List.length_cons]
      omega
  | case3 position c rest hc ih => exact ih

theorem prefix_of_prefix_append {tail : List Char} (hname : ∀ x ∈ name, isRest x = true)
    (h : name <+: word ++ tail.dropWhile isRest) : name <+: word := by
  obtain ⟨behind, hbehind⟩ := h
  rcases List.append_eq_append_iff.mp hbehind with ⟨excess, hexcess, -⟩ | ⟨excess, hexcess, hrest⟩
  · exact ⟨excess, hexcess.symm⟩
  · cases excess with
    | nil => exact ⟨[], by rw [hexcess, List.append_nil, List.append_nil]⟩
    | cons x excess =>
        have hhead := List.head?_dropWhile_not isRest tail
        rw [hrest, List.cons_append, List.head?_cons] at hhead
        have hx := hname x (by simp [hexcess])
        rw [hhead] at hx
        cases hx

/-- A name that stands in a text stands in a token of it. -/
theorem exists_token_of_stands (hname : isForm name = true) (h : name <+: cs.drop k)
    (position : Nat) : ∃ token ∈ placedTokens position cs,
      token.1 ≤ position + k ∧ name <+: token.2.drop (position + k - token.1) := by
  fun_induction placedTokens position cs generalizing k with
  | case1 =>
      rw [List.drop_nil] at h
      obtain rfl := List.prefix_nil.mp h
      cases hname
  | case2 position c rest hc ih =>
      by_cases hk : k ≤ (rest.takeWhile isRest).length
      · refine ⟨_, List.mem_cons_self, Nat.le_add_right _ _, ?_⟩
        have hsplit : (c :: rest).drop k =
            (c :: rest.takeWhile isRest).drop k ++ rest.dropWhile isRest := by
          have hle : k ≤ (c :: rest.takeWhile isRest).length := by
            rw [List.length_cons]
            omega
          rw [← List.drop_append_of_le_length hle, List.cons_append,
            List.takeWhile_append_dropWhile]
        rw [hsplit] at h
        rw [Nat.add_sub_cancel_left]
        exact prefix_of_prefix_append (List.all_eq_true.mp (all_isRest_of_isForm hname)) h
      · rw [drop_of_length_takeWhile_le (by omega)] at h
        obtain ⟨token, htoken, hle, hstands⟩ := ih h
        refine ⟨token, List.mem_cons_of_mem _ htoken, by omega, ?_⟩
        have hplace : position + 1 + (rest.takeWhile isRest).length +
            (k - (1 + (rest.takeWhile isRest).length)) = position + k := by omega
        rwa [hplace] at hstands
  | case3 position c rest hc ih =>
      cases k with
      | zero =>
          have hnonempty : name ≠ [] := by
            rintro rfl
            cases hname
          obtain ⟨first, more, rfl⟩ := List.exists_cons_of_ne_nil hnonempty
          obtain rfl : first = c := (List.cons_prefix_cons.mp h).1
          exact absurd (Bool.and_eq_true_iff.mp hname).1 hc
      | succ k =>
          obtain ⟨token, htoken, hle, hstands⟩ := ih h
          rw [Nat.add_right_comm, Nat.add_assoc] at hle hstands
          exact ⟨token, htoken, hle, hstands⟩

end Tokens

section Columns

/-- The first identifier of a line that is not a reserved word, among all identifiers: where it
starts, and what stands in front of it and behind it. -/
structure FirstName (line name : String) (earlier : List (Nat × List Char)) (start : Nat)
    (later : List (Nat × List Char)) : Prop where
  tokens : placedTokens 0 line.toList = earlier ++ (start, name.toList) :: later
  reserved : ∀ token ∈ earlier, String.ofList token.2 ∈ reservedWords
  free : name ∉ reservedWords

theorem exists_firstName {line name : String} (h : first? line = some name) :
    ∃ earlier start later, FirstName line name earlier start later := by
  have htokens :
      tokens line = (placedTokens 0 line.toList).map fun token => String.ofList token.2 := by
    rw [tokens, ← map_placedTokens 0, List.map_map]
    rfl
  rw [first?, htokens, List.find?_map] at h
  obtain ⟨⟨start, word⟩, hfound, rfl⟩ := Option.map_eq_some_iff.mp h
  obtain ⟨hfree, earlier, later, hsplit, hreserved⟩ := List.find?_eq_some_iff_append.mp hfound
  refine ⟨earlier, start, later, ?_, ?_, ?_⟩
  · rw [hsplit, String.toList_ofList]
  · intro token htoken
    simpa using hreserved token htoken
  · simpa using hfree

variable {line : String} {text : String} {earlier later : List (Nat × List Char)}

theorem infix_iff_exists_drop : name <:+: word ↔ ∃ i, name <+: word.drop i := by
  constructor
  · rintro ⟨before, after, rfl⟩
    refine ⟨before.length, ?_⟩
    rw [List.append_assoc, List.drop_left]
    exact List.prefix_append name after
  · rintro ⟨i, hstands⟩
    exact hstands.isInfix.trans (List.drop_suffix i word).isInfix

theorem stands_of_stands_in_token {token : Nat × List Char} {i : Nat}
    (htoken : token ∈ placedTokens 0 cs) (h : name <+: token.2.drop i) :
    name <+: cs.drop (token.1 + i) := by
  have hstands := (stands_of_mem_placedTokens htoken).2
  rw [Nat.sub_zero] at hstands
  have hdropped := hstands.drop i
  rw [List.drop_drop] at hdropped
  exact h.trans hdropped

theorem lt_length_of_stands {i : Nat} (hname : isForm name = true) (h : name <+: word.drop i) :
    i < word.length := by
  have hpositive := length_pos_of_isForm hname
  have hle := h.length_le
  rw [List.length_drop] at hle
  omega

theorem first_position_in_token (hname : isForm name = true) (hk : IsFirst name cs k) :
    ∃ before token after, placedTokens 0 cs = before ++ token :: after ∧
      (∀ other ∈ before, ¬name <:+: other.2) ∧ token.1 ≤ k ∧
      IsFirst name token.2 (k - token.1) := by
  obtain ⟨token, htoken, hle, hstands⟩ := exists_token_of_stands hname hk.stands 0
  rw [Nat.zero_add] at hle hstands
  obtain ⟨before, after, hsplit⟩ := List.append_of_mem htoken
  have hordered := pairwise_placedTokens 0 cs
  rw [hsplit, List.pairwise_append] at hordered
  refine ⟨before, token, after, hsplit, ?_, hle, ?_, hstands, ?_⟩
  · intro other hother hinfix
    obtain ⟨i, hi⟩ := infix_iff_exists_drop.mp hinfix
    have hbefore := hordered.2.2 other hother token List.mem_cons_self
    have hinside := lt_length_of_stands hname hi
    apply hk.least (other.1 + i) (by omega)
    apply stands_of_stands_in_token _ hi
    rw [hsplit]
    exact List.mem_append_left _ hother
  · exact (lt_length_of_stands hname hstands).le
  · intro i hi hsooner
    exact hk.least (token.1 + i) (by omega) (stands_of_stands_in_token htoken hsooner)

theorem isForm_of_firstName (h : FirstName line text earlier start later) :
    isForm text.toList = true := by
  have hmem : (start, text.toList) ∈ placedTokens 0 line.toList := by simp [h.tokens]
  exact isForm_of_mem_placedTokens hmem

theorem columnOf_eq {position : Nat} (hname : isForm text.toList = true)
    (h : Text.find? text.toList line.toList = some position) :
    Program.columnOf text line = position + 1 := by
  have hnonempty : ¬(text == "") = true := by
    rw [beq_iff_eq]
    rintro rfl
    cases hname
  rw [Program.columnOf, if_neg hnonempty, h]
  rfl

theorem columnOf_isFirst (h : FirstName line text earlier start later) :
    ∃ position, Program.columnOf text line = position + 1 ∧
      IsFirst text.toList line.toList position := by
  have hmem : (start, text.toList) ∈ placedTokens 0 line.toList := by simp [h.tokens]
  have hstands := (stands_of_mem_placedTokens hmem).2
  rw [Nat.sub_zero] at hstands
  obtain ⟨position, hfind⟩ :=
    exists_find? (infix_iff_exists_drop.mpr ⟨start, hstands⟩)
  exact ⟨position, columnOf_eq (isForm_of_firstName h) hfind, isFirst_of_find? hfind⟩

/-- The first word that holds a name is the one where the column points. -/
theorem columnOf_in_word (h : FirstName line text earlier start later)
    {before after : List (Nat × List Char)} {word : Nat × List Char}
    (hsplit : placedTokens 0 line.toList = before ++ word :: after)
    (hbefore : ∀ other ∈ before, ¬text.toList <:+: other.2) (hword : text.toList <:+: word.2) :
    ∃ offset, IsFirst text.toList word.2 offset ∧
      Program.columnOf text line = word.1 + offset + 1 := by
  obtain ⟨position, hcolumn, hfirst⟩ := columnOf_isFirst h
  obtain ⟨before', word', after', hsplit', hbefore', hle, hinside⟩ :=
    first_position_in_token (isForm_of_firstName h) hfirst
  have hword' : text.toList <:+: word'.2 := infix_iff_exists_drop.mpr ⟨_, hinside.stands⟩
  have hfind {before after : List (Nat × List Char)} {word : Nat × List Char}
      (hsplit : placedTokens 0 line.toList = before ++ word :: after)
      (hbefore : ∀ other ∈ before, ¬text.toList <:+: other.2) (hword : text.toList <:+: word.2) :
      (placedTokens 0 line.toList).find? (fun other => text.toList <:+: other.2) = some word := by
    refine List.find?_eq_some_iff_append.mpr ⟨decide_eq_true hword, before, after, hsplit, ?_⟩
    intro other hother
    simpa using hbefore other hother
  obtain rfl := Option.some.inj
    ((hfind hsplit hbefore hword).symm.trans (hfind hsplit' hbefore' hword'))
  refine ⟨_, hinside, ?_⟩
  omega

/-- Where a column points that is looked for by name: at the name itself, unless an earlier word of
the line holds the name as a part, and then into the first such word. -/
structure PointsByText (name : String) (earlier : List (Nat × List Char)) (start column : Nat) :
    Prop where
  itself (h : ∀ word ∈ earlier, ¬name.toList <:+: word.2) : column = start + 1
  inside {before between : List (Nat × List Char)} {word : Nat × List Char}
    (hsplit : earlier = before ++ word :: between)
    (hbefore : ∀ other ∈ before, ¬name.toList <:+: other.2) (hword : name.toList <:+: word.2) :
    column ≤ start ∧ ∃ offset, IsFirst name.toList word.2 offset ∧ column = word.1 + offset + 1

theorem columnOf_pointsByText (h : FirstName line text earlier start later) :
    PointsByText text earlier start (Program.columnOf text line) := by
  refine ⟨?_, ?_⟩
  · intro hearlier
    obtain ⟨offset, hoffset, hcolumn⟩ :=
      columnOf_in_word h h.tokens hearlier (List.infix_refl text.toList)
    have hpositive := length_pos_of_isForm (isForm_of_firstName h)
    have hlength := hoffset.stands.length_le
    rw [List.length_drop] at hlength
    rw [hcolumn]
    dsimp only at hlength ⊢
    omega
  · rintro before between word rfl hbefore hword
    have hsplit : placedTokens 0 line.toList =
        before ++ word :: (between ++ (start, text.toList) :: later) := by
      rw [h.tokens, List.append_assoc, List.cons_append]
    obtain ⟨offset, hoffset, hcolumn⟩ := columnOf_in_word h hsplit hbefore hword
    have hordered := pairwise_placedTokens 0 line.toList
    rw [h.tokens, List.pairwise_append] at hordered
    have hends := hordered.2.2 word (by simp) _ List.mem_cons_self
    have hinside := lt_length_of_stands (isForm_of_firstName h) hoffset.stands
    refine ⟨?_, offset, hoffset, hcolumn⟩
    dsimp only at hends
    omega

end Columns

section Opening

variable {words : List String} {t : Terminal} {config : Config} {path : Path} {file name : String}
  {symbol : Option String} {line : Int}

/-- A place in a file, as it is printed. -/
def placeText (path : Path) (line column : Int) : String :=
  path.text ++ ":" ++ Decimal.integerText line ++ ":" ++ Decimal.integerText column

theorem run_open (h : Ready config t)
    (hparse : Task.parse t.files words = .ok (.openFile file symbol line))
    (hsymbol : symbol.filter (· != "") = none) (hreadable : Readable (clientAt config t).desk)
    (hresolve : t.files.resolve file = .ok path)
    (hname : first? (t.files.lineOf file line) = some name) :
    ∃ t', CommandLine.run words t = (.done, t') ∧
      t'.output = t.output ++ (Text.withoutControlSequences
        (placeText ((Path.parse file).absolute t.files.working) line
          (Program.columnOf name (t.files.lineOf file line))) ++ "\n") := by
  have hline : (Program.give ((t.files.sourceLine file line).mapError Failure.path)).run.run t =
      (.ok (t.files.lineOf file line), t) := by
    rw [sourceLine_eq (null_not_mem_of_resolve hresolve)]
    rfl
  have hcap : config.maxEntries = .int 1000 := by
    obtain ⟨binary, timeout, workers, directory, level, rfl⟩ := exists_of_ofEnvironment h.settings
    rfl
  have hrecord := record_run_ok hreadable hcap path.text (Argument.symbol (.string name))
  have haccess :=
    perform_run (clientAt config t) (Client.recordAccess (.string file) (.string name)) t
  rw [recordAccess_run (c := clientAt config t) hresolve hrecord] at haccess
  simp only at haccess
  have hparsed := @resolve_eq_absolute _ t.files.working
    (null_not_mem_parse (null_not_mem_of_resolve hresolve))
  rw [run_of_parse hparse, Task.program, Program.openFile, run_get_bind, run_bind_ok hline, hsymbol,
    hname, run_bind_ok h.client_run, run_bind_ok h.needState_run, Option.none_or, Option.elim_some,
    run_bind_ok haccess, hparsed]
  exact ⟨_, rfl, rfl⟩

/-- Without a symbol, a file is opened at the first identifier of the line that is no reserved word.
The printed column is looked for by the text of that identifier: it is where the identifier itself
starts, unless an earlier, reserved word holds the same text as a part. -/
theorem open_points_by_text (hready : Ready config t)
    (hparse : Task.parse t.files words = .ok (.openFile file symbol line))
    (hsymbol : symbol.filter (· != "") = none) (hreadable : Readable (clientAt config t).desk)
    (hresolve : t.files.resolve file = .ok path)
    (hname : first? (t.files.lineOf file line) = some name) :
    ∃ (earlier : List (Nat × List Char)) (start : Nat) (later : List (Nat × List Char))
      (column : Nat) (t' : Terminal),
      FirstName (t.files.lineOf file line) name earlier start later ∧
        CommandLine.run words t = (.done, t') ∧
        t'.output = t.output ++ (Text.withoutControlSequences
          (placeText ((Path.parse file).absolute t.files.working) line column) ++ "\n") ∧
        PointsByText name earlier start column := by
  obtain ⟨earlier, start, later, hfirst⟩ := exists_firstName hname
  obtain ⟨t', hrun, houtput⟩ := run_open hready hparse hsymbol hreadable hresolve hname
  exact ⟨earlier, start, later, _, t', hfirst, hrun, houtput, columnOf_pointsByText hfirst⟩

/-- A terminal in a working directory with one file. -/
def openTerminal (text : String) : Terminal :=
  { sampleTerminal with
    files := ⟨[("/w/a.ts", Utf8Text.encode text)], [], [], "/w", "/home/a", []⟩ }

theorem exists_ready_open (text : String) : ∃ config, Ready config (openTerminal text) := by
  obtain ⟨config, hready⟩ := exists_ready_sample
  exact ⟨config, hready.settings, hready.valid, hready.state⟩

theorem readable_open (text : String) (h : Ready config (openTerminal text)) :
    Readable (clientAt config (openTerminal text)).desk := by
  have hload : Tracker.fresh.load config (openTerminal text).store = .ok (⟨[], true⟩, []) := by
    obtain ⟨binary, timeout, workers, directory, level, rfl⟩ := exists_of_ofEnvironment h.settings
    rfl
  exact ⟨_, hload⟩

theorem parse_open (text : String) : Task.parse (openTerminal text).files ["open", "a.ts"] =
    .ok (.openFile "a.ts" none 1) := by
  have hkey : (openTerminal text).files.key "a.ts" = "/w/a.ts" := by
    change ((Path.parse "a.ts").absolute "/w").text = "/w/a.ts"
    decide +kernel
  have hfile : ValueForm.file.admits (openTerminal text).files "a.ts" = .ok true := by
    change Except.ok ((openTerminal text).files.isFile "a.ts") = Except.ok true
    rw [FileTree.isFile, hkey]
    rfl
  refine parse_of_read ⟨[], ["a.ts"]⟩ (by decide) rfl ?_ rfl
  have hwords (u : Usage) : u.readWords ["a.ts"] ⟨[], []⟩ = some ⟨[], ["a.ts"]⟩ := by
    have hoption : Usage.isOption "a.ts" = false := by decide +kernel
    simp [Usage.readWords, hoption]
  rw [Usage.read, hwords]
  simp only [Usage.demand, Usage.checkArguments, hfile]
  rfl

theorem resolve_open (text : String) :
    (openTerminal text).files.resolve "a.ts" = .ok ⟨"/", ["w", "a.ts"]⟩ := by
  change (openTerminal "").files.resolve "a.ts" = .ok ⟨"/", ["w", "a.ts"]⟩
  decide +kernel

theorem absolute_open : (Path.parse "a.ts").absolute "/w" = ⟨"/", ["w", "a.ts"]⟩ := by
  decide +kernel

/-- No reserved word holds this name. -/
theorem open_points_by_text_sample :
    ∃ t', CommandLine.run ["open", "a.ts"] (openTerminal "export class Foo \x7b\n") = (.done, t') ∧
      t'.output = "/w/a.ts:1:14\n" := by
  obtain ⟨config, hready⟩ := exists_ready_open "export class Foo \x7b\n"
  have hline : (openTerminal "export class Foo \x7b\n").files.lineOf "a.ts" 1 =
      "export class Foo \x7b" := by
    decide +kernel
  have hname : first? "export class Foo \x7b" = some "Foo" := by decide +kernel
  obtain ⟨earlier, start, later, column, t', hfirst, hrun, houtput, hpoints⟩ :=
    open_points_by_text hready (parse_open _) rfl (readable_open _ hready) (resolve_open _)
      (hline ▸ hname)
  have hearlier : ∀ word ∈ earlier, ¬"Foo".toList <:+: word.2 := by
    have hnone : ∀ word ∈ reservedWords, ¬"Foo".toList <:+: word.toList := by decide
    intro word hword
    simpa using hnone _ (hfirst.reserved word hword)
  have hstart : start = 13 := by
    have hmem : (start, "Foo".toList) ∈ placedTokens 0 "export class Foo \x7b".toList := by
      rw [← hline, hfirst.tokens]
      simp
    have hstands := (stands_of_mem_placedTokens hmem).2
    have honly : ∀ i < 18, "Foo".toList <+: "export class Foo \x7b".toList.drop i → i = 13 := by
      decide
    have hform : isForm "Foo".toList = true := by decide
    exact honly start (lt_length_of_stands hform hstands) hstands
  refine ⟨t', hrun, ?_⟩
  rw [houtput, hpoints.itself hearlier, hstart]
  change _ ++ (Text.withoutControlSequences
    (placeText ((Path.parse "a.ts").absolute "/w") _ _) ++ _) = _
  rw [absolute_open]
  decide +kernel

/-- The name `a` stands at the seventh column, but also within the reserved word before it. -/
theorem keyword_holds_name :
    (openTerminal "class a\n").files.lineOf "a.ts" 1 = "class a" ∧
      FirstName "class a" "a" [(0, "class".toList)] 6 [] ∧
      ∃ t', CommandLine.run ["open", "a.ts"] (openTerminal "class a\n") = (.done, t') ∧
        t'.output = "/w/a.ts:1:3\n" := by
  have hline : (openTerminal "class a\n").files.lineOf "a.ts" 1 = "class a" := by decide +kernel
  have hname : first? "class a" = some "a" := by decide +kernel
  refine ⟨hline, ⟨?_, by decide, by decide⟩, ?_⟩
  · simp [placedTokens, isStart, isRest, List.takeWhile, List.dropWhile]
  · obtain ⟨config, hready⟩ := exists_ready_open "class a\n"
    obtain ⟨t', hrun, houtput⟩ :=
      run_open hready (parse_open _) rfl (readable_open _ hready) (resolve_open _) (hline ▸ hname)
    refine ⟨t', hrun, ?_⟩
    rw [houtput, hline]
    change _ ++ (Text.withoutControlSequences
      (placeText ((Path.parse "a.ts").absolute "/w") _ _) ++ _) = _
    rw [absolute_open]
    decide +kernel

end Opening

end SymbolSearch.Proofs.OpenedNames
