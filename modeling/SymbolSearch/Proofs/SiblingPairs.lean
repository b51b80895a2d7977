import SymbolSearch.Proofs.PathResolution
import SymbolSearch.Proofs.Traversal
import SymbolSearch.Sibling

namespace SymbolSearch.Proofs.SiblingPairs

open PathResolution
open Sibling

variable {p c : Path} {name stem ending : String} {front tail mark cs : List Char} {ch sep : Char}

section Names

theorem takeWhile_reverse (front : List Char) (h : '.' ∉ tail) :
    (front ++ tail).reverse.takeWhile (· != '.') =
      tail.reverse ++ front.reverse.takeWhile (· != '.') := by
  rw [List.reverse_append]
  apply List.takeWhile_append_of_pos
  intro c hc
  rw [bne_iff_ne]
  rintro rfl
  exact h (List.mem_reverse.mp hc)

theorem splitName_of_dot (hfront : front ≠ []) (htail : tail ≠ []) (hdot : '.' ∉ tail) :
    Path.splitName (String.ofList (front ++ '.' :: tail)) =
      (String.ofList front, String.ofList ('.' :: tail)) := by
  have hbehind : (front ++ '.' :: tail).reverse.takeWhile (· != '.') = tail.reverse := by
    rw [List.append_cons, takeWhile_reverse _ hdot, List.reverse_concat]
    simp
  have hlength : (front ++ '.' :: tail).length - tail.reverse.length - 1 = front.length := by
    simp only [List.length_append, List.length_cons, List.length_reverse]
    omega
  have hinside : ¬tail.length = front.length + (tail.length + 1) := by omega
  rw [Path.splitName]
  simp only [String.toList_ofList, hbehind, hlength, List.take_left, List.reverse_reverse]
  apply if_neg
  simp [hinside, hfront, htail]

theorem splitName_of_plain (h : '.' ∉ cs) :
    Path.splitName (String.ofList (ch :: cs)) = (String.ofList (ch :: cs), "") := by
  have hbehind : (ch :: cs).reverse.takeWhile (· != '.') =
      cs.reverse ++ [ch].takeWhile (· != '.') := takeWhile_reverse [ch] h
  have hlength : cs.length ≤ ((ch :: cs).reverse.takeWhile (· != '.')).length := by
    rw [hbehind, List.length_append, List.length_reverse]
    omega
  rw [Path.splitName]
  apply if_pos
  simp only [String.toList_ofList, Bool.or_eq_true, List.isEmpty_iff, List.take_eq_nil_iff,
    List.length_cons]
  right
  left
  omega

theorem splitName_of_trailing (front : List Char) :
    Path.splitName (String.ofList (front ++ ['.'])) = (String.ofList (front ++ ['.']), "") := by
  rw [Path.splitName]
  apply if_pos
  simp

/-- Where the last dot of a name stands: inside it, at its end, or nowhere behind its first
character. -/
inductive LastDot (name : String) : Prop
  | inside (front tail : List Char) (hname : name = String.ofList (front ++ '.' :: tail))
      (hfront : front ≠ []) (htail : tail ≠ []) (hdot : '.' ∉ tail)
  | trailing (front : List Char) (hname : name = String.ofList (front ++ ['.']))
      (hfront : front ≠ [])
  | absent (ch : Char) (cs : List Char) (hname : name = String.ofList (ch :: cs)) (hdot : '.' ∉ cs)

theorem lastDot (hname : name ≠ "") : LastDot name := by
  obtain ⟨ch, cs, hcs⟩ := List.exists_cons_of_ne_nil (mt String.toList_eq_nil_iff.mp hname)
  have hchars : name = String.ofList (ch :: cs) := by rw [← hcs, String.ofList_toList]
  by_cases hdot : '.' ∈ cs
  · obtain ⟨behind, before, hsplit, hbehind⟩ :=
      List.eq_append_cons_of_mem (List.mem_reverse.mpr hdot)
    have hcs' : cs = before.reverse ++ '.' :: behind.reverse := by
      rw [← List.reverse_reverse cs, hsplit]
      simp
    rw [hcs', ← List.cons_append] at hchars
    by_cases hlast : behind = []
    · rw [hlast, List.reverse_nil] at hchars
      exact .trailing _ hchars (List.cons_ne_nil _ _)
    · exact .inside _ _ hchars (List.cons_ne_nil _ _) (by simpa using hlast)
        (by simpa using hbehind)
  · exact .absent ch cs hchars hdot

/-- The stem and the suffix make up the name. -/
theorem stem_append_suffix (p : Path) (hname : p.name ≠ "") : p.stem ++ p.suffix = p.name := by
  rw [Path.stem, Path.suffix]
  cases lastDot hname with
  | inside front tail hchars hfront htail hdot =>
      rw [hchars, splitName_of_dot hfront htail hdot, ← String.ofList_append]
  | trailing front hchars _ => rw [hchars, splitName_of_trailing, String.append_empty]
  | absent ch cs hchars hdot => rw [hchars, splitName_of_plain hdot, String.append_empty]

end Names

section Endings

theorem endings_eq : endings = ["-test", "-spec", ".test", ".spec", "_test", "_spec"] := by
  decide

theorem endings_alike : ∀ ending ∈ endings, ending.toList.length = 5 ∧
    '.' ∉ ending.toList.tail ∧ '/' ∉ ending.toList ∧ '\n' ∉ ending.toList := by
  decide

theorem find?_ending (front : List Char) (h : ending ∈ endings) :
    endings.find? (fun e => e.toList.isSuffixOf (front ++ ending.toList)) = some ending := by
  have hfound : (endings.find? fun e => e.toList.isSuffixOf (front ++ ending.toList)).isSome := by
    rw [List.find?_isSome]
    exact ⟨ending, h, List.isSuffixOf_iff_suffix.mpr (List.suffix_append _ _)⟩
  obtain ⟨e, he⟩ := Option.isSome_iff_exists.mp hfound
  have hmem := List.mem_of_find?_eq_some he
  have hends : e.toList.isSuffixOf (front ++ ending.toList) = true :=
    List.find?_some (p := fun e : String => e.toList.isSuffixOf (front ++ ending.toList)) he
  have hsuffix : e.toList <:+ front ++ ending.toList := List.isSuffixOf_iff_suffix.mp hends
  obtain ⟨rest, hrest⟩ := hsuffix
  have hlength : e.toList.length = ending.toList.length := by
    rw [(endings_alike e hmem).1, (endings_alike ending h).1]
  obtain ⟨-, hsame⟩ := List.append_inj' hrest hlength
  rw [he, String.toList_inj.mp hsame]

theorem getLast?_append_ending (front : List Char) (h : ending ∈ endings) :
    (front ++ ending.toList).getLast? ≠ some '\n' := by
  obtain ⟨hlength, -, -, hfeed⟩ := endings_alike ending h
  have hne : ending.toList ≠ [] := by
    intro hnil
    rw [hnil] at hlength
    cases hlength
  rw [List.getLast?_append_of_ne_nil _ hne]
  intro hlast
  exact hfeed (List.mem_of_getLast? hlast)

/-- The stem of a test is that of its source with an ending, which a line feed may follow. -/
theorem tested?_eq_some_iff {source : String} : tested? stem = some source ↔
    ∃ front, ∃ ending ∈ endings, ∃ feed, (feed = [] ∨ feed = ['\n']) ∧
      stem.toList = front ++ ending.toList ++ feed ∧ source.toList = front ++ feed := by
  have hsplit : ∃ body feed, stem.toList = body ++ feed ∧
      (feed = [] ∧ body.getLast? ≠ some '\n' ∨ feed = ['\n']) ∧
      tested? stem = (endings.find? fun ending => ending.toList.isSuffixOf body).map
        fun ending => String.ofList (body.take (body.length - ending.length) ++ feed) := by
    rw [tested?]
    by_cases hlast : stem.toList.getLast? = some '\n'
    · obtain ⟨body, hbody⟩ := List.getLast?_eq_some_iff.mp hlast
      refine ⟨body, ['\n'], hbody, .inr rfl, ?_⟩
      simp only [hbody, List.getLast?_concat, List.dropLast_concat, beq_self_eq_true, if_true]
    · refine ⟨stem.toList, [], (List.append_nil _).symm, .inl ⟨rfl, hlast⟩, ?_⟩
      simp only [beq_eq_false_iff_ne.mpr hlast, Bool.false_eq_true, if_false]
  obtain ⟨body, feed, hstem, hfeed, htested⟩ := hsplit
  rw [htested, Option.map_eq_some_iff]
  constructor
  · rintro ⟨ending, hfound, rfl⟩
    have hends : ending.toList.isSuffixOf body = true :=
      List.find?_some (p := fun ending : String => ending.toList.isSuffixOf body) hfound
    obtain ⟨front, rfl⟩ := List.isSuffixOf_iff_suffix.mp hends
    refine ⟨front, ending, List.mem_of_find?_eq_some hfound, feed, hfeed.imp_left And.left, hstem,
      ?_⟩
    rw [String.toList_ofList, List.length_append, ← String.length_toList, Nat.add_sub_cancel,
      List.take_left]
  · rintro ⟨front, ending, hending, feed', hfeed', hstem', hsource⟩
    have hbody : body = front ++ ending.toList ∧ feed = feed' := by
      rw [hstem] at hstem'
      rcases hfeed with ⟨rfl, hbody⟩ | rfl <;> rcases hfeed' with rfl | rfl
      · exact ⟨by simpa using hstem', rfl⟩
      · rw [List.append_nil] at hstem'
        exact absurd (by rw [hstem', List.getLast?_concat]) hbody
      · rw [List.append_nil] at hstem'
        exact absurd (by rw [← hstem', List.getLast?_concat]) (getLast?_append_ending front hending)
      · exact ⟨List.append_cancel_right hstem', rfl⟩
    obtain ⟨rfl, rfl⟩ := hbody
    refine ⟨ending, find?_ending front hending, ?_⟩
    rw [List.length_append, ← String.length_toList, Nat.add_sub_cancel, List.take_left, ← hsource,
      String.ofList_toList]

theorem tested?_append (front : List Char) (h : ending ∈ endings) :
    tested? (String.ofList (front ++ ending.toList)) = some (String.ofList front) :=
  tested?_eq_some_iff.mpr ⟨front, ending, h, [], .inl rfl, by simp⟩

theorem tested?_eq_none_iff : tested? stem = none ↔ ∀ ending ∈ endings,
    ¬ending.toList <:+ stem.toList ∧ ¬ending.toList ++ ['\n'] <:+ stem.toList := by
  constructor
  · intro hnone ending hending
    have hsome {front feed : List Char} (hfeed : feed = [] ∨ feed = ['\n'])
        (hstem : stem.toList = front ++ ending.toList ++ feed) : False := by
      have htested := tested?_eq_some_iff.mpr
        ⟨front, ending, hending, feed, hfeed, hstem, String.toList_ofList⟩
      rw [hnone] at htested
      cases htested
    constructor
    · rintro ⟨front, hfront⟩
      exact hsome (.inl rfl) (by rw [List.append_nil, hfront])
    · rintro ⟨front, hfront⟩
      exact hsome (.inr rfl) (by rw [List.append_assoc, hfront])
  · intro hends
    rw [Option.eq_none_iff_forall_ne_some]
    intro source hsource
    obtain ⟨front, ending, hending, feed, rfl | rfl, hstem, -⟩ := tested?_eq_some_iff.mp hsource
    · exact (hends ending hending).1 ⟨front, by rw [hstem, List.append_nil]⟩
    · exact (hends ending hending).2 ⟨front, by rw [hstem, List.append_assoc]⟩

end Endings

section Candidates

theorem withName_ok (hname : p.name ≠ "") (h : IsComponent name) :
    p.withName name = .ok ⟨p.root, p.parts.dropLast ++ [name]⟩ := by
  have hcomponents : Path.components name.toList = [name] := by
    simpa using @components_intercalate [name] (by simpa using h)
  rw [Path.withName, if_neg (by simpa using hname), hcomponents, if_neg (by simp)]

/-- The test of a source file with one of the endings. -/
def testOf (p : Path) (ending : String) : Path :=
  ⟨p.root, p.parts.dropLast ++ [p.stem ++ ending ++ p.suffix]⟩

theorem name_testOf (p : Path) (ending : String) :
    (testOf p ending).name = p.stem ++ ending ++ p.suffix := by
  rw [testOf, Path.name, List.getLastD_concat]

theorem isComponent_testOf (hname : p.name ≠ "") (h : IsComponent p.name)
    (hending : ending ∈ endings) :
    IsComponent (p.stem ++ ending ++ p.suffix) := by
  obtain ⟨hlength, -, hslash, -⟩ := endings_alike ending hending
  have hlong : 5 ≤ (p.stem ++ ending ++ p.suffix).length := by
    rw [String.length_append, String.length_append, ← String.length_toList (s := ending), hlength]
    omega
  have hparts := stem_append_suffix p hname
  refine ⟨?_, ?_, ?_⟩
  · intro hempty
    rw [hempty] at hlong
    exact absurd hlong (by decide)
  · intro hdot
    rw [hdot] at hlong
    exact absurd hlong (by decide)
  · have hclear := h.slash
    rw [← hparts, String.toList_append, List.mem_append, not_or] at hclear
    simp [hclear.1, hclear.2, hslash]

theorem candidates_of_source (hname : p.name ≠ "") (h : IsComponent p.name)
    (hstem : tested? p.stem = none) : candidates p = .ok (endings.map (testOf p)) := by
  have hnamed : ∀ ending ∈ endings,
      p.withName (p.stem ++ ending ++ p.suffix) = .ok (testOf p ending) :=
    fun ending hending => withName_ok hname (isComponent_testOf hname h hending)
  unfold candidates
  simp only [hstem]
  exact Traversal.mapM_ok hnamed

theorem candidates_of_test {source : String} (hsource : tested? p.stem = some source) :
    candidates p = (p.withName (source ++ p.suffix)).map fun candidate => [candidate] := by
  unfold candidates
  simp only [hsource]
  change (p.withName (source ++ p.suffix) >>= fun candidate => .ok [candidate]) = _
  cases p.withName (source ++ p.suffix) with
  | ok candidate => rfl
  | error reason => rfl

theorem parts_eq (hname : p.name ≠ "") : p.parts.dropLast ++ [p.name] = p.parts := by
  have hparts : p.parts ≠ [] := by
    intro hnil
    rw [Path.name, hnil] at hname
    exact hname rfl
  rw [Path.name, List.getLastD_eq_getLast?, List.getLast?_eq_getLast_of_ne_nil hparts]
  exact List.dropLast_append_getLast hparts

theorem candidates_testOf (hname : p.name ≠ "") (h : IsComponent p.name)
    (hending : ending ∈ endings)
    (hdivided : Path.splitName (p.stem ++ ending ++ p.suffix) = (p.stem ++ ending, p.suffix)) :
    candidates (testOf p ending) = .ok [p] := by
  have hstem : (testOf p ending).stem = p.stem ++ ending := by
    rw [Path.stem, name_testOf, hdivided]
  have hsuffix : (testOf p ending).suffix = p.suffix := by
    rw [Path.suffix, name_testOf, hdivided]
  have hsource : tested? (testOf p ending).stem = some p.stem := by
    rw [hstem]
    have happended := tested?_append p.stem.toList hending
    rwa [String.ofList_append, String.ofList_toList, String.ofList_toList] at happended
  have hnonempty : (testOf p ending).name ≠ "" := by
    rw [name_testOf]
    exact (isComponent_testOf hname h hending).ne_empty
  rw [candidates_of_test hsource, hsuffix, stem_append_suffix p hname, withName_ok hnonempty h]
  change Except.ok [Path.mk p.root ((p.parts.dropLast ++ [_]).dropLast ++ [p.name])] = _
  rw [List.dropLast_concat, parts_eq hname]

theorem name_of_withName (h : p.withName name = .ok c) : c.name = name := by
  rw [Path.withName] at h
  split at h
  · cases h
  · split at h
    · cases h
    · cases h
      rw [Path.name, List.getLastD_concat]

theorem source_of_candidates (h : candidates c = .ok [p]) :
    ∃ source, tested? c.stem = some source ∧ p.name = source ++ c.suffix := by
  cases hsource : tested? c.stem with
  | some source =>
      rw [candidates_of_test hsource] at h
      obtain ⟨candidate, hnamed, hsame⟩ := Traversal.map_eq_ok_iff.mp h
      obtain rfl : candidate = p := List.singleton_inj.mp hsame
      exact ⟨source, rfl, name_of_withName hnamed⟩
  | none =>
      unfold candidates at h
      simp only [hsource] at h
      have hlength := (Traversal.forall₂_of_mapM h).length_eq
      rw [endings_eq] at hlength
      cases hlength

theorem length_lt_of_candidates (hname : c.name ≠ "") (h : candidates c = .ok [p]) :
    p.name.length < c.name.length := by
  obtain ⟨source, hsource, hnamed⟩ := source_of_candidates h
  obtain ⟨front, ending, hending, feed, -, hstem, hsource'⟩ := tested?_eq_some_iff.mp hsource
  rw [hnamed, ← stem_append_suffix c hname]
  simp only [← String.length_toList, String.toList_append, hstem, hsource', List.length_append,
    (endings_alike ending hending).1]
  omega

theorem stem_eq_name (hname : p.name ≠ "") (hsuffix : p.suffix = "") : p.stem = p.name := by
  have hparts := stem_append_suffix p hname
  rwa [hsuffix, String.append_empty] at hparts

theorem not_candidates_of_dot (hname : p.name ≠ "") (hstem : tested? p.stem = none)
    (hsuffix : p.suffix = "") (hending : ending ∈ endings) (hdot : '.' ∈ ending.toList) :
    candidates (testOf p ending) ≠ .ok [p] := by
  obtain ⟨hlength, hmark, -, -⟩ := endings_alike ending hending
  obtain ⟨mark, hchars⟩ : ∃ mark, ending.toList = '.' :: mark := by
    cases hcs : ending.toList with
    | nil => simp [hcs] at hdot
    | cons sep mark =>
        rw [hcs] at hdot hmark
        rcases List.mem_cons.mp hdot with rfl | hmem
        · exact ⟨mark, rfl⟩
        · exact absurd hmem hmark
  rw [hchars] at hlength hmark
  have hnamed : p.stem ++ ending ++ p.suffix = String.ofList (p.stem.toList ++ '.' :: mark) := by
    rw [hsuffix, String.append_empty, ← hchars, String.ofList_append, String.ofList_toList,
      String.ofList_toList]
  have hfront : p.stem.toList ≠ [] := by
    rw [stem_eq_name hname hsuffix]
    exact mt String.toList_eq_nil_iff.mp hname
  have htail : mark ≠ [] := by
    rintro rfl
    cases hlength
  have hdivided : (testOf p ending).stem = p.stem := by
    rw [Path.stem, name_testOf, hnamed, splitName_of_dot hfront htail hmark, String.ofList_toList]
  intro hsingle
  obtain ⟨source, hsource, -⟩ := source_of_candidates hsingle
  rw [hdivided, hstem] at hsource
  cases hsource

/-- A test of a name with a trailing dot is divided at that dot. What its name tells, if anything,
does not end in a dot. -/
theorem not_candidates_of_trailing (hlast : p.name = String.ofList (front ++ ['.']))
    (hfront : front ≠ []) (hending : ending ∈ endings) (hdot : '.' ∉ ending.toList) :
    candidates (testOf p ending) ≠ .ok [p] := by
  have htail : ending.toList ≠ [] := by
    intro hnil
    have hlength := (endings_alike ending hending).1
    rw [hnil] at hlength
    cases hlength
  have hnamed : (testOf p ending).name = String.ofList (front ++ '.' :: ending.toList) := by
    rw [name_testOf, Path.stem, Path.suffix, hlast, splitName_of_trailing]
    apply String.toList_inj.mp
    simp
  intro hsingle
  obtain ⟨source, -, hsource⟩ := source_of_candidates hsingle
  rw [Path.suffix, hnamed, splitName_of_dot hfront htail hdot, hlast] at hsource
  have hchars : front ++ ['.'] = source.toList ++ '.' :: ending.toList := by
    simpa using congrArg String.toList hsource
  have hends : ending.toList.getLast? = some '.' := by
    have happend := congrArg List.getLast? hchars
    rw [List.getLast?_concat, List.append_cons, List.getLast?_append_of_ne_nil _ htail] at happend
    exact happend.symm
  exact hdot (List.mem_of_getLast? hends)

/-- Which tests tell their source: all of them when it has a suffix, and otherwise those marked
behind a dash or an underscore, unless the name ends in a dot. -/
theorem candidates_testOf_iff (hname : p.name ≠ "") (h : IsComponent p.name)
    (hstem : tested? p.stem = none) (hending : ending ∈ endings) :
    candidates (testOf p ending) = .ok [p] ↔
      p.suffix ≠ "" ∨ '.' ∉ ending.toList ∧ p.name.toList.getLast? ≠ some '.' := by
  cases lastDot hname with
  | inside front tail hchars hfront htail hdot =>
      have hdivided :
          Path.splitName p.name = (String.ofList front, String.ofList ('.' :: tail)) := by
        rw [hchars, splitName_of_dot hfront htail hdot]
      have hsuffix : p.suffix ≠ "" := by
        rw [Path.suffix, hdivided]
        simp
      refine iff_of_true (candidates_testOf hname h hending ?_) (.inl hsuffix)
      have hmarked : front ++ ending.toList ≠ [] := by simp [hfront]
      have hnamed : p.stem ++ ending ++ p.suffix =
          String.ofList (front ++ ending.toList ++ '.' :: tail) := by
        rw [Path.stem, Path.suffix, hdivided]
        apply String.toList_inj.mp
        simp
      rw [hnamed, splitName_of_dot hmarked htail hdot, Path.stem, Path.suffix, hdivided,
        String.ofList_append, String.ofList_toList]
  | trailing front hchars hfront =>
      have hsuffix : p.suffix = "" := by rw [Path.suffix, hchars, splitName_of_trailing]
      refine iff_of_false ?_ (by simp [hsuffix, hchars])
      by_cases hdot : '.' ∈ ending.toList
      · exact not_candidates_of_dot hname hstem hsuffix hending hdot
      · exact not_candidates_of_trailing hchars hfront hending hdot
  | absent ch cs hchars hdot =>
      have hsuffix : p.suffix = "" := by rw [Path.suffix, hchars, splitName_of_plain hdot]
      by_cases hmarked : '.' ∈ ending.toList
      · refine iff_of_false (not_candidates_of_dot hname hstem hsuffix hending hmarked) ?_
        simp [hsuffix, hmarked]
      · have hlast : p.name.toList.getLast? ≠ some '.' := by
          intro hends
          rw [hchars, String.toList_ofList] at hends
          cases cs with
          | nil =>
              obtain rfl := Option.some.inj hends
              exact h.ne_dot hchars
          | cons c cs =>
              rw [List.getLast?_cons_cons] at hends
              exact hdot (List.mem_of_getLast? hends)
        refine iff_of_true (candidates_testOf hname h hending ?_) (.inr ⟨hmarked, hlast⟩)
        have hclear : '.' ∉ cs ++ ending.toList := by simp [hdot, hmarked]
        have hnamed : p.stem ++ ending = String.ofList (ch :: (cs ++ ending.toList)) := by
          rw [stem_eq_name hname hsuffix, hchars]
          apply String.toList_inj.mp
          simp
        rw [hsuffix, String.append_empty, hnamed, splitName_of_plain hclear]

end Candidates

section Lookup

/-- A candidate for a file is a test that tells this file as its source. The stem of the file must
not pass for that of a test, as one does where a line feed follows the ending; and what ends the
name of the test must not begin a suffix. -/
def TellsSource (p c : Path) : Prop :=
  (∀ ending ∈ endings, ¬ending.toList ++ ['\n'] <:+ p.stem.toList) ∧
    ∃ ending ∈ endings, c = testOf p ending ∧
      (p.suffix ≠ "" ∨ '.' ∉ ending.toList ∧ p.name.toList.getLast? ≠ some '.')

theorem testOf_injective {other : String} (h : testOf p ending = testOf p other) :
    ending = other := by
  have hname := congrArg Path.name h
  rw [name_testOf, name_testOf] at hname
  have hchars := congrArg String.toList hname
  simp only [String.toList_append] at hchars
  exact String.toList_inj.mp (List.append_cancel_left (List.append_cancel_right hchars))

theorem candidates_iff_tellsSource (hname : p.name ≠ "") (h : IsComponent p.name)
    (hends : ∀ ending ∈ endings, ¬ending.toList <:+ p.stem.toList) :
    ∃ cs, candidates p = .ok cs ∧ cs ≠ [] ∧
      ∀ c ∈ cs, (candidates c = .ok [p] ↔ TellsSource p c) := by
  cases hstem : tested? p.stem with
  | none =>
      refine ⟨_, candidates_of_source hname h hstem, by simp [endings_eq], ?_⟩
      intro c hc
      obtain ⟨ending, hending, rfl⟩ := List.mem_map.mp hc
      rw [candidates_testOf_iff hname h hstem hending]
      constructor
      · intro hread
        exact ⟨fun e he => (tested?_eq_none_iff.mp hstem e he).2, ending, hending, rfl, hread⟩
      · rintro ⟨-, other, -, hsame, hread⟩
        rwa [testOf_injective hsame]
  | some source =>
      obtain ⟨front, ending, hending, feed, hfeed, hchars, hsource⟩ := tested?_eq_some_iff.mp hstem
      obtain rfl : feed = ['\n'] := by
        apply hfeed.resolve_left
        rintro rfl
        exact hends ending hending ⟨front, by rw [hchars, List.append_nil]⟩
      have hcomponent : IsComponent (source ++ p.suffix) := by
        have hfed : '\n' ∈ (source ++ p.suffix).toList := by simp [hsource]
        have hclear := h.slash
        rw [← stem_append_suffix p hname, String.toList_append, hchars] at hclear
        refine ⟨?_, ?_, ?_⟩
        · intro hempty
          simp [hempty] at hfed
        · intro hdot
          simp [hdot] at hfed
        · rw [String.toList_append, hsource]
          simp only [List.mem_append, not_or] at hclear ⊢
          exact ⟨⟨hclear.1.1.1, hclear.1.2⟩, hclear.2⟩
      have hnamed := withName_ok hname hcomponent
      have hsingle := candidates_of_test hstem
      rw [hnamed] at hsingle
      refine ⟨_, hsingle, List.cons_ne_nil _ _, ?_⟩
      intro c hc
      obtain rfl := List.mem_singleton.mp hc
      apply iff_of_false
      · intro hback
        have hshorter := length_lt_of_candidates hname hsingle
        have hlonger := length_lt_of_candidates ?_ hback
        · omega
        · rw [name_of_withName hnamed]
          exact hcomponent.ne_empty
      · rintro ⟨hfed, -⟩
        exact hfed ending hending ⟨front, by rw [hchars, List.append_assoc]⟩

theorem find?_eq {tree : FileTree} {cs : List Path} (h : candidates p = .ok cs) :
    find? tree p = .ok (cs.find? fun candidate => tree.isFile candidate.text) := by
  rw [find?, h]
  rfl

theorem isComponent_name {file : String} (hname : (Path.parse file).name ≠ "") :
    IsComponent (Path.parse file).name := by
  apply isComponent_of_mem_parse (s := file)
  rw [← parts_eq hname]
  exact List.mem_concat_self

end Lookup

/-- A test that can tell its source does so: it is the only candidate for the test, and the lookup
finds it when it finds the test. Which tests can is told by their names. -/
theorem tests_tell_their_source {file : String} (hname : (Path.parse file).name ≠ "")
    (hends : ∀ ending ∈ endings, ¬ending.toList <:+ (Path.parse file).stem.toList) :
    let p := Path.parse file
    (∃ cs, candidates p = .ok cs ∧ cs ≠ [] ∧
      ∀ c ∈ cs, (candidates c = .ok [p] ↔ TellsSource p c)) ∧
    ∀ tree : FileTree, tree.isFile p.text = true → ∃ found, find? tree p = .ok found ∧
      ∀ t, found = some t → tree.isFile t.text = true ∧
        (TellsSource p t → find? tree t = .ok (some p)) := by
  intro p
  have hcandidates := candidates_iff_tellsSource hname (isComponent_name hname) hends
  refine ⟨hcandidates, ?_⟩
  obtain ⟨cs, hcs, -, htells⟩ := hcandidates
  intro tree hexists
  refine ⟨_, find?_eq hcs, ?_⟩
  intro t ht
  refine ⟨List.find?_some (p := fun c : Path => tree.isFile c.text) ht, ?_⟩
  intro htold
  have hsource := (htells t (List.mem_of_find?_eq_some ht)).mpr htold
  rw [find?_eq hsource]
  exact congrArg Except.ok (List.find?_cons_of_pos hexists)

section Sample

/-- A directory with a source file and a build file, each with a test. -/
def sampleTree : FileTree where
  files :=
    [("/w/user.ts", []), ("/w/user.test.ts", []), ("/w/Makefile", []), ("/w/Makefile.test", [])]
  directories := []
  hidden := []
  working := "/w"
  homes := ⟨"/home", []⟩

theorem tests_tell_their_source_sample :
    find? sampleTree (Path.parse "/w/user.test.ts") = .ok (some (Path.parse "/w/user.ts")) := by
  have hends : ∀ ending ∈ endings, ¬ending.toList <:+ (Path.parse "/w/user.ts").stem.toList := by
    decide
  have hname : (Path.parse "/w/user.ts").name ≠ "" := by decide
  obtain ⟨-, hlookup⟩ := tests_tell_their_source hname hends
  obtain ⟨found, hfound, hback⟩ := hlookup sampleTree (by decide)
  have htest : found = some (testOf (Path.parse "/w/user.ts") ".test") :=
    Except.ok.inj (hfound.symm.trans (by decide +kernel))
  refine (hback _ htest).2 ⟨by decide, ".test", by decide, rfl, .inl (by decide)⟩

/-- A mark behind a dot is a suffix of its own where the source has none: the test is found for the
source, but nothing for the test. -/
theorem dotted_mark_is_suffix :
    (∀ ending ∈ endings, ¬ending.toList <:+ (Path.parse "/w/Makefile").stem.toList) ∧
      sampleTree.isFile "/w/Makefile" = true ∧
      find? sampleTree (Path.parse "/w/Makefile") = .ok (some (Path.parse "/w/Makefile.test")) ∧
      find? sampleTree (Path.parse "/w/Makefile.test") = .ok none := by
  decide +kernel

end Sample

end SymbolSearch.Proofs.SiblingPairs
