import Mathlib.Data.List.TakeWhile
import SymbolSearch.Record

namespace SymbolSearch.Proofs.Records

open Record

theorem takeWhile_append_drop {α : Type} (p : α → Bool) (xs : List α) :
    xs.takeWhile p ++ xs.drop (xs.takeWhile p).length = xs := by
  have happend : xs.takeWhile p ++ xs.dropWhile p = xs := List.takeWhile_append_dropWhile
  have hdrop : (xs.takeWhile p ++ xs.dropWhile p).drop (xs.takeWhile p).length = xs.dropWhile p :=
    List.drop_left
  rw [happend] at hdrop
  rw [hdrop, happend]

/-- Decimal digits of any script, at least one of them. -/
def IsNumeral (digits : List Char) : Prop :=
  digits ≠ [] ∧ ∀ c ∈ digits, Text.isDecimal c = true

theorem takeNumber?_eq_some_iff {cs digits rest : List Char} :
    takeNumber? cs = some (digits, rest) ↔ IsNumeral digits ∧ cs = digits ++ ':' :: rest := by
  constructor
  · intro h
    unfold takeNumber? at h
    extract_lets run at h
    split at h
    · rename_i rest' hrest
      split at h
      · cases h
      · rename_i hempty
        simp only [Option.some.injEq, Prod.mk.injEq] at h
        obtain ⟨rfl, rfl⟩ := h
        refine ⟨⟨by simpa using hempty, fun c hc => List.mem_takeWhile_imp hc⟩, ?_⟩
        rw [← hrest, takeWhile_append_drop]
    · cases h
  · rintro ⟨⟨hne, hdigits⟩, rfl⟩
    -- A colon is no digit, so the digits end where the colon stands.
    have htake : (digits ++ ':' :: rest).takeWhile Text.isDecimal = digits := by
      rw [List.takeWhile_append_of_pos hdigits, List.takeWhile_cons_of_neg (by decide),
        List.append_nil]
    have hempty : digits.isEmpty = false := by simpa using hne
    rw [takeNumber?, htake, List.drop_left]
    simp only [hempty, Bool.false_eq_true, if_false]

/-- A text is read up to its end, which a single line feed may precede. -/
theorem takeText?_eq_some_iff {cs text : List Char} :
    takeText? cs = some text ↔ '\n' ∉ text ∧ (cs = text ∨ cs = text ++ ['\n']) := by
  constructor
  · intro h
    unfold takeText? at h
    extract_lets run at h
    have hrun : '\n' ∉ run := by
      intro hmem
      have := List.mem_takeWhile_imp hmem
      simp at this
    have happend : run ++ cs.drop run.length = cs := takeWhile_append_drop _ cs
    split at h
    · rename_i hrest
      obtain rfl := Option.some.inj h
      rw [hrest, List.append_nil] at happend
      exact ⟨hrun, .inl happend.symm⟩
    · rename_i hrest
      obtain rfl := Option.some.inj h
      rw [hrest] at happend
      exact ⟨hrun, .inr happend.symm⟩
    · cases h
  · rintro ⟨htext, hcs⟩
    have hkept : ∀ c ∈ text, (c != '\n') = true := by
      intro c hc
      rw [bne_iff_ne]
      rintro rfl
      exact htext hc
    rcases hcs with rfl | rfl
    · rw [takeText?, List.takeWhile_eq_self_iff.mpr hkept, List.drop_length]
    · rw [takeText?, List.takeWhile_append_of_pos hkept, List.takeWhile_cons_of_neg (by decide),
        List.append_nil, List.drop_left]
      rfl

theorem takePlace?_eq_some_iff {cs line column text : List Char} :
    takePlace? cs = some (line, column, text) ↔
      IsNumeral line ∧ IsNumeral column ∧
        ∃ rest, cs = line ++ ':' :: (column ++ ':' :: rest) ∧ takeText? rest = some text := by
  simp only [takePlace?, Option.bind_eq_bind, Option.bind_eq_some_iff, Option.pure_def,
    Option.some.injEq, Prod.mk.injEq]
  constructor
  · rintro ⟨⟨line, rest⟩, hline, ⟨column, rest'⟩, hcolumn, text, htext, rfl, rfl, rfl⟩
    obtain ⟨hdigits, rfl⟩ := takeNumber?_eq_some_iff.mp hline
    obtain ⟨hdigits', rfl⟩ := takeNumber?_eq_some_iff.mp hcolumn
    exact ⟨hdigits, hdigits', rest', rfl, htext⟩
  · rintro ⟨hline, hcolumn, rest, rfl, htext⟩
    exact ⟨(line, _), takeNumber?_eq_some_iff.mpr ⟨hline, rfl⟩,
      (column, _), takeNumber?_eq_some_iff.mpr ⟨hcolumn, rfl⟩, text, htext, rfl, rfl, rfl⟩

theorem exists_place_of_splitFrom {path cs : List Char} {parts : Parts}
    (h : splitFrom path cs = some parts) :
    parts.path ≠ [] ∧ ∃ front rest,
      parts.path = path.reverse ++ front ∧ '\n' ∉ front ∧ cs = front ++ ':' :: rest ∧
        takePlace? rest = some (parts.line, parts.column, parts.text) := by
  induction cs generalizing path with
  | nil => cases h
  | cons c cs ih =>
      rw [splitFrom] at h
      split at h
      · rename_i line column text hfound
        obtain rfl := Option.some.inj h
        split at hfound
        · rename_i hcolon
          simp only [Bool.and_eq_true, beq_iff_eq, Bool.not_eq_true', List.isEmpty_eq_false_iff]
            at hcolon
          obtain ⟨rfl, hpath⟩ := hcolon
          exact ⟨by simpa using hpath, [], cs, by simp, by simp, rfl, hfound⟩
        · cases hfound
      · split at h
        · cases h
        · rename_i hline
          obtain ⟨hpath, front, rest, hparts, hfront, rfl, hplace⟩ := ih h
          refine ⟨hpath, c :: front, rest, by simp [hparts], ?_, rfl, hplace⟩
          rintro (_ | ⟨_, hmem⟩)
          · exact hline rfl
          · exact hfront hmem

theorem splitFrom_of_place {path front rest : List Char} {place : List Char × List Char × List Char}
    (hfront : '\n' ∉ front) (hne : path.reverse ++ front ≠ [])
    (hplace : takePlace? rest = some place) :
    ∃ parts, splitFrom path (front ++ ':' :: rest) = some parts ∧
      parts.path.length ≤ path.length + front.length := by
  induction front generalizing path with
  | nil =>
      have hpath : path.isEmpty = false := by simpa using hne
      refine ⟨⟨path.reverse, place.1, place.2.1, place.2.2⟩, ?_, by simp⟩
      rw [List.nil_append, splitFrom]
      simp only [hpath, Bool.not_false, beq_self_eq_true, Bool.and_self, if_true, hplace]
  | cons c front ih =>
      obtain ⟨hc, hfront⟩ := not_or.mp fun hmem => hfront (List.mem_cons.mpr hmem)
      have hc' : (c == '\n') = false := beq_eq_false_iff_ne.mpr fun heq => hc heq.symm
      rw [List.cons_append, splitFrom]
      split
      · rename_i line column text hfound
        exact ⟨_, rfl, by simp⟩
      · obtain ⟨parts, hparts, hle⟩ := @ih (c :: path) hfront (by simp)
        refine ⟨parts, ?_, ?_⟩
        · rw [hc', if_neg (by decide), hparts]
        · simp only [List.length_cons] at hle ⊢
          omega

theorem splitFrom_eq {path cs : List Char} {parts : Parts} (h : splitFrom path cs = some parts) :
    parts.path ≠ [] ∧ ∃ rest,
      path.reverse ++ cs =
        parts.path ++ ':' :: parts.line ++ ':' :: parts.column ++ ':' :: rest ∧
      takeText? rest = some parts.text := by
  obtain ⟨hpath, front, rest, hparts, -, rfl, hplace⟩ := exists_place_of_splitFrom h
  obtain ⟨-, -, rest, rfl, htext⟩ := takePlace?_eq_some_iff.mp hplace
  exact ⟨hpath, rest, by simp [hparts], htext⟩

/-- A line that consists of a path, two numbers and a text, with colons between them. -/
structure Layout (line : List Char) (record : Record) : Prop where
  path_ne_nil : record.path.toList ≠ []
  parts : ∃ digits digits' : List Char,
    line = record.path.toList ++ ':' :: digits ++ ':' :: digits' ++ ':' :: record.text.toList ∧
      Text.naturalOfDigits? digits = some record.line ∧
      Text.naturalOfDigits? digits' = some record.column

theorem record?_eq {parts : Parts} {record : Record} (h : parts.record? = some record) :
    record.path.toList = parts.path ∧ record.text.toList = parts.text ∧
      Text.naturalOfDigits? parts.line = some record.line ∧
      Text.naturalOfDigits? parts.column = some record.column := by
  simp only [Parts.record?, Option.bind_eq_bind, Option.bind_eq_some_iff] at h
  obtain ⟨line, hline, column, hcolumn, hall⟩ := h
  obtain rfl := Option.some.inj hall
  exact ⟨String.toList_ofList, String.toList_ofList, hline, hcolumn⟩

/-- A line one of whose numbers has more digits than are read. -/
def IsOverlong (line : String) : Prop :=
  ∃ parts, split? line = some parts ∧
    (Decimal.maxDigits < parts.line.length ∨ Decimal.maxDigits < parts.column.length)

theorem read_of_not_isOverlong {line : String} (h : ¬IsOverlong line) :
    Record.read line = .ok (parse? line) := by
  unfold Record.read parse?
  split
  · rename_i hsplit
    rw [hsplit]
    rfl
  · rename_i parts hparts
    split
    · rename_i digits hfind
      have hlong := List.find?_some hfind
      have hmem := List.mem_of_find?_eq_some hfind
      simp only [List.mem_cons, List.not_mem_nil, or_false] at hmem
      refine absurd ⟨parts, hparts, ?_⟩ h
      rcases hmem with rfl | rfl
      · exact .inl (by simpa using hlong)
      · exact .inr (by simpa using hlong)
    · rw [hparts]
      rfl

theorem read_of_isOverlong {line : String} (h : IsOverlong line) :
    ∃ count, Record.read line = .error (.tooManyDigits count) := by
  obtain ⟨parts, hparts, hlong⟩ := h
  unfold Record.read
  rw [hparts]
  simp only
  split
  · exact ⟨_, rfl⟩
  · rename_i hfind
    rw [List.find?_eq_none] at hfind
    rcases hlong with hlong | hlong
    · exact absurd (by simpa using hlong) (hfind parts.line (by simp))
    · exact absurd (by simpa using hlong) (hfind parts.column (by simp))

theorem not_isOverlong_of_read {line : String} {found : Option Record}
    (h : Record.read line = .ok found) : ¬IsOverlong line := by
  intro hlong
  obtain ⟨count, herror⟩ := read_of_isOverlong hlong
  cases herror.symm.trans h

theorem read_eq_record? {line : String} {record : Record}
    (h : Record.read line = .ok (some record)) :
    ∃ parts, splitFrom [] line.toList = some parts ∧ parts.record? = some record := by
  rw [read_of_not_isOverlong (not_isOverlong_of_read h)] at h
  exact Option.bind_eq_some_iff.mp (Except.ok.inj h)

theorem lineFeed_not_mem_text {line : String} {record : Record}
    (h : Record.read line = .ok (some record)) : '\n' ∉ record.text.toList := by
  obtain ⟨parts, hsplit, hrecord⟩ := read_eq_record? h
  obtain ⟨-, rest, -, htext⟩ := splitFrom_eq hsplit
  rw [(record?_eq hrecord).2.1]
  exact (takeText?_eq_some_iff.mp htext).1

theorem layout_of_read {line : String} {record : Record} (hline : '\n' ∉ line.toList)
    (h : Record.read line = .ok (some record)) : Layout line.toList record := by
  obtain ⟨parts, hsplit, hrecord⟩ := read_eq_record? h
  obtain ⟨hpath, rest, heq, htext⟩ := splitFrom_eq hsplit
  obtain ⟨hpath', htext', hnumber, hnumber'⟩ := record?_eq hrecord
  rw [List.reverse_nil, List.nil_append] at heq
  have hrest : rest = parts.text := by
    obtain ⟨-, rfl | rfl⟩ := takeText?_eq_some_iff.mp htext
    · rfl
    · rw [heq] at hline
      simp at hline
  refine ⟨hpath' ▸ hpath, parts.line, parts.column, ?_, hnumber, hnumber'⟩
  rw [heq, hpath', htext', hrest]

end SymbolSearch.Proofs.Records
