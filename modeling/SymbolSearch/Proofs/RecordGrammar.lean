import Mathlib.Data.Nat.Digits.Defs
import Mathlib.Tactic.Ring
import SymbolSearch.Proofs.WrittenRecords

namespace SymbolSearch.Proofs.RecordGrammar

open ReadNumbers
open Record
open Records
open Text
open WrittenRecords

variable {cs digits : List Char} {n : Nat} {p p' : Parts} {r : Record} {s : String}

section Numerals

/-- The number that digits of any script write, the most significant one first. -/
def Denotes (digits : List Char) (n : Nat) : Prop :=
  digits ≠ [] ∧ ∃ values : List Nat,
    digits.map digitValue? = values.map some ∧ n = Nat.ofDigits 10 values.reverse

theorem ofDigits_reverse_cons (d : Nat) (values : List Nat) :
    Nat.ofDigits 10 (d :: values).reverse =
      d * 10 ^ values.length + Nat.ofDigits 10 values.reverse := by
  rw [List.reverse_cons, Nat.ofDigits_append, Nat.ofDigits_singleton, List.length_reverse]
  ring

theorem readOn_eq_some_iff {start : Nat} :
    readOn (some start) cs = some n ↔
      ∃ values : List Nat, cs.map digitValue? = values.map some ∧
        n = start * 10 ^ values.length + Nat.ofDigits 10 values.reverse := by
  induction cs generalizing start with
  | nil =>
      constructor
      · intro h
        obtain rfl := Option.some.inj h
        exact ⟨[], rfl, by simp⟩
      · rintro ⟨values, hvalues, rfl⟩
        obtain rfl : values = [] := by simpa using hvalues.symm
        simp [readOn]
  | cons c cs ih =>
      -- What is read of the first digit becomes the start of the others.
      have hshift (d : Nat) (values : List Nat) :
          (start * 10 + d) * 10 ^ values.length + Nat.ofDigits 10 values.reverse =
            start * 10 ^ (d :: values).length + Nat.ofDigits 10 (d :: values).reverse := by
        rw [ofDigits_reverse_cons, List.length_cons]
        ring
      rw [readOn_cons]
      constructor
      · intro h
        cases hc : digitValue? c with
        | none =>
            rw [hc] at h
            cases (readOn_none cs).symm.trans h
        | some d =>
            rw [hc] at h
            obtain ⟨values, hvalues, rfl⟩ := ih.mp h
            exact ⟨d :: values, by simp [hc, hvalues], hshift d values⟩
      · rintro ⟨values, hvalues, rfl⟩
        cases values with
        | nil => simp at hvalues
        | cons d values =>
            simp only [List.map_cons, List.cons.injEq] at hvalues
            rw [hvalues.1]
            exact ih.mpr ⟨values, hvalues.2, (hshift d values).symm⟩

theorem naturalOfDigits?_eq_some_iff : naturalOfDigits? digits = some n ↔ Denotes digits n := by
  by_cases hne : digits = []
  · subst hne
    simp [naturalOfDigits?, Denotes]
  · rw [naturalOfDigits?_eq_readOn hne, readOn_eq_some_iff]
    simp [Denotes, hne]

theorem exists_denotes (h : IsNumeral digits) : ∃ n, Denotes digits n := by
  refine ⟨_, h.1, digits.map fun c => (digitValue? c).getD 0, ?_, rfl⟩
  rw [List.map_map]
  apply List.map_congr_left
  intro c hc
  obtain ⟨d, hd⟩ := Option.isSome_iff_exists.mp (h.2 c hc)
  simp [hd]

end Numerals

section Divisions

/-- The parts of a line with colons between them. -/
def joined (p : Parts) : List Char :=
  p.path ++ ':' :: (p.line ++ ':' :: (p.column ++ ':' :: p.text))

/-- A line divides into a path, two numerals and a text. A line feed at its end does not count, and
there is no other one. -/
structure Divides (cs : List Char) (p : Parts) : Prop where
  whole : cs = joined p ∨ cs = joined p ++ ['\n']
  path_ne_nil : p.path ≠ []
  path : '\n' ∉ p.path
  line : IsNumeral p.line
  column : IsNumeral p.column
  text : '\n' ∉ p.text

theorem divides_iff :
    Divides cs p ↔ p.path ≠ [] ∧ '\n' ∉ p.path ∧ ∃ rest, cs = p.path ++ ':' :: rest ∧
      takePlace? rest = some (p.line, p.column, p.text) := by
  constructor
  · intro h
    refine ⟨h.path_ne_nil, h.path, ?_⟩
    simp only [takePlace?_eq_some_iff, takeText?_eq_some_iff]
    rcases h.whole with rfl | rfl
    · exact ⟨_, rfl, h.line, h.column, p.text, rfl, h.text, .inl rfl⟩
    · exact ⟨_, by simp [joined], h.line, h.column, p.text ++ ['\n'], rfl, h.text, .inr rfl⟩
  · rintro ⟨hne, hpath, rest, rfl, hplace⟩
    obtain ⟨hline, hcolumn, rest, rfl, hrest⟩ := takePlace?_eq_some_iff.mp hplace
    obtain ⟨htext, rfl | rfl⟩ := takeText?_eq_some_iff.mp hrest
    · exact ⟨.inl rfl, hne, hpath, hline, hcolumn, htext⟩
    · exact ⟨.inr (by simp [joined]), hne, hpath, hline, hcolumn, htext⟩

theorem divides_of_split? (h : split? s = some p) : Divides s.toList p := by
  obtain ⟨hne, front, rest, hparts, hfront, hs, hplace⟩ := exists_place_of_splitFrom h
  obtain rfl : front = p.path := by simpa using hparts.symm
  exact divides_iff.mpr ⟨hne, hfront, rest, hs, hplace⟩

theorem exists_split?_of_divides (h : Divides s.toList p) :
    ∃ p', split? s = some p' ∧ p'.path.length ≤ p.path.length := by
  obtain ⟨hne, hpath, rest, hs, hplace⟩ := divides_iff.mp h
  obtain ⟨p', hsplit, hle⟩ := @splitFrom_of_place [] _ _ _ hpath (by simpa using hne) hplace
  refine ⟨p', ?_, by simpa using hle⟩
  rw [split?, hs]
  exact hsplit

/-- Where the path ends decides how a line divides. -/
theorem Divides.eq_of_length_eq (h : Divides cs p) (h' : Divides cs p')
    (hlength : p.path.length = p'.path.length) : p = p' := by
  obtain ⟨-, -, rest, hcs, hplace⟩ := divides_iff.mp h
  obtain ⟨-, -, rest', hcs', hplace'⟩ := divides_iff.mp h'
  obtain ⟨hpath, hrest⟩ := List.append_inj (hcs.symm.trans hcs') hlength
  obtain rfl : rest = rest' := (List.cons.inj hrest).2
  have hparts := Option.some.inj (hplace.symm.trans hplace')
  simp only [Prod.mk.injEq] at hparts
  cases p
  cases p'
  simp only [Parts.mk.injEq]
  exact ⟨hpath, hparts⟩

/-- The division of a line with the shortest path. -/
def IsShortest (cs : List Char) (p : Parts) : Prop :=
  Divides cs p ∧ ∀ p', Divides cs p' → p.path.length ≤ p'.path.length

theorem split?_eq_some_iff : split? s = some p ↔ IsShortest s.toList p := by
  constructor
  · intro h
    refine ⟨divides_of_split? h, ?_⟩
    intro p' hp'
    obtain ⟨found, hfound, hle⟩ := exists_split?_of_divides hp'
    obtain rfl : p = found := Option.some.inj (h.symm.trans hfound)
    exact hle
  · rintro ⟨hdivides, hshortest⟩
    obtain ⟨found, hfound, hle⟩ := exists_split?_of_divides hdivides
    have hfound' : Divides s.toList found := divides_of_split? hfound
    have hlength : p.path.length = found.path.length := le_antisymm (hshortest found hfound') hle
    rw [hfound, hdivides.eq_of_length_eq hfound' hlength]

/-- The record that a line holds: its parts when the path is as short as can be, with the numbers
that its numerals denote. -/
def Holds (s : String) (r : Record) : Prop :=
  ∃ p, IsShortest s.toList p ∧ r.path.toList = p.path ∧ r.text.toList = p.text ∧
    Denotes p.line r.line ∧ Denotes p.column r.column

theorem record?_eq_some_iff :
    p.record? = some r ↔ r.path.toList = p.path ∧ r.text.toList = p.text ∧
      Denotes p.line r.line ∧ Denotes p.column r.column := by
  simp only [← naturalOfDigits?_eq_some_iff]
  constructor
  · exact record?_eq
  · rintro ⟨hpath, htext, hline, hcolumn⟩
    simp [Parts.record?, hline, hcolumn, ← hpath, ← htext]

theorem parse?_eq_some_iff : parse? s = some r ↔ Holds s r := by
  simp only [parse?, Option.bind_eq_some_iff, split?_eq_some_iff, record?_eq_some_iff, Holds]

theorem parse?_eq_none_iff : parse? s = none ↔ ∀ p, ¬Divides s.toList p := by
  constructor
  · intro h p hp
    obtain ⟨found, hfound, -⟩ := exists_split?_of_divides hp
    have hdivides : Divides s.toList found := divides_of_split? hfound
    obtain ⟨line, hline⟩ := exists_denotes hdivides.line
    obtain ⟨column, hcolumn⟩ := exists_denotes hdivides.column
    have hrecord : found.record? =
        some ⟨String.ofList found.path, line, column, String.ofList found.text⟩ :=
      record?_eq_some_iff.mpr ⟨String.toList_ofList, String.toList_ofList, hline, hcolumn⟩
    rw [parse?, hfound, Option.bind_some, hrecord] at h
    cases h
  · intro h
    cases hsplit : split? s with
    | none => rw [parse?, hsplit, Option.bind_none]
    | some p => exact absurd (divides_of_split? hsplit) (h p)

end Divisions

/-- A line is read exactly when it divides, and the record is that of the division with the shortest
path. In particular a record is read back from what is written of it when its path holds no colon,
whatever stands in its text. Only numbers of too many digits are refused. -/
theorem lines_are_read_by_grammar (s : String) :
    (∀ r, parse? s = some r ↔ Holds s r) ∧
      (parse? s = none ↔ ∀ p, ¬Divides s.toList p) ∧
      (Record.read s = .ok (parse? s) ∨ IsOverlong s) ∧
      ∀ r : Record, r.path.toList ≠ [] → (∀ c ∈ r.path.toList, c ≠ ':' ∧ c ≠ '\n') →
        '\n' ∉ r.text.toList → parse? (written r) = some r := by
  refine ⟨fun r => parse?_eq_some_iff, parse?_eq_none_iff, ?_, fun r => parse?_written⟩
  by_cases hlong : IsOverlong s
  · exact .inr hlong
  · exact .inl (read_of_not_isOverlong hlong)

/-- A path may hold a colon, and a text may look like a place. -/
theorem lines_are_read_by_grammar_sample :
    Holds "a:b:٣:42:c:5:6:d\n" ⟨"a:b", 3, 42, "c:5:6:d"⟩ ∧
      parse? (written ⟨"a", 7, 0, ":1:2:"⟩) = some ⟨"a", 7, 0, ":1:2:"⟩ := by
  obtain ⟨hholds, -⟩ := lines_are_read_by_grammar "a:b:٣:42:c:5:6:d\n"
  obtain ⟨-, -, -, hwritten⟩ := lines_are_read_by_grammar (written ⟨"a", 7, 0, ":1:2:"⟩)
  refine ⟨(hholds _).mp (by rfl), hwritten ⟨"a", 7, 0, ":1:2:"⟩ (by decide) (by simp) ?_⟩
  decide

end SymbolSearch.Proofs.RecordGrammar
