import Mathlib.Data.List.Basic
import SymbolSearch.Proofs.JsonText
import SymbolSearch.Proofs.OutputLines
import SymbolSearch.Proofs.ReadNumbers
import SymbolSearch.Proofs.Records
import SymbolSearch.Proofs.Traversal
import SymbolSearch.Proofs.Utf8Text

namespace SymbolSearch.Proofs.WrittenRecords

open JsonText
open OutputLines
open ReadNumbers
open Record
open Records
open Text
open Traversal
open Utf8Text

variable {r : Record} {records : List Record} {cs rest : List Char}

/-- A record as the search tool writes it on a line. -/
def written (r : Record) : String :=
  r.path ++ ":" ++ Decimal.digits r.line ++ ":" ++ Decimal.digits r.column ++ ":" ++ r.text

/-- The output of the search tool for some records, each on a line of its own. -/
def outputOf (records : List Record) : List UInt8 :=
  encode (String.join (records.map fun r => written r ++ "\n"))

/-- A record that fits on a line: the path is not empty and holds no colon, and neither path nor
text holds a line feed or a carriage return. -/
structure FitsLine (r : Record) : Prop where
  path_ne_nil : r.path.toList ≠ []
  path : ∀ c ∈ r.path.toList, c ≠ ':' ∧ c ≠ '\n' ∧ c ≠ '\r'
  text : ∀ c ∈ r.text.toList, c ≠ '\n' ∧ c ≠ '\r'

/-- Neither path nor text of a record holds any character that ends lines. -/
def Unbroken (r : Record) : Prop :=
  (∀ c ∈ r.path.toList, isLineBoundary c = false) ∧ ∀ c ∈ r.text.toList, isLineBoundary c = false

/-- The numbers of a record have no more digits than are read. -/
def Readable (r : Record) : Prop :=
  r.line < 10 ^ Decimal.maxDigits ∧ r.column < 10 ^ Decimal.maxDigits

section Reading

theorem isNumeral_toDigits (n : Nat) : IsNumeral (Nat.toDigits 10 n) :=
  ⟨Nat.toDigits_ne_nil, fun _ hc => isDecimal_of_isDigit (isDigit_of_mem_toDigits hc)⟩

theorem takePlace?_written (line column : Nat) (h : '\n' ∉ cs) :
    takePlace? (Nat.toDigits 10 line ++ ':' :: (Nat.toDigits 10 column ++ ':' :: cs)) =
      some (Nat.toDigits 10 line, Nat.toDigits 10 column, cs) :=
  takePlace?_eq_some_iff.mpr ⟨isNumeral_toDigits line, isNumeral_toDigits column, cs, rfl,
    takeText?_eq_some_iff.mpr ⟨h, .inl rfl⟩⟩

theorem splitFrom_of_takePlace? {line column text : List Char}
    (hcs : ∀ c ∈ cs, c ≠ ':' ∧ c ≠ '\n') {path : List Char} (hne : path.reverse ++ cs ≠ [])
    (h : takePlace? rest = some (line, column, text)) :
    splitFrom path (cs ++ ':' :: rest) = some ⟨path.reverse ++ cs, line, column, text⟩ := by
  induction cs generalizing path with
  | nil =>
      have hpath : path.isEmpty = false := by simpa using hne
      rw [List.nil_append, splitFrom]
      simp only [hpath, Bool.not_false, beq_self_eq_true, Bool.and_self, if_true, h,
        List.append_nil]
  | cons c cs ih =>
      obtain ⟨hcolon, hline⟩ := hcs c (by simp)
      have hne' : (c :: path).reverse ++ cs ≠ [] := by simp
      have hrest := ih (fun d hd => hcs d (by simp [hd])) hne'
      rw [List.cons_append, splitFrom]
      simp only [beq_eq_false_iff_ne.mpr hcolon, beq_eq_false_iff_ne.mpr hline, Bool.false_and,
        Bool.false_eq_true, if_false, hrest]
      simp

theorem written_toList (r : Record) :
    (written r).toList =
      r.path.toList ++ ':' :: (Nat.toDigits 10 r.line ++
        ':' :: (Nat.toDigits 10 r.column ++ ':' :: r.text.toList)) := by
  simp [written, Decimal.digits]

theorem split?_written (hne : r.path.toList ≠ []) (hpath : ∀ c ∈ r.path.toList, c ≠ ':' ∧ c ≠ '\n')
    (htext : '\n' ∉ r.text.toList) :
    split? (written r) =
      some ⟨r.path.toList, Nat.toDigits 10 r.line, Nat.toDigits 10 r.column, r.text.toList⟩ := by
  rw [split?, written_toList]
  have hne' : [].reverse ++ r.path.toList ≠ [] := by simpa using hne
  exact splitFrom_of_takePlace? hpath hne' (takePlace?_written _ _ htext)

theorem parse?_written (hne : r.path.toList ≠ []) (hpath : ∀ c ∈ r.path.toList, c ≠ ':' ∧ c ≠ '\n')
    (htext : '\n' ∉ r.text.toList) : parse? (written r) = some r := by
  rw [parse?, split?_written hne hpath htext, Option.bind_some]
  simp [Parts.record?, naturalOfDigits?_toDigits]

theorem read_written (h : FitsLine r) (hreadable : Readable r) :
    Record.read (written r) = .ok (some r) := by
  have hpath : ∀ c ∈ r.path.toList, c ≠ ':' ∧ c ≠ '\n' :=
    fun c hc => ⟨(h.path c hc).1, (h.path c hc).2.1⟩
  have htext : '\n' ∉ r.text.toList := fun hmem => (h.text _ hmem).1 rfl
  have hlength {n : Nat} (hn : n < 10 ^ Decimal.maxDigits) :
      ¬Decimal.maxDigits < (Nat.toDigits 10 n).length := by
    have hle := (Nat.length_toDigits_le_iff (by decide) (by decide)).mpr hn
    omega
  have hshort : ¬IsOverlong (written r) := by
    rintro ⟨parts, hparts, hlong⟩
    rw [split?_written h.path_ne_nil hpath htext] at hparts
    obtain rfl := Option.some.inj hparts
    rcases hlong with hlong | hlong
    · exact hlength hreadable.1 hlong
    · exact hlength hreadable.2 hlong
  rw [read_of_not_isOverlong hshort, parse?_written h.path_ne_nil hpath htext]

theorem readable_of_read {line : String} (h : Record.read line = .ok (some r)) : Readable r := by
  obtain ⟨parts, hparts, hrecord⟩ := read_eq_record? h
  obtain ⟨-, -, hline, hcolumn⟩ := record?_eq hrecord
  have hshort := not_isOverlong_of_read h
  have hbound {digits : List Char} {n : Nat} (hn : naturalOfDigits? digits = some n)
      (hle : ¬Decimal.maxDigits < digits.length) : n < 10 ^ Decimal.maxDigits :=
    Nat.lt_of_lt_of_le (lt_of_naturalOfDigits? hn)
      (Nat.pow_le_pow_right (by decide) (Nat.not_lt.mp hle))
  exact ⟨hbound hline fun hlong => hshort ⟨parts, hparts, .inl hlong⟩,
    hbound hcolumn fun hlong => hshort ⟨parts, hparts, .inr hlong⟩⟩

end Reading

section Lines

/-- The lines that a record comes to: its written line, cut wherever a character ends lines, without
empty parts. -/
def piecesOf (r : Record) : List String :=
  ((lines (written r).toList).filter fun line => !line.isEmpty).map String.ofList

theorem outputOf_cons (r : Record) (records : List Record) :
    outputOf (r :: records) = encode (written r) ++ lineFeed :: outputOf records := by
  have hline : encode "\n" = [lineFeed] := by
    decide +kernel
  rw [outputOf, List.map_cons, String.join_cons, encode_append, encode_append, hline,
    List.append_assoc]
  rfl

theorem filledLines_outputOf (records : List Record) :
    (filledLines (outputOf records)).map String.ofList = records.flatMap piecesOf := by
  induction records with
  | nil => rfl
  | cons r records ih =>
      rw [outputOf_cons, filledLines_append_lineFeed, List.map_append, ih, List.flatMap_cons,
        filledLines, decode_encode]
      rfl

theorem linesFrom_of_unbroken {current : List Char}
    (hcs : ∀ c ∈ cs, isLineBoundary c = false) (hne : current.reverse ++ cs ≠ []) :
    linesFrom isLineBoundary current cs = [current.reverse ++ cs] := by
  induction cs generalizing current with
  | nil =>
      have hcurrent : current.isEmpty = false := by simpa using hne
      rw [linesFrom, hcurrent, List.append_nil]
      rfl
  | cons c cs ih =>
      have hc : isLineBoundary c = false := hcs c (by simp)
      have hpair : ¬IsPair c cs := by
        rintro ⟨rfl, -⟩
        cases hc
      have hne' : (c :: current).reverse ++ cs ≠ [] := by simp
      rw [linesFrom_cons hpair, hc, if_neg (by decide), ih (fun d hd => hcs d (by simp [hd])) hne']
      simp

theorem isLineBoundary_of_isDigit {c : Char} (hc : c.isDigit = true) :
    isLineBoundary c = false := by
  simp only [Char.isDigit, Bool.and_eq_true, decide_eq_true_eq, ge_iff_le,
    UInt32.le_iff_toNat_le] at hc
  have hzero : '0'.val.toNat = 48 := rfl
  have hnine : '9'.val.toNat = 57 := rfl
  have heq : c.toNat = c.val.toNat := rfl
  simp only [isLineBoundary, Bool.or_eq_false_iff, Bool.and_eq_false_iff, decide_eq_false_iff_not,
    beq_eq_false_iff_ne]
  omega

theorem piecesOf_of_unbroken (h : Unbroken r) : piecesOf r = [written r] := by
  have hne : (written r).toList ≠ [] := by
    rw [written_toList]
    simp
  have hunbroken : ∀ c ∈ (written r).toList, isLineBoundary c = false := by
    intro c hc
    simp only [written_toList, List.mem_append, List.mem_cons] at hc
    rcases hc with hc | rfl | hc | rfl | hc | rfl | hc
    · exact h.1 c hc
    · rfl
    · exact isLineBoundary_of_isDigit (isDigit_of_mem_toDigits hc)
    · rfl
    · exact isLineBoundary_of_isDigit (isDigit_of_mem_toDigits hc)
    · rfl
    · exact h.2 c hc
  have hlines : lines (written r).toList = [(written r).toList] :=
    linesFrom_of_unbroken hunbroken (by simpa using hne)
  simp [piecesOf, hlines, hne]

/-- What is read from a line between two ends of lines is unbroken. -/
theorem unbroken_of_read {line : String} (hline : line ∈ piecesOf r) {found : Record}
    (h : Record.read line = .ok (some found)) : Unbroken found := by
  obtain ⟨cs, hcs, rfl⟩ := List.mem_map.mp hline
  have hmem := (List.mem_filter.mp hcs).1
  have hunbroken : ∀ c ∈ cs, isLineBoundary c = false := unbroken_of_mem_linesFrom (by simp) cs hmem
  have hlayout := layout_of_read (by simpa using lineFeed_not_mem_lines hmem) h
  rw [String.toList_ofList] at hlayout
  obtain ⟨digits, digits', hparts, -, -⟩ := hlayout.parts
  constructor <;>
  · intro c hc
    apply hunbroken
    rw [hparts]
    simp [hc]

end Lines

section Calls

variable {rg : Ripgrep} {tool : SearchTool} {call : Invocation} {output errors : List UInt8}
  {limit : Int}

theorem isTooLong_of_le (hlimit : rg.maxOutput = .int limit) (hfits : output.length ≤ limit) :
    rg.isTooLong output = .ok false := by
  rw [Ripgrep.isTooLong, hlimit, Operand.greater_int, decide_eq_false (by omega)]

theorem run_of_fits (hlimit : rg.maxOutput = .int limit) (hfits : output.length ≤ limit)
    (hcall : tool call = .finished output errors 0) :
    rg.run tool call = .ok ⟨(filledLines output).map String.ofList, none⟩ := by
  simp only [Ripgrep.run, hcall, Ripgrep.interpret, isTooLong_of_le hlimit hfits]
  rfl

/-- The lines that come of an output of records are their written lines, cut wherever a character
ends lines. So the records are read back, each once and in order, exactly when no path and no text
holds such a character and no number is too long to be read. -/
theorem records_read_back_iff (hlimit : rg.maxOutput = .int limit)
    (hfits : (outputOf records).length ≤ limit) (hrecords : ∀ r ∈ records, FitsLine r)
    (hcall : tool call = .finished (outputOf records) errors 0) :
    ∃ report, rg.run tool call = .ok report ∧ report.complaint = none ∧
      report.lines = records.flatMap piecesOf ∧
      (report.lines.mapM Record.read = .ok (records.map some) ↔
        ∀ r ∈ records, Unbroken r ∧ Readable r) := by
  refine ⟨_, run_of_fits hlimit hfits hcall, rfl, filledLines_outputOf records, ?_⟩
  dsimp only
  rw [filledLines_outputOf]
  constructor
  · intro hread r hr
    obtain ⟨line, hline, hfound⟩ := exists_of_mem_mapM hread (List.mem_map_of_mem hr)
    obtain ⟨r', -, hpiece⟩ := List.mem_flatMap.mp hline
    exact ⟨unbroken_of_read hpiece hfound, readable_of_read hfound⟩
  · intro hall
    have hpieces : records.flatMap piecesOf = records.map written := by
      rw [List.map_eq_flatMap]
      exact List.flatMap_congr fun r hr => piecesOf_of_unbroken (hall r hr).1
    rw [hpieces, List.mapM_map]
    exact mapM_ok fun r hr => read_written (hrecords r hr) (hall r hr).2

-- Both are decided by going through the characters of a record, not through all that there are.
instance : Decidable (FitsLine r) :=
  decidable_of_iff
    (r.path.toList ≠ [] ∧
      (r.path.toList.all fun c => c != ':' && c != '\n' && c != '\r') = true ∧
      (r.text.toList.all fun c => c != '\n' && c != '\r') = true) <| by
    simp only [List.all_eq_true, Bool.and_eq_true, bne_iff_ne, and_assoc]
    exact ⟨fun ⟨h, hpath, htext⟩ => ⟨h, hpath, htext⟩, fun h => ⟨h.path_ne_nil, h.path, h.text⟩⟩

instance : Decidable (Unbroken r) :=
  decidable_of_iff
    ((r.path.toList.all fun c => !isLineBoundary c) = true ∧
      (r.text.toList.all fun c => !isLineBoundary c) = true) <| by
    simp only [List.all_eq_true, Bool.not_eq_true']
    rfl

/-- Records whose texts look like places themselves. -/
def colonRecords : List Record :=
  [⟨"src/é.ts", 12, 3, "x:1:2:y 🎉"⟩, ⟨"b.ts", 1, 1, ""⟩, ⟨"b.ts", 20, 7, "\t:3:4:"⟩]

theorem records_read_back_iff_sample :
    (outputOf colonRecords).length ≤ 100 ∧ (∀ r ∈ colonRecords, FitsLine r) ∧
      ∃ report, Ripgrep.run ⟨.string "rg", .int 30, .int 100, .int 100⟩
          (fun _ => .finished (outputOf colonRecords) [] 0) ⟨[], [], [], "/"⟩ = .ok report ∧
        report.lines.mapM Record.read = .ok (colonRecords.map some) := by
  have hlength : (outputOf colonRecords).length ≤ 100 := by decide +kernel
  have hfits : ∀ r ∈ colonRecords, FitsLine r := by decide +kernel
  have hall : ∀ r ∈ colonRecords, Unbroken r ∧ Readable r := by
    have hunbroken : ∀ r ∈ colonRecords, Unbroken r := by decide +kernel
    have hsmall : ∀ r ∈ colonRecords, r.line < 10 ^ 2 ∧ r.column < 10 ^ 2 := by decide
    have hpow : 10 ^ 2 ≤ 10 ^ Decimal.maxDigits := Nat.pow_le_pow_right (by decide) (by decide)
    exact fun r hr => ⟨hunbroken r hr, (hsmall r hr).1.trans_le hpow, (hsmall r hr).2.trans_le hpow⟩
  obtain ⟨report, hrun, -, -, hread⟩ :=
    @records_read_back_iff colonRecords ⟨.string "rg", .int 30, .int 100, .int 100⟩
      (fun _ => .finished (outputOf colonRecords) [] 0) ⟨[], [], [], "/"⟩ [] 100 rfl
      (by exact_mod_cast hlength) hfits rfl
  exact ⟨hlength, hfits, report, hrun, hread.mpr hall⟩

/-- A form feed in the text of a record ends its line early. -/
theorem form_feed_ends_record :
    FitsLine ⟨"a.ts", 1, 1, "x\x0cy"⟩ ∧
      ∃ report, Ripgrep.run ⟨.string "rg", .int 30, .int 100, .int 100⟩
          (fun _ => .finished (outputOf [⟨"a.ts", 1, 1, "x\x0cy"⟩]) [] 0) ⟨[], [], [], "/"⟩ =
          .ok report ∧
        report.lines = ["a.ts:1:1:x", "y"] ∧
        report.lines.mapM Record.read = .ok [some ⟨"a.ts", 1, 1, "x"⟩, none] := by
  refine ⟨by decide +kernel, ⟨["a.ts:1:1:x", "y"], none⟩, ?_, rfl, ?_⟩
  · have hlines : (filledLines (outputOf [⟨"a.ts", 1, 1, "x\x0cy"⟩])).map String.ofList =
        ["a.ts:1:1:x", "y"] := by
      decide +kernel
    rw [run_of_fits rfl (by decide +kernel) rfl, hlines]
  · have hfirst : Record.read "a.ts:1:1:x" = .ok (some ⟨"a.ts", 1, 1, "x"⟩) := by rfl
    have hsecond : Record.read "y" = .ok none := by rfl
    rw [List.mapM_cons, List.mapM_cons, List.mapM_nil, hfirst, hsecond]
    rfl

end Calls

end SymbolSearch.Proofs.WrittenRecords
