import SymbolSearch.Proofs.JsonStrings

namespace SymbolSearch.Proofs.JsonText

open Json
open JsonStrings

variable {c : Char} {rest : List Char}

mutual

/-- A value without doubles and foreign parts, in which no object has two fields of one name. -/
def Plain : Json → Prop
  | .real _ | .foreign => False
  | .array items => PlainItems items
  | .object fields => (OrderedMap.keys fields).Nodup ∧ PlainFields fields
  | _ => True

/-- Every value of a list is plain. -/
def PlainItems : List Json → Prop
  | [] => True
  | v :: vs => Plain v ∧ PlainItems vs

/-- The value of every field is plain. -/
def PlainFields : List (String × Json) → Prop
  | [] => True
  | (_, v) :: fields => Plain v ∧ PlainFields fields

end

/-- What can stand behind a value in a text: nothing, a comma or a closing bracket. -/
def Closes (rest : List Char) : Prop :=
  ∀ c ∈ rest.head?, c = ',' ∨ c = ']' ∨ c = '\x7d'

theorem closes_nil : Closes [] := by
  simp [Closes]

theorem closes_cons (h : c = ',' ∨ c = ']' ∨ c = '\x7d') : Closes (c :: rest) := by
  simpa [Closes] using h

section Integers

theorem integerText_toList (n : Int) :
    (Decimal.integerText n).toList =
      if n < 0 then '-' :: Nat.toDigits 10 n.natAbs else Nat.toDigits 10 n.natAbs := by
  cases n with
  | ofNat n => simp [Decimal.integerText, Decimal.digits]
  | negSucc n => simp [Decimal.integerText, Decimal.digits]

theorem digitsValue_toDigits (n : Nat) : digitsValue (Nat.toDigits 10 n) = n := by
  have hfold : digitsValue = fun ds => Nat.ofDigitChars 10 ds 0 := by
    funext ds
    rw [digitsValue, Nat.ofDigitChars_eq_foldl]
    simp only [Nat.mul_comm]
    rfl
  rw [hfold]
  exact Nat.ofDigitChars_toDigits (by decide) (by decide)

theorem isDigit_of_mem_toDigits {n : Nat} (hc : c ∈ Nat.toDigits 10 n) : c.isDigit = true :=
  Nat.isDigit_of_mem_toDigits (by decide) (by decide) hc

theorem head?_toDigits_ne {n : Nat} (hn : 0 < n) : (Nat.toDigits 10 n).head? ≠ some '0' := by
  induction n using Nat.strongRecOn with
  | ind n ih =>
      by_cases hlt : n < 10
      · rw [Nat.toDigits_of_lt_base hlt, List.head?_cons, ne_eq, Option.some.injEq,
          Nat.digitChar_eq_zero]
        omega
      · have hhead := ih (n / 10) (by omega) (by omega)
        rw [Nat.toDigits_of_base_le (by decide) (by omega)]
        cases hds : Nat.toDigits 10 (n / 10) with
        | nil => exact absurd hds Nat.toDigits_ne_nil
        | cons d ds => simpa [hds] using hhead

theorem isDigit_of_closes (hrest : Closes rest) (hc : c ∈ rest.head?) : c.isDigit = false := by
  obtain rfl | rfl | rfl := hrest c hc <;> rfl

theorem span_isDigit_append {ds : List Char} (hds : ∀ d ∈ ds, d.isDigit = true)
    (hrest : Closes rest) :
    (ds ++ rest).takeWhile Char.isDigit = ds ∧ (ds ++ rest).dropWhile Char.isDigit = rest := by
  rw [List.takeWhile_append_of_pos hds, List.dropWhile_append_of_pos hds]
  cases rest with
  | nil => simp
  | cons c rest => simp [isDigit_of_closes hrest (c := c) (by simp)]

theorem wholePart?_toDigits (n : Nat) (hrest : Closes rest) :
    wholePart? (Nat.toDigits 10 n ++ rest) = some (Nat.toDigits 10 n, rest) := by
  have hdigits : ∀ d ∈ Nat.toDigits 10 n, d.isDigit = true := fun d => isDigit_of_mem_toDigits
  obtain ⟨htake, hdrop⟩ := span_isDigit_append hdigits hrest
  cases hds : Nat.toDigits 10 n with
  | nil => exact absurd hds Nat.toDigits_ne_nil
  | cons d ds =>
      have hd : d.isDigit = true := hdigits d (by rw [hds]; simp)
      rw [hds] at htake hdrop
      rw [List.cons_append] at htake hdrop ⊢
      rw [wholePart?]
      by_cases hzero : d = '0'
      · -- Only zero begins with a zero, and it has no other digits.
        have hn : n = 0 := by
          obtain hn | hn := Nat.eq_zero_or_pos n
          · exact hn
          · exact absurd (by rw [hds, hzero]; rfl) (head?_toDigits_ne hn)
        have hsingle : d :: ds = ['0'] := by
          rw [← hds, hn]
          rfl
        obtain ⟨rfl, rfl⟩ := List.cons.inj hsingle
        rfl
      · have hbeq : (d == '0') = false := by simpa using hzero
        rw [List.dropWhile_cons_of_pos hd] at hdrop
        simp only [hbeq, Bool.false_eq_true, if_false, hd, if_true, htake, hdrop]

theorem fractionPart_closes (hrest : Closes rest) : fractionPart rest = ([], rest) := by
  rw [fractionPart.eq_def]
  split
  · obtain h | h | h := hrest '.' rfl <;> cases h
  · rfl

theorem exponentPart?_closes (hrest : Closes rest) : exponentPart? rest = none := by
  cases rest with
  | nil => rfl
  | cons c rest => obtain rfl | rfl | rfl := hrest c rfl <;> rfl

theorem magnitude?_toDigits (negative : Bool) (n : Nat) (hrest : Closes rest) :
    magnitude? negative (Nat.toDigits 10 n ++ rest) =
      some (.int (if negative then -Int.ofNat n else Int.ofNat n), rest) := by
  rw [magnitude?, wholePart?_toDigits n hrest]
  simp [fractionPart_closes hrest, exponentPart?_closes hrest, digitsValue_toDigits]

theorem digit_ne {d : Char} (hd : d.isDigit = true) :
    d ≠ 'n' ∧ d ≠ 't' ∧ d ≠ 'f' ∧ d ≠ 'N' ∧ d ≠ 'I' ∧ d ≠ '-' := by
  refine ⟨?_, ?_, ?_, ?_, ?_, ?_⟩ <;>
  · rintro rfl
    cases hd

theorem scalar?_integerText (n : Int) (hrest : Closes rest) :
    scalar? ((Decimal.integerText n).toList ++ rest) = some (.int n, rest) := by
  have hmagnitude (negative : Bool) := magnitude?_toDigits negative n.natAbs hrest
  have hdigits : ∀ d ∈ Nat.toDigits 10 n.natAbs, d.isDigit = true :=
    fun d => isDigit_of_mem_toDigits
  rw [integerText_toList]
  cases hds : Nat.toDigits 10 n.natAbs with
  | nil => exact absurd hds Nat.toDigits_ne_nil
  | cons d ds =>
      obtain ⟨hn, ht, hf, hN, hI, hminus⟩ := digit_ne (hdigits d (by rw [hds]; simp))
      rw [hds] at hmagnitude
      split
      · rename_i hneg
        have hword : (wordValues.find? fun entry =>
            entry.1.isPrefixOf ('-' :: d :: ds ++ rest)) = none := by
          simp [wordValues, List.isPrefixOf, Ne.symm hI]
        unfold scalar?
        rw [hword]
        simp only [List.cons_append] at hmagnitude ⊢
        rw [hmagnitude true]
        simp only [if_true, Int.ofNat_eq_natCast]
        congr 3
        omega
      · rename_i hneg
        have hword : (wordValues.find? fun entry =>
            entry.1.isPrefixOf (d :: ds ++ rest)) = none := by
          simp [wordValues, List.isPrefixOf, Ne.symm hn, Ne.symm ht, Ne.symm hf, Ne.symm hN,
            Ne.symm hI, Ne.symm hminus]
        unfold scalar?
        rw [hword]
        simp only [List.cons_append] at hmagnitude ⊢
        split
        · rename_i heq
          cases heq
          exact absurd rfl hminus
        · rw [hmagnitude false]
          simp only [Bool.false_eq_true, if_false, Int.ofNat_eq_natCast]
          congr 3
          omega

end Integers

section Values

/-- The items of an array on one line, before what follows. -/
def itemsText (level : Nat) : List Json → List Char → List Char
  | [], rest => rest
  | v :: vs, rest =>
      write .compact (level + 1) v (writeItems .compact level vs rest)

/-- The fields of an object on one line, before what follows. -/
def fieldsText (level : Nat) : List (String × Json) → List Char → List Char
  | [], rest => rest
  | (k, v) :: fields, rest =>
      quote k (':' :: ' ' ::
        write .compact (level + 1) v (writeFields .compact level fields rest))

theorem write_array (level : Nat) (v : Json) (vs : List Json) (rest : List Char) :
    write .compact level (.array (v :: vs)) rest =
      '[' :: itemsText level (v :: vs) (']' :: rest) := by
  rw [write]
  rfl

theorem write_object (level : Nat) (k : String) (v : Json) (fields : List (String × Json))
    (rest : List Char) :
    write .compact level (.object ((k, v) :: fields)) rest =
      '\x7b' :: fieldsText level ((k, v) :: fields) ('\x7d' :: rest) := by
  rw [write]
  rfl

theorem writeItems_eq (level : Nat) (v : Json) (vs : List Json) (rest : List Char) :
    writeItems .compact level (v :: vs) rest = ',' :: ' ' :: itemsText level (v :: vs) rest := by
  rw [writeItems]
  rfl

theorem writeFields_eq (level : Nat) (k : String) (v : Json) (fields : List (String × Json))
    (rest : List Char) :
    writeFields .compact level ((k, v) :: fields) rest =
      ',' :: ' ' :: fieldsText level ((k, v) :: fields) rest := by
  rw [writeFields]
  rfl

mutual

theorem length_le_write (layout : Layout) : ∀ (v : Json) (level : Nat) (rest : List Char),
    rest.length ≤ (write layout level v rest).length
  | .null, _, _ | .bool true, _, _ | .bool false, _, _ | .int _, _, _ | .real _, _, _
  | .array [], _, _ | .object [], _, _ | .foreign, _, _ => by
      simp [write] <;> omega
  | .string s, _, rest => by
      have hchars := length_add_le_length_writeChars s.toList ('"' :: rest)
      simp only [write, quote, List.length_cons] at hchars ⊢
      omega
  | .array (v :: vs), level, rest => by
      have hitems := length_le_writeItems layout vs level (layout.closing level ++ ']' :: rest)
      have hv := length_le_write layout v (level + 1)
        (writeItems layout level vs (layout.closing level ++ ']' :: rest))
      simp only [write, List.length_cons, List.length_append] at hitems hv ⊢
      omega
  | .object ((k, v) :: fields), level, rest => by
      have hfields :=
        length_le_writeFields layout fields level (layout.closing level ++ '\x7d' :: rest)
      have hv := length_le_write layout v (level + 1)
        (writeFields layout level fields (layout.closing level ++ '\x7d' :: rest))
      have hk := length_add_le_length_writeChars k.toList
        ('"' :: ':' :: ' ' :: write layout (level + 1) v
          (writeFields layout level fields (layout.closing level ++ '\x7d' :: rest)))
      simp only [write, quote, List.length_cons, List.length_append] at hfields hv hk ⊢
      omega

theorem length_le_writeItems (layout : Layout) : ∀ (vs : List Json) (level : Nat)
    (rest : List Char), rest.length ≤ (writeItems layout level vs rest).length
  | [], _, _ => by simp [writeItems]
  | v :: vs, level, rest => by
      have hitems := length_le_writeItems layout vs level rest
      have hv := length_le_write layout v (level + 1) (writeItems layout level vs rest)
      simp only [writeItems, List.length_append]
      omega

theorem length_le_writeFields (layout : Layout) : ∀ (fields : List (String × Json))
    (level : Nat) (rest : List Char),
    rest.length ≤ (writeFields layout level fields rest).length
  | [], _, _ => by simp [writeFields]
  | (k, v) :: fields, level, rest => by
      have hfields := length_le_writeFields layout fields level rest
      have hv := length_le_write layout v (level + 1) (writeFields layout level fields rest)
      have hk := length_add_le_length_writeChars k.toList
        ('"' :: ':' :: ' ' :: write layout (level + 1) v
          (writeFields layout level fields rest))
      simp only [writeFields, quote, List.length_cons, List.length_append] at hk ⊢
      omega

end

theorem length_le_itemsText (items : List Json) (level : Nat) (rest : List Char) :
    rest.length ≤ (itemsText level items rest).length := by
  cases items with
  | nil => exact Nat.le_refl _
  | cons v vs =>
      exact Nat.le_trans (length_le_writeItems .compact vs level rest)
        (length_le_write .compact v (level + 1) _)

theorem length_le_fieldsText (fields : List (String × Json)) (level : Nat)
    (rest : List Char) : rest.length ≤ (fieldsText level fields rest).length := by
  cases fields with
  | nil => exact Nat.le_refl _
  | cons entry fields =>
      obtain ⟨k, v⟩ := entry
      have hv := length_le_write .compact v (level + 1) (writeFields .compact level fields rest)
      have hfields := length_le_writeFields .compact fields level rest
      have hk := length_add_le_length_writeChars k.toList
        ('"' :: ':' :: ' ' :: write .compact (level + 1) v
          (writeFields .compact level fields rest))
      simp only [fieldsText, quote, List.length_cons] at hk ⊢
      omega

/-- What a value can begin with: no white space and no closing bracket. -/
def Opens (c : Char) : Prop :=
  isSpace c = false ∧ c ≠ ']' ∧ c ≠ '\x7d'

theorem opens_of_isDigit (hc : c.isDigit = true) : Opens c := by
  refine ⟨?_, ?_, ?_⟩
  · rw [Bool.eq_false_iff]
    intro hspace
    simp only [isSpace, Bool.or_eq_true, beq_iff_eq] at hspace
    obtain ((rfl | rfl) | rfl) | rfl := hspace <;> cases hc
  · rintro rfl
    cases hc
  · rintro rfl
    cases hc

theorem exists_integerText_eq_cons (n : Int) (rest : List Char) :
    ∃ c cs, (Decimal.integerText n).toList ++ rest = c :: cs ∧ (c = '-' ∨ c.isDigit = true) := by
  rw [integerText_toList]
  split
  · exact ⟨_, _, rfl, Or.inl rfl⟩
  · cases hds : Nat.toDigits 10 n.natAbs with
    | nil => exact absurd hds Nat.toDigits_ne_nil
    | cons d ds =>
        have hd : d ∈ Nat.toDigits 10 n.natAbs := by simp [hds]
        exact ⟨d, ds ++ rest, rfl, Or.inr (isDigit_of_mem_toDigits hd)⟩

theorem exists_write_eq_cons {v : Json} (hv : Plain v) (level : Nat) (rest : List Char) :
    ∃ c cs, write .compact level v rest = c :: cs ∧ Opens c := by
  have hopens (c : Char) (h : c ∈ ['n', 't', 'f', '-', '"', '[', '\x7b']) : Opens c := by
    simp only [List.mem_cons, List.not_mem_nil, or_false] at h
    obtain rfl | rfl | rfl | rfl | rfl | rfl | rfl := h <;>
      exact ⟨rfl, by decide, by decide⟩
  match v with
  | .null => exact ⟨_, _, rfl, hopens 'n' (by decide)⟩
  | .bool true => exact ⟨_, _, rfl, hopens 't' (by decide)⟩
  | .bool false => exact ⟨_, _, rfl, hopens 'f' (by decide)⟩
  | .int n =>
      obtain ⟨c, cs, hcs, rfl | hc⟩ := exists_integerText_eq_cons n rest
      · exact ⟨'-', cs, hcs, hopens '-' (by decide)⟩
      · exact ⟨c, cs, hcs, opens_of_isDigit hc⟩
  | .real _ => cases hv
  | .string s => exact ⟨_, _, rfl, hopens '"' (by decide)⟩
  | .array [] => exact ⟨_, _, rfl, hopens '[' (by decide)⟩
  | .array (v :: vs) => exact ⟨_, _, write_array level v vs rest, hopens '[' (by decide)⟩
  | .object [] => exact ⟨_, _, rfl, hopens '\x7b' (by decide)⟩
  | .object ((k, v) :: fields) =>
      exact ⟨_, _, write_object level k v fields rest, hopens '\x7b' (by decide)⟩
  | .foreign => cases hv

theorem skipSpace_cons (hc : isSpace c = false) : skipSpace (c :: rest) = c :: rest := by
  simp [skipSpace, hc]

theorem skipSpace_write {v : Json} (hv : Plain v) (level : Nat) (rest : List Char) :
    skipSpace (write .compact level v rest) = write .compact level v rest := by
  obtain ⟨c, cs, hcs, hc⟩ := exists_write_eq_cons hv level rest
  rw [hcs, skipSpace_cons hc.1]

theorem value?_integerText (n : Int) (fuel : Nat) (hrest : Closes rest) :
    value? (fuel + 1) ((Decimal.integerText n).toList ++ rest) = some (.int n, rest) := by
  have hscalar := scalar?_integerText n hrest
  obtain ⟨c, cs, hcs, hc⟩ := exists_integerText_eq_cons n rest
  rw [hcs] at hscalar ⊢
  rw [value?.eq_def]
  dsimp only
  split
  · rename_i heq
    cases heq
    simp at hc
  · rename_i heq
    cases heq
    simp at hc
  · rename_i heq
    cases heq
    simp at hc
  · exact hscalar

theorem value?_bracket {fuel : Nat} {cs : List Char} (hc : Opens c) :
    value? (fuel + 1) ('[' :: c :: cs) =
      (items? fuel (c :: cs)).map fun (vs, rest) => (.array vs, rest) := by
  simp only [value?, skipSpace_cons hc.1]
  split
  · rename_i heq
    cases heq
    exact absurd rfl hc.2.1
  · rfl

theorem value?_brace {fuel : Nat} {cs : List Char} :
    value? (fuel + 1) ('\x7b' :: '"' :: cs) =
      (fields? fuel ('"' :: cs)).map fun (fs, rest) => (.object (OrderedMap.ofList fs), rest) := by
  rw [value?.eq_def]
  rfl

theorem closes_writeItems (level : Nat) (vs : List Json) (rest : List Char) :
    Closes (writeItems .compact level vs (']' :: rest)) := by
  cases vs with
  | nil => exact closes_cons (by simp)
  | cons v vs =>
      rw [writeItems_eq]
      exact closes_cons (by simp)

theorem closes_writeFields (level : Nat) (fields : List (String × Json)) (rest : List Char) :
    Closes (writeFields .compact level fields ('\x7d' :: rest)) := by
  cases fields with
  | nil => exact closes_cons (by simp)
  | cons entry fields =>
      rw [writeFields_eq]
      exact closes_cons (by simp)

mutual

/-- A written value is read back, with what follows left over. It is enough when the fuel covers the
text of the value. -/
theorem value?_write : ∀ (v : Json) (level fuel : Nat) (rest : List Char), Plain v →
    Closes rest → (write .compact level v rest).length ≤ fuel + rest.length →
    value? fuel (write .compact level v rest) = some (v, rest)
  | .null, level, fuel, rest, _, _, hfuel | .bool true, level, fuel, rest, _, _, hfuel
  | .bool false, level, fuel, rest, _, _, hfuel | .array [], level, fuel, rest, _, _, hfuel
  | .object [], level, fuel, rest, _, _, hfuel => by
      obtain ⟨fuel, rfl⟩ : ∃ n, fuel = n + 1 :=
        ⟨fuel - 1, by simp only [write, List.length_cons] at hfuel; omega⟩
      rfl
  | .int n, level, fuel, rest, _, hrest, hfuel => by
      have hpos : rest.length < ((Decimal.integerText n).toList ++ rest).length := by
        obtain ⟨c, cs, hcs, -⟩ := exists_integerText_eq_cons n []
        rw [List.append_nil] at hcs
        simp only [hcs, List.length_append, List.length_cons]
        omega
      rw [write] at hfuel ⊢
      obtain ⟨fuel, rfl⟩ : ∃ n, fuel = n + 1 := ⟨fuel - 1, by omega⟩
      exact value?_integerText n fuel hrest
  | .real _, _, _, _, hv, _, _ => by cases hv
  | .foreign, _, _, _, hv, _, _ => by cases hv
  | .string s, level, fuel, rest, _, _, hfuel => by
      have hchars := length_add_le_length_writeChars s.toList ('"' :: rest)
      simp only [write, quote, List.length_cons] at hchars hfuel
      obtain ⟨fuel, rfl⟩ : ∃ n, fuel = n + 1 := ⟨fuel - 1, by omega⟩
      have hbody : stringBody? fuel (writeChars s.toList ('"' :: rest)) = some (s.toList, rest) :=
        stringBody?_writeChars _ _ (by omega)
      simp only [write, quote, value?, hbody, Option.map_some, String.ofList_toList]
  | .array (v :: vs), level, fuel, rest, hv, _, hfuel => by
      have hplain : Plain v ∧ PlainItems vs := hv
      obtain ⟨c, cs, hcs, hc⟩ := exists_write_eq_cons hplain.1 (level + 1)
        (writeItems .compact level vs (']' :: rest))
      have hlength := length_le_itemsText (v :: vs) level (']' :: rest)
      rw [List.length_cons] at hlength
      rw [write_array, List.length_cons] at hfuel
      obtain ⟨fuel, rfl⟩ : ∃ n, fuel = n + 1 := ⟨fuel - 1, by omega⟩
      have hitems := items?_write (v :: vs) level fuel rest (by simp) hv (by omega)
      have htext : itemsText level (v :: vs) (']' :: rest) = c :: cs := hcs
      rw [write_array]
      rw [htext] at hitems ⊢
      rw [value?_bracket hc, hitems]
      rfl
  | .object ((k, v) :: fields), level, fuel, rest, hv, _, hfuel => by
      have hplain : (OrderedMap.keys ((k, v) :: fields)).Nodup ∧
          PlainFields ((k, v) :: fields) := hv
      have hlength := length_le_fieldsText ((k, v) :: fields) level ('\x7d' :: rest)
      rw [List.length_cons] at hlength
      rw [write_object, List.length_cons] at hfuel
      obtain ⟨fuel, rfl⟩ : ∃ n, fuel = n + 1 := ⟨fuel - 1, by omega⟩
      have hfields := fields?_write ((k, v) :: fields) level fuel rest (by simp) hplain.2
        (by omega)
      rw [write_object]
      rw [fieldsText, quote] at hfields ⊢
      rw [value?_brace, hfields]
      simp only [Option.map_some, OrderedMap.ofList_eq_self hplain.1]

theorem items?_write : ∀ (items : List Json) (level fuel : Nat) (rest : List Char),
    items ≠ [] → PlainItems items →
    (itemsText level items (']' :: rest)).length ≤ fuel + rest.length →
    items? fuel (itemsText level items (']' :: rest)) = some (items, rest)
  | [], _, _, _, hne, _, _ => absurd rfl hne
  | v :: vs, level, fuel, rest, _, hitems, hfuel => by
      have hplain : Plain v ∧ PlainItems vs := hitems
      have hlength := length_le_write .compact v (level + 1)
        (writeItems .compact level vs (']' :: rest))
      have htail := length_le_writeItems .compact vs level (']' :: rest)
      rw [List.length_cons] at htail
      rw [itemsText] at hfuel ⊢
      obtain ⟨fuel, rfl⟩ : ∃ n, fuel = n + 1 := ⟨fuel - 1, by omega⟩
      have hvalue := value?_write v (level + 1) fuel
        (writeItems .compact level vs (']' :: rest)) hplain.1
        (closes_writeItems level vs rest) (by omega)
      cases vs with
      | nil =>
          rw [items?, hvalue]
          rfl
      | cons w ws =>
          simp only [writeItems_eq, List.length_cons] at hlength hfuel
          have hrest := items?_write (w :: ws) level fuel rest (by simp) hplain.2 (by omega)
          have hskip : skipSpace (' ' :: itemsText level (w :: ws) (']' :: rest)) =
              itemsText level (w :: ws) (']' :: rest) :=
            skipSpace_write hplain.2.1 (level + 1) _
          rw [writeItems_eq] at hvalue ⊢
          rw [items?, hvalue]
          simp only [skipSpace_cons (rfl : isSpace ',' = false), hskip, hrest, Option.map_some]

theorem fields?_write : ∀ (fields : List (String × Json)) (level fuel : Nat)
    (rest : List Char), fields ≠ [] → PlainFields fields →
    (fieldsText level fields ('\x7d' :: rest)).length ≤ fuel + rest.length →
    fields? fuel (fieldsText level fields ('\x7d' :: rest)) = some (fields, rest)
  | [], _, _, _, hne, _, _ => absurd rfl hne
  | (k, v) :: fields, level, fuel, rest, _, hfields, hfuel => by
      have hplain : Plain v ∧ PlainFields fields := hfields
      have hlength := length_le_write .compact v (level + 1)
        (writeFields .compact level fields ('\x7d' :: rest))
      have htail := length_le_writeFields .compact fields level ('\x7d' :: rest)
      have hk := length_add_le_length_writeChars k.toList
        ('"' :: ':' :: ' ' :: write .compact (level + 1) v
          (writeFields .compact level fields ('\x7d' :: rest)))
      rw [fieldsText, quote] at hfuel ⊢
      simp only [List.length_cons] at htail hk hfuel
      obtain ⟨fuel, rfl⟩ : ∃ n, fuel = n + 1 := ⟨fuel - 1, by omega⟩
      have hname := stringBody?_writeChars k.toList (':' :: ' ' ::
        write .compact (level + 1) v (writeFields .compact level fields ('\x7d' :: rest)))
        (by omega : k.toList.length < fuel)
      have hvalue := value?_write v (level + 1) fuel
        (writeFields .compact level fields ('\x7d' :: rest)) hplain.1
        (closes_writeFields level fields rest) (by omega)
      have hskip (text : List Char) :
          skipSpace (' ' :: write .compact (level + 1) v text) =
            write .compact (level + 1) v text :=
        skipSpace_write hplain.1 (level + 1) text
      cases fields with
      | nil =>
          rw [fields?, hname]
          simp only [skipSpace_cons (rfl : isSpace ':' = false), hskip, hvalue,
            String.ofList_toList]
          rfl
      | cons entry fields =>
          obtain ⟨k', v'⟩ := entry
          simp only [writeFields_eq, List.length_cons] at hlength hfuel hk
          have hrest := fields?_write ((k', v') :: fields) level fuel rest (by simp) hplain.2
            (by omega)
          have hskipName : skipSpace (' ' :: fieldsText level ((k', v') :: fields)
              ('\x7d' :: rest)) = fieldsText level ((k', v') :: fields) ('\x7d' :: rest) := rfl
          rw [writeFields_eq] at hname hvalue ⊢
          rw [fields?, hname]
          simp only [skipSpace_cons (rfl : isSpace ':' = false), hskip, hvalue,
            skipSpace_cons (rfl : isSpace ',' = false), hskipName, hrest, Option.map_some,
            String.ofList_toList]

end

theorem parse?_line {v : Json} (hv : Plain v) : parse? v.line = some v := by
  have hvalue := value?_write v 0 (2 * (write .compact 0 v []).length + 2) [] hv closes_nil
    (by omega)
  rw [line, parse?, String.toList_ofList, skipSpace_write hv]
  simp only [hvalue]
  rfl

end Values

end SymbolSearch.Proofs.JsonText
