import Mathlib.Tactic.SplitIfs
import SymbolSearch.Json.Limits
import SymbolSearch.Json.Printer

namespace SymbolSearch.Proofs.JsonStrings

open Json

variable {c : Char} {cs rest : List Char}

section Escapes

theorem hexValue?_hexDigit : ∀ n < 16, hexValue? (hexDigit n) = some n := by
  decide

theorem hexUnit?_escapeUnit {n : Nat} (hn : n < 65536) :
    hexUnit? (hexDigit (n / 4096 % 16)) (hexDigit (n / 256 % 16)) (hexDigit (n / 16 % 16))
      (hexDigit (n % 16)) = some n := by
  have hsum : n / 4096 % 16 * 4096 + n / 256 % 16 * 256 + n / 16 % 16 * 16 + n % 16 = n := by
    omega
  simp only [hexUnit?, hexValue?_hexDigit _ (Nat.mod_lt _ (by decide)), Option.pure_def,
    Option.bind_eq_bind, Option.bind_some, hsum]

theorem stringPiece?_unit {n : Nat} (hn : n < 65536) :
    stringPiece? (escapeUnit n ++ rest) =
      if 0xd800 ≤ n && n < 0xdc00 then
        match lowHalf? rest with
        | some (low, rest') =>
            some (some (Char.ofNat (0x10000 + (n - 0xd800) * 0x400 + (low - 0xdc00))), rest')
        | none => some (some (charOfUnit n), rest)
      else some (some (charOfUnit n), rest) := by
  change stringPiece? ('\\' :: 'u' :: _ :: _ :: _ :: _ :: rest) = _
  rw [stringPiece?]
  exact hexUnit?_escapeUnit hn ▸ rfl

theorem stringPiece?_escapeUnit {n : Nat} (hn : n < 65536) (hlow : ¬(0xd800 ≤ n ∧ n < 0xdc00)) :
    stringPiece? (escapeUnit n ++ rest) = some (some (charOfUnit n), rest) := by
  rw [stringPiece?_unit hn, if_neg (by simpa using hlow)]

theorem lowHalf?_escapeUnit {low : Nat} (hlow : 0xdc00 ≤ low ∧ low < 0xe000) :
    lowHalf? (escapeUnit low ++ rest) = some (low, rest) := by
  change lowHalf? ('\\' :: 'u' :: _ :: _ :: _ :: _ :: rest) = _
  rw [lowHalf?, hexUnit?_escapeUnit (by omega)]
  exact if_pos (by simpa using hlow)

theorem stringPiece?_escapePair {high low : Nat} (hhigh : 0xd800 ≤ high ∧ high < 0xdc00)
    (hlow : 0xdc00 ≤ low ∧ low < 0xe000) :
    stringPiece? (escapeUnit high ++ escapeUnit low ++ rest) =
      some (some (Char.ofNat (0x10000 + (high - 0xd800) * 0x400 + (low - 0xdc00))), rest) := by
  rw [List.append_assoc, stringPiece?_unit (by omega), if_pos (by simpa using hhigh),
    lowHalf?_escapeUnit hlow]

theorem toNat_not_half (c : Char) : ¬(0xd800 ≤ c.toNat ∧ c.toNat < 0xe000) := by
  have hvalid : c.toNat.isValidChar := c.valid
  rcases hvalid with h | h <;> omega

theorem toNat_lt (c : Char) : c.toNat < 0x110000 := by
  have hvalid : c.toNat.isValidChar := c.valid
  rcases hvalid with h | h <;> omega

theorem stringPiece?_simple {d : Char} (hu : d ≠ 'u') (hd : simpleEscape? d = some c) :
    stringPiece? ('\\' :: d :: rest) = some (some c, rest) := by
  rw [stringPiece?.eq_def]
  split
  · rename_i heq
    cases heq
  · rename_i heq
    cases heq
    exact absurd rfl hu
  · rename_i heq
    cases heq
    rw [hd]
    rfl
  · rename_i hne heq
    cases heq
    exact (hne _ _ rfl rfl).elim
  · rename_i heq
    cases heq

theorem escape_cases (c : Char) :
    (∃ d, d ≠ 'u' ∧ simpleEscape? d = some c ∧ escape c = ['\\', d]) ∨
      (c.toNat < 0x10000 ∧ escape c = escapeUnit c.toNat) ∨
      (0x10000 ≤ c.toNat ∧ escape c =
        escapeUnit (0xd800 + (c.toNat - 0x10000) / 0x400) ++
          escapeUnit (0xdc00 + (c.toNat - 0x10000) % 0x400)) := by
  have hletter (d e : Char) (hd : d ≠ 'u') (he : simpleEscape? d = some e) (hc : c = e) :
      ∃ d', d' ≠ 'u' ∧ simpleEscape? d' = some c ∧ ['\\', d] = ['\\', d'] :=
    ⟨d, hd, hc ▸ he, rfl⟩
  have hcode (n : Nat) (hn : (c.toNat == n) = true) : c = Char.ofNat n := by
    rw [← beq_iff_eq.mp hn, Char.ofNat_toNat]
  unfold escape
  split_ifs with hquote hslash hline hreturn htab hback hfeed hunit
  · exact Or.inl (hletter '"' '"' (by decide) rfl (beq_iff_eq.mp hquote))
  · exact Or.inl (hletter '\\' '\\' (by decide) rfl (beq_iff_eq.mp hslash))
  · exact Or.inl (hletter 'n' '\n' (by decide) rfl (beq_iff_eq.mp hline))
  · exact Or.inl (hletter 'r' '\r' (by decide) rfl (beq_iff_eq.mp hreturn))
  · exact Or.inl (hletter 't' '\t' (by decide) rfl (beq_iff_eq.mp htab))
  · exact Or.inl (hletter 'b' _ (by decide) rfl (hcode 8 hback))
  · exact Or.inl (hletter 'f' _ (by decide) rfl (hcode 12 hfeed))
  · exact Or.inr (Or.inl ⟨hunit, rfl⟩)
  · exact Or.inr (Or.inr ⟨by omega, rfl⟩)

theorem stringPiece?_escape (c : Char) (rest : List Char) :
    stringPiece? (escape c ++ rest) = some (some c, rest) := by
  have hhalf := toNat_not_half c
  have hlt := toNat_lt c
  obtain ⟨d, hu, hd, hescape⟩ | ⟨hunit, hescape⟩ | ⟨hpair, hescape⟩ := escape_cases c
  · rw [hescape]
    exact stringPiece?_simple hu hd
  · rw [hescape, stringPiece?_escapeUnit hunit (by omega), charOfUnit,
      if_neg (by simpa using hhalf), Char.ofNat_toNat]
  · have hsum : 0x10000 + (0xd800 + (c.toNat - 0x10000) / 0x400 - 0xd800) * 0x400 +
        (0xdc00 + (c.toNat - 0x10000) % 0x400 - 0xdc00) = c.toNat := by
      omega
    rw [hescape, stringPiece?_escapePair ⟨by omega, by omega⟩ ⟨by omega, by omega⟩, hsum,
      Char.ofNat_toNat]

theorem isPlain_iff : isPlain c = true ↔
    32 ≤ c.toNat ∧ c.toNat ≤ 126 ∧ c ≠ '"' ∧ c ≠ '\\' := by
  have hlow : (' ' ≤ c) ↔ 32 ≤ c.toNat := Iff.rfl
  have hhigh : (c ≤ '~') ↔ c.toNat ≤ 126 := Iff.rfl
  simp [isPlain, hlow, hhigh, and_assoc]

theorem stringPiece?_plain (hc : isPlain c = true) :
    stringPiece? (c :: rest) = some (some c, rest) := by
  obtain ⟨hlow, -, hquote, hslash⟩ := isPlain_iff.mp hc
  rw [stringPiece?.eq_def]
  split
  · rename_i heq
    cases heq
    exact absurd rfl hquote
  · rename_i heq
    cases heq
    exact absurd rfl hslash
  · rename_i heq
    cases heq
    exact absurd rfl hslash
  · rename_i heq
    cases heq
    rw [if_neg]
    simp only [Bool.or_eq_true, decide_eq_true_eq, beq_iff_eq, not_or]
    exact ⟨by omega, hslash⟩
  · rename_i heq
    cases heq

end Escapes

section Bodies

theorem stringBody?_writeChars (cs rest : List Char) {fuel : Nat} (hfuel : cs.length < fuel) :
    stringBody? fuel (writeChars cs ('"' :: rest)) = some (cs, rest) := by
  induction cs generalizing fuel with
  | nil =>
      obtain ⟨fuel, rfl⟩ : ∃ n, fuel = n + 1 := ⟨fuel - 1, by simp at hfuel; omega⟩
      rfl
  | cons c cs ih =>
      obtain ⟨fuel, rfl⟩ : ∃ n, fuel = n + 1 := ⟨fuel - 1, by omega⟩
      have hrest := ih (by simpa using hfuel : cs.length < fuel)
      have hpiece : stringPiece? (writeChars (c :: cs) ('"' :: rest)) =
          some (some c, writeChars cs ('"' :: rest)) := by
        rw [writeChars]
        split
        · rename_i hc
          exact stringPiece?_plain hc
        · exact stringPiece?_escape c _
      rw [stringBody?, hpiece]
      simp only [hrest, Option.map_some]

theorem length_escape_pos (c : Char) : 0 < (escape c).length := by
  obtain ⟨d, -, -, hescape⟩ | ⟨-, hescape⟩ | ⟨-, hescape⟩ := escape_cases c <;>
    simp [hescape, escapeUnit]

theorem length_add_le_length_writeChars (cs rest : List Char) :
    cs.length + rest.length ≤ (writeChars cs rest).length := by
  induction cs with
  | nil => simp [writeChars]
  | cons c cs ih =>
      rw [writeChars]
      split
      · simp only [List.length_cons]
        omega
      · have hescape := length_escape_pos c
        simp only [List.length_cons, List.length_append]
        omega

end Bodies

section Skipping

theorem skipString_cons (hquote : c ≠ '"') (hslash : c ≠ '\\') :
    skipString (c :: rest) = skipString rest := by
  rw [skipString.eq_def]
  split
  · rename_i heq
    cases heq
  · rename_i heq
    cases heq
    exact absurd rfl hquote
  · rename_i heq
    cases heq
    exact absurd rfl hslash
  · rename_i heq
    cases heq
    rfl

theorem hexDigit_ne (n : Nat) (hn : n < 16) : hexDigit n ≠ '"' ∧ hexDigit n ≠ '\\' := by
  revert n
  decide

theorem skipString_escapeUnit (n : Nat) :
    skipString (escapeUnit n ++ rest) = skipString rest := by
  have hne (m : Nat) := hexDigit_ne (m % 16) (Nat.mod_lt _ (by decide))
  simp only [escapeUnit, List.cons_append, List.nil_append]
  rw [skipString, skipString_cons (hne _).1 (hne _).2, skipString_cons (hne _).1 (hne _).2,
    skipString_cons (hne _).1 (hne _).2, skipString_cons (hne _).1 (hne _).2]

theorem skipString_escape (c : Char) : skipString (escape c ++ rest) = skipString rest := by
  obtain ⟨d, -, -, hescape⟩ | ⟨-, hescape⟩ | ⟨-, hescape⟩ := escape_cases c
  · rw [hescape]
    rfl
  · rw [hescape, skipString_escapeUnit]
  · rw [hescape, List.append_assoc, skipString_escapeUnit, skipString_escapeUnit]

theorem skipString_writeChars (cs rest : List Char) :
    skipString (writeChars cs ('"' :: rest)) = rest := by
  induction cs with
  | nil => rfl
  | cons c cs ih =>
      rw [writeChars]
      split
      · rename_i hc
        obtain ⟨-, -, hquote, hslash⟩ := isPlain_iff.mp hc
        rw [skipString_cons hquote hslash, ih]
      · rw [skipString_escape, ih]

end Skipping

end SymbolSearch.Proofs.JsonStrings
