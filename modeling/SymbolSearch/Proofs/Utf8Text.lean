import SymbolSearch.Text.Utf8

namespace SymbolSearch.Proofs.Utf8Text

open Text
open Text.Utf8

variable {v : Nat} {rest : List UInt8}

theorem toNat_byte {n : Nat} (hn : n < 256) : (UInt8.ofNat n).toNat = n :=
  Nat.mod_eq_of_lt hn

section Sequences

variable {low high : Nat}

theorem decodeFrom_next {need value n : Nat} (hn : n < 256) (hlow : low ≤ n) (hhigh : n ≤ high) :
    decodeFrom (some ⟨need, value, low, high⟩) (UInt8.ofNat n :: rest) =
      if need = 1 then Char.ofNat (value * 64 + (n - 0x80)) :: decodeFrom none rest
      else decodeFrom (some ⟨need - 1, value * 64 + (n - 0x80), 0x80, 0xbf⟩) rest := by
  simp only [decodeFrom, toNat_byte hn, hlow, hhigh, decide_true, Bool.and_self, if_true,
    beq_iff_eq]

theorem decodeFrom_last (hlow : low ≤ v % 64 + 128) (hhigh : v % 64 + 128 ≤ high) :
    decodeFrom (some ⟨1, v / 64, low, high⟩) (UInt8.ofNat (v % 64 + 128) :: rest) =
      Char.ofNat v :: decodeFrom none rest := by
  have hvalue : v / 64 * 64 + (v % 64 + 128 - 0x80) = v := by omega
  rw [decodeFrom_next (by omega) hlow hhigh, if_pos rfl, hvalue]

theorem decodeFrom_last_two (hlow : low ≤ v / 64 % 64 + 128) (hhigh : v / 64 % 64 + 128 ≤ high) :
    decodeFrom (some ⟨2, v / 4096, low, high⟩)
        (UInt8.ofNat (v / 64 % 64 + 128) :: UInt8.ofNat (v % 64 + 128) :: rest) =
      Char.ofNat v :: decodeFrom none rest := by
  have hvalue : v / 4096 * 64 + (v / 64 % 64 + 128 - 0x80) = v / 64 := by omega
  rw [decodeFrom_next (by omega) hlow hhigh, if_neg (by omega), hvalue]
  exact decodeFrom_last (by omega) (by omega)

theorem decodeFrom_last_three (hlow : low ≤ v / 4096 % 64 + 128)
    (hhigh : v / 4096 % 64 + 128 ≤ high) :
    decodeFrom (some ⟨3, v / 262144, low, high⟩)
        (UInt8.ofNat (v / 4096 % 64 + 128) :: UInt8.ofNat (v / 64 % 64 + 128) ::
          UInt8.ofNat (v % 64 + 128) :: rest) =
      Char.ofNat v :: decodeFrom none rest := by
  have hvalue : v / 262144 * 64 + (v / 4096 % 64 + 128 - 0x80) = v / 4096 := by omega
  rw [decodeFrom_next (by omega) hlow hhigh, if_neg (by omega), hvalue]
  exact decodeFrom_last_two (by omega) (by omega)

end Sequences

theorem decodeFrom_start {n : Nat} (hn : n < 256) :
    decodeFrom none (UInt8.ofNat n :: rest) = (start n).1 ++ decodeFrom (start n).2 rest := by
  rw [decodeFrom, toNat_byte hn]

theorem start_two (hlow : 0x80 ≤ v) (hhigh : v < 0x800) :
    start (v / 64 % 32 + 192) = ([], some ⟨1, v / 64, 0x80, 0xbf⟩) := by
  have hlead : v / 64 % 32 + 192 = v / 64 + 192 := by omega
  rw [hlead, start, if_neg (by omega), if_neg (by omega), if_pos (by omega), Nat.add_sub_cancel]

/-- The first of three bytes. The bounds that it sets keep out what two bytes could say, and halves
of pairs. -/
theorem start_three (hlow : 0x800 ≤ v) (hhigh : v < 0x10000)
    (hhalf : ¬(0xd800 ≤ v ∧ v < 0xe000)) :
    ∃ low high, start (v / 4096 % 16 + 224) = ([], some ⟨2, v / 4096, low, high⟩) ∧
      low ≤ v / 64 % 64 + 128 ∧ v / 64 % 64 + 128 ≤ high := by
  have hlead : v / 4096 % 16 + 224 = v / 4096 + 224 := by omega
  rw [hlead, start, if_neg (by omega), if_neg (by omega), if_neg (by omega)]
  by_cases hfirst : v / 4096 = 0
  · rw [hfirst]
    exact ⟨_, _, rfl, by omega, by omega⟩
  · rw [if_neg (by simpa using hfirst)]
    by_cases hpair : v / 4096 = 0xd
    · rw [hpair]
      exact ⟨_, _, rfl, by omega, by omega⟩
    · rw [if_neg (by simpa using hpair), if_pos (by omega), Nat.add_sub_cancel]
      exact ⟨_, _, rfl, by omega, by omega⟩

/-- The first of four bytes. The bounds that it sets keep out what three bytes could say, and what
is no code point. -/
theorem start_four (hlow : 0x10000 ≤ v) (hhigh : v < 0x110000) :
    ∃ low high, start (v / 262144 % 8 + 240) = ([], some ⟨3, v / 262144, low, high⟩) ∧
      low ≤ v / 4096 % 64 + 128 ∧ v / 4096 % 64 + 128 ≤ high := by
  have hcases : v / 262144 = 0 ∨ v / 262144 = 1 ∨ v / 262144 = 2 ∨ v / 262144 = 3 ∨
      v / 262144 = 4 := by omega
  rcases hcases with h | h | h | h | h <;>
  · rw [h]
    exact ⟨_, _, rfl, by omega, by omega⟩

theorem decodeFrom_encodeChar (c : Char) (rest : List UInt8) :
    decodeFrom none (String.utf8EncodeChar c ++ rest) = c :: decodeFrom none rest := by
  have hvalid : c.val.toNat < 0x110000 ∧ ¬(0xd800 ≤ c.val.toNat ∧ c.val.toNat < 0xe000) := by
    have hchar : c.toNat.isValidChar := c.valid
    have heq : c.toNat = c.val.toNat := rfl
    rcases hchar with h | h <;> omega
  have hchar : Char.ofNat c.val.toNat = c := Char.ofNat_toNat c
  generalize hv : c.val.toNat = v at hvalid hchar
  rw [String.utf8EncodeChar.eq_1, hv]
  split
  · rename_i hone
    rw [List.cons_append, decodeFrom_start (by omega), start, if_pos (by omega), hchar]
    rfl
  · split
    · rename_i hone htwo
      rw [List.cons_append, decodeFrom_start (by omega), start_two (by omega) (by omega)]
      exact (decodeFrom_last (by omega) (by omega)).trans (congrArg (· :: _) hchar)
    · split
      · rename_i hone htwo hthree
        obtain ⟨low, high, hstart, hlow, hhigh⟩ :=
          start_three (v := v) (by omega) (by omega) hvalid.2
        rw [List.cons_append, decodeFrom_start (by omega), hstart]
        exact (decodeFrom_last_two hlow hhigh).trans (congrArg (· :: _) hchar)
      · rename_i hone htwo hthree
        obtain ⟨low, high, hstart, hlow, hhigh⟩ := start_four (v := v) (by omega) hvalid.1
        rw [List.cons_append, decodeFrom_start (by omega), hstart]
        exact (decodeFrom_last_three hlow hhigh).trans (congrArg (· :: _) hchar)

/-- The bytes of a text. -/
def encode (s : String) : List UInt8 :=
  s.toUTF8.data.toList

theorem encode_eq_flatMap (s : String) : encode s = s.toList.flatMap String.utf8EncodeChar := by
  have hbytes : s.toUTF8 = (s.toList.flatMap String.utf8EncodeChar).toByteArray := by
    rw [← List.utf8Encode, ← String.toByteArray_ofList, String.ofList_toList]
    rfl
  rw [encode, hbytes, List.toList_data_toByteArray]

theorem encode_append (s t : String) : encode (s ++ t) = encode s ++ encode t := by
  simp only [encode_eq_flatMap, String.toList_append, List.flatMap_append]

theorem decode_encode (s : String) : decode (encode s) = s.toList := by
  have hdecode (cs : List Char) : decodeFrom none (cs.flatMap String.utf8EncodeChar) = cs := by
    induction cs with
    | nil => rfl
    | cons c cs ih => rw [List.flatMap_cons, decodeFrom_encodeChar, ih]
  rw [encode_eq_flatMap]
  exact hdecode s.toList

end SymbolSearch.Proofs.Utf8Text
