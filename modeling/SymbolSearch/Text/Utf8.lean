namespace SymbolSearch.Text.Utf8

/-- The mark that stands for bytes which encode no character. -/
def replacement : Char := Char.ofNat 0xfffd

/-- A sequence that has begun: how many bytes it still needs, the value read so far, and the bounds
of the next byte. -/
structure Pending where
  need : Nat
  value : Nat
  low : Nat
  high : Nat

/-- What a byte begins: a whole character, a longer sequence, or nothing (then it is replaced). -/
def start (b : Nat) : List Char × Option Pending :=
  if b < 0x80 then ([Char.ofNat b], none)
  else if b < 0xc2 then ([replacement], none)
  else if b < 0xe0 then ([], some ⟨1, b - 0xc0, 0x80, 0xbf⟩)
  else if b == 0xe0 then ([], some ⟨2, 0, 0xa0, 0xbf⟩)
  else if b == 0xed then ([], some ⟨2, 0xd, 0x80, 0x9f⟩)
  else if b < 0xf0 then ([], some ⟨2, b - 0xe0, 0x80, 0xbf⟩)
  else if b == 0xf0 then ([], some ⟨3, 0, 0x90, 0xbf⟩)
  else if b < 0xf4 then ([], some ⟨3, b - 0xf0, 0x80, 0xbf⟩)
  else if b == 0xf4 then ([], some ⟨3, 4, 0x80, 0x8f⟩)
  else ([replacement], none)

/-- Reads bytes on from a sequence that may have begun. A sequence that cannot be completed is
replaced by one mark, and the byte that breaks it begins anew. -/
def decodeFrom : Option Pending → List UInt8 → List Char
  | none, [] => []
  | some _, [] => [replacement]
  | none, b :: rest =>
      let (out, next) := start b.toNat
      out ++ decodeFrom next rest
  | some p, b :: rest =>
      let n := b.toNat
      if p.low ≤ n && n ≤ p.high then
        let value := p.value * 64 + (n - 0x80)
        if p.need == 1 then Char.ofNat value :: decodeFrom none rest
        else decodeFrom (some ⟨p.need - 1, value, 0x80, 0xbf⟩) rest
      else
        let (out, next) := start n
        replacement :: (out ++ decodeFrom next rest)

/-- The text encoded by a list of bytes, with each maximal ill-formed part replaced by one mark. -/
def decode (bytes : List UInt8) : List Char :=
  decodeFrom none bytes

end SymbolSearch.Text.Utf8
