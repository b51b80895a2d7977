import Mathlib.Data.List.Forall2
import Mathlib.Data.List.Infix
import Mathlib.Data.Nat.Find
import SymbolSearch.Proofs.TextSearch

namespace SymbolSearch.Proofs.TermColumns

open Records
open Text
open TextSearch

variable {needle cs xs ys : List Char} {k : Nat} {c : Char}

section Finding

/-- The first position from which on a text begins with a needle. -/
structure IsFirst (needle cs : List Char) (k : Nat) : Prop where
  le : k ≤ cs.length
  stands : needle <+: cs.drop k
  least : ∀ j < k, ¬needle <+: cs.drop j

theorem isFirst_zero (h : needle <+: cs) : IsFirst needle cs 0 :=
  ⟨Nat.zero_le _, h, fun _ hj => absurd hj (Nat.not_lt_zero _)⟩

theorem IsFirst.cons (h : IsFirst needle cs k) (hc : ¬needle <+: c :: cs) :
    IsFirst needle (c :: cs) (k + 1) := by
  refine ⟨Nat.succ_le_succ h.le, h.stands, ?_⟩
  rintro (_ | j) hj
  · exact hc
  · exact h.least j (Nat.lt_of_succ_lt_succ hj)

theorem isFirst_of_findFrom {position : Nat} (h : findFrom needle position cs = some k) :
    ∃ j, k = position + j ∧ IsFirst needle cs j := by
  induction cs generalizing position with
  | nil =>
      rw [findFrom] at h
      split at h
      · rename_i hempty
        obtain rfl := Option.some.inj h
        obtain rfl := List.isEmpty_iff.mp hempty
        exact ⟨0, rfl, isFirst_zero List.nil_prefix⟩
      · cases h
  | cons c cs ih =>
      rw [findFrom] at h
      split at h
      · rename_i hstands
        obtain rfl := Option.some.inj h
        exact ⟨0, rfl, isFirst_zero (List.isPrefixOf_iff_prefix.mp hstands)⟩
      · rename_i hstands
        obtain ⟨j, rfl, hj⟩ := ih h
        refine ⟨j + 1, by omega, hj.cons ?_⟩
        exact fun hc => hstands (List.isPrefixOf_iff_prefix.mpr hc)

theorem isFirst_of_find? (h : find? needle cs = some k) : IsFirst needle cs k := by
  obtain ⟨j, rfl, hj⟩ := isFirst_of_findFrom h
  simpa using hj

theorem findFrom_ne_none (h : needle <:+: cs) (position : Nat) :
    findFrom needle position cs ≠ none := by
  induction cs generalizing position with
  | nil =>
      obtain rfl := List.infix_nil.mp h
      simp [findFrom]
  | cons c cs ih =>
      rw [findFrom]
      split
      · simp
      · rename_i hstands
        rcases List.infix_cons_iff.mp h with hprefix | hinfix
        · exact absurd (List.isPrefixOf_iff_prefix.mpr hprefix) hstands
        · exact ih hinfix (position + 1)

theorem exists_find? (h : needle <:+: cs) : ∃ k, find? needle cs = some k :=
  Option.ne_none_iff_exists'.mp (findFrom_ne_none h 0)

end Finding

section Lowering

/-- The one character whose lower-case form is two characters long: an i and a dot above it. -/
def dottedI : Char := Char.ofNat 0x130

def dotAbove : Char := Char.ofNat 0x307

/-- The one character whose lower-case form depends on what stands before and after it. -/
def capitalSigma : Char := Char.ofNat 0x3a3

/-- The two lower-case forms of a sigma, within a word and at its end. -/
def smallSigmas : List Char := [Char.ofNat 0x3c3, Char.ofNat 0x3c2]

theorem lowerInContext_capitalSigma (before after : List Char) :
    ∃ c ∈ smallSigmas, lowerInContext before capitalSigma after = [c] := by
  have heq : lowerInContext before capitalSigma after =
      [Char.ofNat (if isFinalSigma before after then 0x3c2 else 0x3c3)] := rfl
  rw [heq]
  cases isFinalSigma before after with
  | false => exact ⟨_, by decide, rfl⟩
  | true => exact ⟨_, by decide, rfl⟩

theorem lowerInContext_of_ne (hsigma : c ≠ capitalSigma) (hdotted : c ≠ dottedI)
    (before after : List Char) : lowerInContext before c after = [lowerChar c] := by
  have hne {n : Nat} (h : c ≠ Char.ofNat n) : ¬(c.toNat == n) = true := by
    intro heq
    exact h ((Char.ofNat_toNat c).symm.trans (congrArg Char.ofNat (beq_iff_eq.mp heq)))
  rw [lowerInContext, if_neg (hne hsigma), if_neg (hne hdotted), ite_self]

theorem lowerInContext_eq (h : c ≠ capitalSigma) (before before' after : List Char) :
    lowerInContext before c after = lowerInContext before' c after := by
  by_cases hdotted : c = dottedI
  · subst hdotted
    rfl
  · rw [lowerInContext_of_ne h hdotted, lowerInContext_of_ne h hdotted]

theorem length_lowerInContext (before after : List Char) :
    (lowerInContext before c after).length = if c = dottedI then 2 else 1 := by
  by_cases hdotted : c = dottedI
  · subst hdotted
    rfl
  · rw [if_neg hdotted]
    by_cases hsigma : c = capitalSigma
    · subst hsigma
      rfl
    · rw [lowerInContext_of_ne hsigma hdotted]
      rfl

theorem exists_lowerFrom_append (before xs ys : List Char) :
    ∃ front, front.length = xs.length + xs.count dottedI ∧
      lowerFrom before (xs ++ ys) = front ++ lowerFrom (xs.reverse ++ before) ys := by
  induction xs generalizing before with
  | nil => exact ⟨[], rfl, rfl⟩
  | cons x xs ih =>
      obtain ⟨front, hlength, heq⟩ := ih (x :: before)
      refine ⟨lowerInContext before x (xs ++ ys) ++ front, ?_, ?_⟩
      · rw [List.length_append, length_lowerInContext, hlength, List.length_cons, List.count_cons]
        simp only [beq_iff_eq]
        split <;> omega
      · rw [List.cons_append, lowerFrom, heq]
        simp

theorem length_lowered (cs : List Char) :
    (lowered cs).length = cs.length + cs.count dottedI := by
  obtain ⟨front, hlength, heq⟩ := exists_lowerFrom_append [] cs []
  rw [List.append_nil] at heq
  rw [lowered, heq, ← hlength]
  simp [lowerFrom]

theorem drop_lowered (hk : k ≤ cs.length) :
    (lowered cs).drop (k + (cs.take k).count dottedI) =
      lowerFrom (cs.take k).reverse (cs.drop k) := by
  obtain ⟨front, hlength, heq⟩ := exists_lowerFrom_append [] (cs.take k) (cs.drop k)
  rw [List.take_append_drop, List.append_nil] at heq
  rw [List.length_take_of_le hk] at hlength
  rw [lowered, heq, ← hlength, List.drop_left]

/-- Every position in a lower-case text belongs to a position in the text, except for the dot of a
dotted I. -/
theorem exists_position (before : List Char) (hk : k ≤ (lowerFrom before cs).length) :
    ((lowerFrom before cs).drop k).head? = some dotAbove ∨
      ∃ j ≤ cs.length, k = j + (cs.take j).count dottedI := by
  induction cs generalizing before k with
  | nil =>
      obtain rfl : k = 0 := by simpa [lowerFrom] using hk
      exact .inr ⟨0, le_rfl, rfl⟩
  | cons c cs ih =>
      rcases Nat.eq_zero_or_pos k with rfl | hpos
      · exact .inr ⟨0, Nat.zero_le _, rfl⟩
      by_cases hinside : k < (lowerInContext before c cs).length
      · rw [length_lowerInContext] at hinside
        obtain rfl : c = dottedI := by
          by_contra hne
          rw [if_neg hne] at hinside
          omega
        obtain rfl : k = 1 := by
          rw [if_pos rfl] at hinside
          omega
        exact .inl rfl
      · obtain ⟨k, rfl⟩ := Nat.exists_eq_add_of_le (Nat.not_lt.mp hinside)
        rw [lowerFrom, List.length_append] at hk
        rw [lowerFrom, List.drop_length_add_append]
        rcases ih (c :: before) (Nat.le_of_add_le_add_left hk) with hdot | ⟨j, hj, rfl⟩
        · exact .inl hdot
        · refine .inr ⟨j + 1, Nat.succ_le_succ hj, ?_⟩
          rw [length_lowerInContext, List.take_succ_cons, List.count_cons]
          simp only [beq_iff_eq]
          split <;> omega

/-- Two texts that differ in the forms of their small sigmas at most. -/
def Alike : List Char → List Char → Prop :=
  List.Forall₂ fun c d => c = d ∨ c ∈ smallSigmas ∧ d ∈ smallSigmas

theorem alike_refl (cs : List Char) : Alike cs cs :=
  List.forall₂_same.mpr fun _ _ => .inl rfl

/-- What stands before a text can only change the forms of its sigmas. -/
theorem alike_lowerFrom (before before' cs : List Char) :
    Alike (lowerFrom before cs) (lowerFrom before' cs) := by
  induction cs generalizing before before' with
  | nil => exact .nil
  | cons c cs ih =>
      have hhead : Alike (lowerInContext before c cs) (lowerInContext before' c cs) := by
        by_cases hsigma : c = capitalSigma
        · subst hsigma
          obtain ⟨d, hd, heq⟩ := lowerInContext_capitalSigma before cs
          obtain ⟨d', hd', heq'⟩ := lowerInContext_capitalSigma before' cs
          rw [heq, heq']
          exact .cons (.inr ⟨hd, hd'⟩) .nil
        · rw [lowerInContext_eq hsigma before before']
          exact alike_refl _
      exact List.rel_append hhead (ih (c :: before) (c :: before'))

/-- A sigma at the end of a word takes another form than the same sigma by itself. -/
example : lowered "\u0391\u03a3".toList = "\u03b1\u03c2".toList ∧
    lowered ("\u0391\u03a3".toList.drop 1) = "\u03c3".toList := by
  decide +kernel

theorem lowerFrom_eq (h : capitalSigma ∉ cs) (before before' : List Char) :
    lowerFrom before cs = lowerFrom before' cs := by
  induction cs generalizing before before' with
  | nil => rfl
  | cons c cs ih =>
      have hc : c ≠ capitalSigma := fun heq => h (by simp [heq])
      have hcs : capitalSigma ∉ cs := fun hmem => h (by simp [hmem])
      rw [lowerFrom, lowerFrom, lowerInContext_eq hc before before',
        ih hcs (c :: before) (c :: before')]

/-- A needle without sigmas does not tell such texts apart. -/
theorem Alike.stands (h : Alike xs ys) (hneedle : ∀ c ∈ needle, c ∉ smallSigmas)
    (hstands : needle <+: xs) : needle <+: ys := by
  induction h generalizing needle with
  | nil => exact hstands
  | cons hhead _ ih =>
      cases needle with
      | nil => exact List.nil_prefix
      | cons c needle =>
          obtain ⟨rfl, htail⟩ := List.cons_prefix_cons.mp hstands
          have hrest := ih (fun d hd => hneedle d (List.mem_cons_of_mem _ hd)) htail
          rcases hhead with rfl | ⟨hsigma, -⟩
          · exact List.cons_prefix_cons.mpr ⟨rfl, hrest⟩
          · exact absurd hsigma (hneedle c (by simp))

/-- No sigma stands in the way: the text has no capital one, or the needle none at all. -/
def IsPlain (needle cs : List Char) : Prop :=
  capitalSigma ∉ cs ∨ ∀ c ∈ needle, c ∉ smallSigmas

theorem stands_drop_iff (h : IsPlain needle cs) (hk : k ≤ cs.length) :
    needle <+: (lowered cs).drop (k + (cs.take k).count dottedI) ↔
      needle <+: lowered (cs.drop k) := by
  rw [drop_lowered hk, lowered]
  rcases h with hcs | hneedle
  · rw [lowerFrom_eq (fun hmem => hcs (List.mem_of_mem_drop hmem)) (cs.take k).reverse []]
  · exact ⟨(alike_lowerFrom _ _ _).stands hneedle, (alike_lowerFrom _ _ _).stands hneedle⟩

end Lowering

section Columns

/-- The first position in a text from which on it begins with a needle once it is put in lower
case. -/
structure PointsAt (needle cs : List Char) (k : Nat) : Prop where
  le : k ≤ cs.length
  stands : needle <+: lowered (cs.drop k)
  least : ∀ j < k, ¬needle <+: lowered (cs.drop j)

theorem pointsAt_of_isFirst (hfirst : IsFirst needle (lowered cs) k) (h : IsPlain needle cs)
    (hdotted : dottedI ∉ cs.take k) : PointsAt needle cs k := by
  have hcount {j : Nat} (hj : j ≤ k) : (cs.take j).count dottedI = 0 :=
    List.count_eq_zero.mpr fun hmem => hdotted (List.take_subset_take_left cs hj hmem)
  have hk : k ≤ cs.length := by
    by_contra hlong
    have htake : cs.take k = cs := List.take_of_length_le (by omega)
    have hlength := hfirst.le
    rw [length_lowered, ← htake, hcount le_rfl, htake] at hlength
    omega
  have hstands {j : Nat} (hj : j ≤ k) :
      needle <+: (lowered cs).drop j ↔ needle <+: lowered (cs.drop j) := by
    rw [← stands_drop_iff h (hj.trans hk), hcount hj, Nat.add_zero]
  exact ⟨hk, (hstands le_rfl).mp hfirst.stands,
    fun j hj hj' => hfirst.least j hj ((hstands hj.le).mpr hj')⟩

theorem dottedI_not_mem_of_pointsAt (hfirst : IsFirst needle (lowered cs) k)
    (h : IsPlain needle cs) (hdot : needle.head? ≠ some dotAbove) (hpoints : PointsAt needle cs k) :
    dottedI ∉ cs.take k := by
  rcases exists_position [] hfirst.le with hhead | ⟨j, hj, hjk⟩
  · cases needle with
    | nil =>
        -- The empty needle is found at once.
        obtain rfl : k = 0 := by
          by_contra hne
          exact hfirst.least 0 (Nat.pos_of_ne_zero hne) List.nil_prefix
        simp
    | cons c needle =>
        obtain ⟨rest, hrest⟩ := hfirst.stands
        change c :: needle ++ rest = (lowerFrom [] cs).drop k at hrest
        rw [← hrest] at hhead
        exact absurd hhead hdot
  · have hstands : needle <+: lowered (cs.drop j) :=
      (stands_drop_iff h hj).mp (hjk ▸ hfirst.stands)
    have hle : k ≤ j := Nat.not_lt.mp fun hlt => hpoints.least j hlt hstands
    obtain rfl : j = k := by omega
    exact List.count_eq_zero.mp (by omega)

variable {rg : Ripgrep} {tool : SearchTool} {term root : String} {found : List TextMatch}
  {m : TextMatch}

theorem column_of_find? {record : Record}
    (h : find? (lowered term.toList) (lowered record.text.toList) = some k) (root : Path) :
    (TextMatch.ofRecord root term record).column = k := by
  rw [TextMatch.ofRecord]
  simp only [h]

/-- The column of a match is the first position of the term in the line, both in lower case. It is
the first position in the line itself as well when no dotted I stands before it and no sigma in the
way. Where a dotted I does stand before it, the column points too far, unless the term begins with
the dot of one. -/
theorem columns_point_at_term
    (hfound : TextMatch.search rg tool (.string term) root = .ok found) (hm : m ∈ found)
    (hterm : lowered term.toList <:+: lowered m.text.toList) :
    ∃ k : Nat, m.column = k ∧ IsFirst (lowered term.toList) (lowered m.text.toList) k ∧
      (IsPlain (lowered term.toList) m.text.toList →
        (dottedI ∉ m.text.toList.take k → PointsAt (lowered term.toList) m.text.toList k) ∧
          ((lowered term.toList).head? ≠ some dotAbove →
            PointsAt (lowered term.toList) m.text.toList k → dottedI ∉ m.text.toList.take k)) := by
  obtain ⟨record, rfl⟩ := exists_record_of_search hfound hm
  obtain ⟨k, hk⟩ := exists_find? hterm
  have hfirst := isFirst_of_find? hk
  exact ⟨k, column_of_find? hk _, hfirst,
    fun hplain => ⟨pointsAt_of_isFirst hfirst hplain, dottedI_not_mem_of_pointsAt hfirst hplain⟩⟩

/-- Neither a dotted I behind the term nor a sigma that the term does not hold does any harm. -/
theorem columns_point_at_term_sample :
    let rg : Ripgrep := ⟨.string "rg", .int 30, .int 100, .string "1M"⟩
    let m : TextMatch := ⟨"/w/a.ts", 0, 2, "\u03a3 Foo \u0130"⟩
    TextMatch.search rg (toolOf ["a.ts:1:9:\u03a3 Foo \u0130"]) (.string "fOO") "/w" = .ok [m] ∧
      lowered "fOO".toList <:+: lowered m.text.toList ∧
      PointsAt (lowered "fOO".toList) m.text.toList 2 := by
  intro rg m
  have hfound : TextMatch.search rg (toolOf ["a.ts:1:9:\u03a3 Foo \u0130"]) (.string "fOO") "/w" =
      .ok [m] := by
    have hread : Record.read "a.ts:1:9:\u03a3 Foo \u0130" =
        .ok (some ⟨"a.ts", 1, 9, "\u03a3 Foo \u0130"⟩) := by rfl
    have hmatch : TextMatch.ofRecord (Path.parse "/w") "fOO" ⟨"a.ts", 1, 9, "\u03a3 Foo \u0130"⟩ =
        m := by
      decide +kernel
    rw [search_line (@search_toolOf rg 100 _ rfl (by decide +kernel) (by decide +kernel) _) hread,
      hmatch]
  have hterm : lowered "fOO".toList <:+: lowered m.text.toList := by decide +kernel
  have hplain : IsPlain (lowered "fOO".toList) m.text.toList := by
    have hneedle : lowered "fOO".toList = "foo".toList := by decide +kernel
    rw [hneedle]
    exact .inr (by simp [smallSigmas])
  obtain ⟨k, hk, -, hpoints⟩ :=
    columns_point_at_term hfound (List.mem_singleton_self m) hterm
  obtain rfl : 2 = k := Int.ofNat.inj hk
  exact ⟨hfound, hterm, (hpoints hplain).1 (by decide +kernel)⟩

/-- The dot that a dotted I gets in lower case moves the column of what follows it. -/
theorem dotted_i_moves_column :
    let rg : Ripgrep := ⟨.string "rg", .int 30, .int 100, .string "1M"⟩
    TextMatch.search rg (toolOf ["a.ts:1:1:\u0130x"]) (.string "x") "/w" =
        .ok [⟨"/w/a.ts", 0, 2, "\u0130x"⟩] ∧
      lowered "x".toList <:+: lowered "\u0130x".toList ∧
      PointsAt (lowered "x".toList) "\u0130x".toList 1 ∧
      ¬PointsAt (lowered "x".toList) "\u0130x".toList 2 := by
  intro rg
  refine ⟨?_, by decide +kernel, ⟨by decide +kernel, by decide +kernel, by decide +kernel⟩, ?_⟩
  · have hread : Record.read "a.ts:1:1:\u0130x" = .ok (some ⟨"a.ts", 1, 1, "\u0130x"⟩) := by rfl
    have hmatch : TextMatch.ofRecord (Path.parse "/w") "x" ⟨"a.ts", 1, 1, "\u0130x"⟩ =
        ⟨"/w/a.ts", 0, 2, "\u0130x"⟩ := by
      decide +kernel
    rw [search_line (@search_toolOf rg 100 _ rfl (by decide +kernel) (by decide +kernel) _) hread,
      hmatch]
  · exact fun hpoints => absurd hpoints.stands (by decide +kernel)

end Columns

end SymbolSearch.Proofs.TermColumns
