import Mathlib.Data.List.Induction
import Mathlib.Tactic.ByContra
import SymbolSearch.Proofs.BuiltMaps
import SymbolSearch.Proofs.Deduplication

namespace SymbolSearch.Proofs.StrongestOccurrences

open Deduplication

/-- An occurrence is the first of those with its key whose kind has the highest precedence. -/
def IsStrongest (o : Occurrence) (occurrences : List Occurrence) : Prop :=
  ∃ before after, occurrences = before ++ o :: after ∧
    (∀ other ∈ before, other.key = o.key → other.kind.precedence < o.kind.precedence) ∧
    ∀ other ∈ after, other.key = o.key → other.kind.precedence ≤ o.kind.precedence

/-- What is kept under a key: nothing where the key does not occur, and else the strongest
occurrence. -/
def Represents (key : String × Int × String) (occurrences : List Occurrence) :
    Option Occurrence → Prop
  | none => ∀ o ∈ occurrences, o.key ≠ key
  | some best => best.key = key ∧ IsStrongest best occurrences

variable {key : String × Int × String} {occurrences : List Occurrence} {o best : Occurrence}

theorem IsStrongest.precedence_le (h : IsStrongest best occurrences) (ho : o ∈ occurrences)
    (hkey : o.key = best.key) : o.kind.precedence ≤ best.kind.precedence := by
  obtain ⟨before, after, rfl, hbefore, hafter⟩ := h
  rcases List.mem_append.mp ho with ho | ho
  · exact Nat.le_of_lt (hbefore o ho hkey)
  · rcases List.mem_cons.mp ho with rfl | ho
    · exact Nat.le_refl _
    · exact hafter o ho hkey

theorem IsStrongest.concat (h : IsStrongest best occurrences)
    (ho : o.key = best.key → o.kind.precedence ≤ best.kind.precedence) :
    IsStrongest best (occurrences ++ [o]) := by
  obtain ⟨before, after, rfl, hbefore, hafter⟩ := h
  refine ⟨before, after ++ [o], by simp, hbefore, ?_⟩
  intro other hother hkey
  rcases List.mem_append.mp hother with hother | hother
  · exact hafter other hother hkey
  · obtain rfl := List.mem_singleton.mp hother
    exact ho hkey

theorem isStrongest_concat_self
    (h : ∀ other ∈ occurrences, other.key = o.key →
      other.kind.precedence < o.kind.precedence) :
    IsStrongest o (occurrences ++ [o]) :=
  ⟨occurrences, [], rfl, h, by simp⟩

theorem Represents.prefer {earlier : Option Occurrence}
    (h : Represents o.key occurrences earlier) :
    Represents o.key (occurrences ++ [o]) (prefer earlier o) := by
  cases earlier with
  | none =>
      refine ⟨rfl, isStrongest_concat_self ?_⟩
      intro other hother hkey
      exact absurd hkey (h other hother)
  | some best =>
      obtain ⟨hkey, hbest⟩ := h
      by_cases hstronger : best.kind.precedence < o.kind.precedence
      · rw [Deduplication.prefer, if_pos hstronger]
        refine ⟨rfl, isStrongest_concat_self ?_⟩
        intro other hother hsame
        exact Nat.lt_of_le_of_lt (hbest.precedence_le hother (hsame.trans hkey.symm)) hstronger
      · rw [Deduplication.prefer, if_neg hstronger]
        exact ⟨hkey, hbest.concat fun _ => Nat.le_of_not_lt hstronger⟩

theorem Represents.concat_of_ne {kept : Option Occurrence} (h : Represents key occurrences kept)
    (hne : o.key ≠ key) : Represents key (occurrences ++ [o]) kept := by
  cases kept with
  | none =>
      intro other hother
      rcases List.mem_append.mp hother with hother | hother
      · exact h other hother
      · obtain rfl := List.mem_singleton.mp hother
        exact hne
  | some best =>
      obtain ⟨hkey, hbest⟩ := h
      exact ⟨hkey, hbest.concat fun hsame => absurd (hsame.trans hkey) hne⟩

/-- After any list of occurrences, what is kept under a key represents it. -/
theorem represents_get? (key : String × Int × String) (occurrences : List Occurrence) :
    Represents key occurrences
      (OrderedMap.get? key (occurrences.foldl Occurrence.keep [])) := by
  induction occurrences using List.reverseRecOn with
  | nil => simp [Represents]
  | append_singleton occurrences o ih =>
      rw [List.foldl_append, List.foldl_cons, List.foldl_nil, get?_keep]
      by_cases hkey : o.key = key
      · subst hkey
        rw [if_pos rfl]
        exact ih.prefer
      · rw [if_neg hkey]
        exact ih.concat_of_ne hkey

theorem keys_keep (kept : OrderedMap (String × Int × String) Occurrence) (o : Occurrence) :
    OrderedMap.keys (Occurrence.keep kept o) =
      if o.key ∈ OrderedMap.keys kept then OrderedMap.keys kept
      else OrderedMap.keys kept ++ [o.key] := by
  cases hget : OrderedMap.get? o.key kept with
  | none =>
      have hmem := OrderedMap.get?_eq_none_iff.mp hget
      simp only [Occurrence.keep, hget]
      rw [OrderedMap.keys_insert, if_neg hmem, if_neg hmem]
  | some other =>
      have hmem : o.key ∈ OrderedMap.keys kept := by
        by_contra hmem
        rw [OrderedMap.get?_eq_none_iff.mpr hmem] at hget
        cases hget
      rw [if_pos hmem]
      simp only [Occurrence.keep, hget]
      split
      · rw [OrderedMap.keys_insert, if_pos hmem]
      · rfl

theorem keys_foldl_keep (occurrences : List Occurrence) :
    OrderedMap.keys (occurrences.foldl Occurrence.keep []) =
      (occurrences.map Occurrence.key).eraseDups :=
  BuiltMaps.keys_foldl keys_keep occurrences

/-- Deduplication returns one occurrence for each file, line and name of the input, in the order in
which these first appear, and no others. The one returned is the first of those with its file, line
and name whose kind has the highest precedence. -/
theorem deduplicate_keeps_first_strongest (occurrences : List Occurrence) :
    (Occurrence.deduplicate occurrences).map Occurrence.key =
        (occurrences.map Occurrence.key).eraseDups ∧
      ∀ o ∈ Occurrence.deduplicate occurrences, IsStrongest o occurrences := by
  refine ⟨(map_key_deduplicate occurrences).trans (keys_foldl_keep occurrences), ?_⟩
  intro o ho
  obtain ⟨⟨key, o'⟩, hentry, rfl⟩ := List.mem_map.mp ho
  have hrepresents := represents_get? key occurrences
  have hnodup : (OrderedMap.keys (occurrences.foldl Occurrence.keep [])).Nodup :=
    nodup_keys_foldl_keep occurrences List.nodup_nil
  have hget := (OrderedMap.get?_eq_some_iff hnodup).mpr hentry
  rw [hget] at hrepresents
  exact hrepresents.2

section Sample

/-- A name found twice on a line as a class and before as a variable, around another name. -/
def sampleOccurrences : List Occurrence :=
  [⟨"A", "a.ts", 1, 7, 7, .variableDecl⟩, ⟨"B", "a.ts", 1, 9, 9, .function⟩,
    ⟨"A", "a.ts", 1, 11, 11, .classDecl⟩, ⟨"A", "a.ts", 1, 13, 13, .classDecl⟩]

/-- The first of the two classes is returned, in the place of the variable. -/
theorem deduplicate_keeps_first_strongest_sample :
    Occurrence.deduplicate sampleOccurrences =
        [⟨"A", "a.ts", 1, 11, 11, .classDecl⟩, ⟨"B", "a.ts", 1, 9, 9, .function⟩] ∧
      IsStrongest ⟨"A", "a.ts", 1, 11, 11, .classDecl⟩ sampleOccurrences :=
  ⟨by decide, (deduplicate_keeps_first_strongest sampleOccurrences).2 _ (by decide)⟩

end Sample

end SymbolSearch.Proofs.StrongestOccurrences
