import Mathlib.Data.List.NodupEquivFin
import SymbolSearch.Proofs.FilteredItems
import SymbolSearch.Proofs.TermColumns

namespace SymbolSearch.Proofs.NarrowedQueries

open FilteredItems
open PublishedOrder
open Similarity
open TermColumns
open Text

variable {needle haystack narrow wide xs ys : List Char} {c : Char}

section Scan

/-- The positions of one text can be sent in order to positions of another one that hold the same
characters. -/
def Embeds (needle haystack : List Char) : Prop :=
  ∃ place : Fin needle.length → Fin haystack.length,
    StrictMono place ∧ ∀ i, needle.get i = haystack.get (place i)

theorem embeds_iff_sublist : Embeds needle haystack ↔ needle.Sublist haystack := by
  rw [List.sublist_iff_exists_fin_orderEmbedding_get_eq]
  constructor
  · rintro ⟨place, hmono, hget⟩
    exact ⟨OrderEmbedding.ofStrictMono place hmono, hget⟩
  · rintro ⟨place, hget⟩
    exact ⟨place, place.strictMono, hget⟩

theorem isSubsequence_refl (cs : List Char) : isSubsequence cs cs = true :=
  (isSubsequence_iff_sublist cs cs).mpr (List.Sublist.refl cs)

theorem isSubsequence_of_sublist (h : narrow.Sublist wide)
    (hwide : isSubsequence wide haystack = true) : isSubsequence narrow haystack = true :=
  (isSubsequence_iff_sublist narrow haystack).mpr
    (h.trans ((isSubsequence_iff_sublist wide haystack).mp hwide))

end Scan

section SmartCase

theorem hasUpper_of_sublist (h : xs.Sublist ys) (hxs : hasUpper xs = true) :
    hasUpper ys = true := by
  obtain ⟨c, hc, hupper⟩ := List.any_eq_true.mp hxs
  exact List.any_eq_true.mpr ⟨c, h.subset hc, hupper⟩

/-- The lower-case form depends on the context only for characters in upper case. -/
theorem lowerInContext_of_not_isUpper (h : isUpper c = false) (before after : List Char) :
    lowerInContext before c after = [lowerChar c] := by
  apply lowerInContext_of_ne
  · rintro rfl
    exact absurd h (by decide)
  · rintro rfl
    exact absurd h (by decide)

theorem lowerFrom_sublist (h : xs.Sublist ys) (hxs : hasUpper xs = false)
    (before before' : List Char) : (lowerFrom before xs).Sublist (lowerFrom before' ys) := by
  induction h generalizing before before' with
  | slnil => exact List.Sublist.refl _
  | cons y _ ih => exact (ih hxs _ _).trans (List.sublist_append_right _ _)
  | cons_cons c _ ih =>
      obtain ⟨hc, hrest⟩ : isUpper c = false ∧ hasUpper _ = false := by
        simpa [hasUpper] using hxs
      rw [lowerFrom, lowerFrom, lowerInContext_of_not_isUpper hc, lowerInContext_of_not_isUpper hc]
      exact (ih hrest _ _).cons_cons _

theorem lowered_sublist (h : xs.Sublist ys) (hxs : hasUpper xs = false) :
    (lowered xs).Sublist (lowered ys) :=
  lowerFrom_sublist h hxs [] []

/-- What matches a query matches what is left of it when characters are deleted, also where the last
upper-case character goes and case no longer matters. -/
theorem isIn_of_sublist (h : narrow.Sublist wide) {text : List Char}
    (hwide : (Needle.ofText wide).isIn text = true) : (Needle.ofText narrow).isIn text = true := by
  simp only [Needle.isIn, isSubsequence_iff_sublist] at hwide ⊢
  cases hnarrow : hasUpper narrow with
  | true =>
      simp only [Needle.ofText, hasUpper_of_sublist h hnarrow, if_true] at hwide
      simp only [Needle.ofText, hnarrow, if_true]
      exact h.trans hwide
  | false =>
      simp only [Needle.ofText, hnarrow, Bool.false_eq_true, if_false]
      cases hupper : hasUpper wide with
      | true =>
          simp only [Needle.ofText, hupper, if_true] at hwide
          exact lowered_sublist (h.trans hwide) hnarrow
      | false =>
          simp only [Needle.ofText, hupper, Bool.false_eq_true, if_false] at hwide
          exact (lowered_sublist h hnarrow).trans hwide

theorem map_item_findAll_subperm {α : Type} (h : narrow.Sublist wide) (text : α → String)
    (candidates : List α) :
    (((Needle.ofText wide).findAll text candidates).map Hit.item).Subperm
      (((Needle.ofText narrow).findAll text candidates).map Hit.item) := by
  have hfilter :
      (candidates.filter fun item => (Needle.ofText wide).isIn (text item).toList).Sublist
        (candidates.filter fun item => (Needle.ofText narrow).isIn (text item).toList) :=
    List.monotone_filter_right candidates fun item => isIn_of_sublist h
  exact (map_item_findAll_perm _ text candidates).subperm.trans
    (hfilter.subperm.trans (map_item_findAll_perm _ text candidates).symm.subperm)

end SmartCase

/-- The scan of a text for the characters of a needle finds them exactly if the needle can be
embedded in the text, that is, if it is a sublist of it. Every text matches itself, matching is
transitive, and deleting characters of a needle keeps its matches. A query from which characters are
deleted therefore finds all that it found before. -/
theorem scan_decides_embedding (needle haystack : List Char) :
    (isSubsequence needle haystack = true ↔ Embeds needle haystack) ∧
      (isSubsequence needle haystack = true ↔ needle.Sublist haystack) ∧
      isSubsequence needle needle = true ∧
      (∀ text, isSubsequence needle haystack = true → isSubsequence haystack text = true →
        isSubsequence needle text = true) ∧
      ∀ narrow : List Char, narrow.Sublist needle →
        (isSubsequence needle haystack = true → isSubsequence narrow haystack = true) ∧
        ∀ (α : Type) (text : α → String) (candidates : List α),
          (((Needle.ofText needle).findAll text candidates).map Hit.item).Subperm
            (((Needle.ofText narrow).findAll text candidates).map Hit.item) := by
  have hsublist := isSubsequence_iff_sublist needle haystack
  refine ⟨hsublist.trans embeds_iff_sublist.symm, hsublist, isSubsequence_refl needle, ?_, ?_⟩
  · intro text hneedle htext
    exact isSubsequence_of_sublist (hsublist.mp hneedle) htext
  · intro narrow hnarrow
    refine ⟨isSubsequence_of_sublist hnarrow, ?_⟩
    intro α text candidates
    exact map_item_findAll_subperm hnarrow text candidates

/-- Without its upper-case character a query finds at least what it found with it: of three symbols
one, and then all. -/
theorem scan_decides_embedding_sample :
    "sr".toList.Sublist "Usr".toList ∧ Embeds "Usr".toList "UserSchema".toList ∧
      isSubsequence "sr".toList "UserSchema".toList = true ∧
      (((Needle.ofText "Usr".toList).findAll id ["userSchema", "UserSchema", "Sr"]).map
        Hit.item).Subperm
        (((Needle.ofText "sr".toList).findAll id ["userSchema", "UserSchema", "Sr"]).map
          Hit.item) := by
  have hnarrow : "sr".toList.Sublist "Usr".toList := by decide +kernel
  have hfound : isSubsequence "Usr".toList "UserSchema".toList = true := by decide +kernel
  obtain ⟨hembeds, -, -, -, hdeleted⟩ :=
    scan_decides_embedding "Usr".toList "UserSchema".toList
  obtain ⟨hkept, hitems⟩ := hdeleted "sr".toList hnarrow
  exact ⟨hnarrow, hembeds.mp hfound, hkept hfound, hitems String id _⟩

end SymbolSearch.Proofs.NarrowedQueries
