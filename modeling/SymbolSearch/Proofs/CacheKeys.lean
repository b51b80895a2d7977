import SymbolSearch.Proofs.ClientSearch
import SymbolSearch.Proofs.PathResolution

namespace SymbolSearch.Proofs.CacheKeys

open ClientSearch
open PathResolution
open Traversal

/-- A text without two colons in front of a slash, as they stand in a key between a selector and an
absolute root. -/
def IsPlain (selector : String) : Prop :=
  ¬"::/".toList <:+: selector.toList

instance (selector : String) : Decidable (IsPlain selector) :=
  inferInstanceAs (Decidable (¬_))

/-- A selector that is a plain text. -/
def IsPlainKind (kind : Json) : Prop :=
  ∃ selector, kind = .string selector ∧ IsPlain selector

/-- A root that begins with a slash. -/
def IsAbsolute (root : String) : Prop :=
  ∃ rest, root.toList = '/' :: rest

/-- Two separators, each in front of a slash, overlap only when they are one. -/
theorem eq_nil_or_of_overlap {x xs ys : List Char}
    (h : "::".toList ++ '/' :: xs = x ++ ("::".toList ++ '/' :: ys)) :
    x = [] ∨ "::/".toList <+: x := by
  match x, h with
  | [], _ => exact .inl rfl
  | [a], h => simp at h
  | [a, b], h => simp at h
  | a :: b :: c :: rest, h =>
      simp only [String.reduceToList, List.cons_append, List.cons.injEq, List.nil_append] at h
      obtain ⟨rfl, rfl, rfl, -⟩ := h
      exact .inr ⟨rest, rfl⟩

theorem eq_nil_of_isPlain {s₁ s₂ : String} {x xs ys : List Char} (hs : IsPlain s₂)
    (hsplit : s₂.toList = s₁.toList ++ x)
    (h : "::".toList ++ '/' :: xs = x ++ ("::".toList ++ '/' :: ys)) : x = [] := by
  refine (eq_nil_or_of_overlap h).resolve_right fun hseparator => hs ?_
  rw [hsplit]
  exact hseparator.isInfix.trans (List.suffix_append _ _).isInfix

/-- A key tells its selector and its root, as long as the selector is plain and the root is
absolute. -/
theorem key_inj {kind₁ kind₂ : Json} {root₁ root₂ : String} (hkind₁ : IsPlainKind kind₁)
    (hkind₂ : IsPlainKind kind₂) (hroot₁ : IsAbsolute root₁) (hroot₂ : IsAbsolute root₂)
    (h : Cache.key kind₁ root₁ = Cache.key kind₂ root₂) : kind₁ = kind₂ ∧ root₁ = root₂ := by
  obtain ⟨s₁, rfl, hs₁⟩ := hkind₁
  obtain ⟨s₂, rfl, hs₂⟩ := hkind₂
  obtain ⟨xs, hxs⟩ := hroot₁
  obtain ⟨ys, hys⟩ := hroot₂
  have hlists : s₁.toList ++ ("::".toList ++ '/' :: xs) =
      s₂.toList ++ ("::".toList ++ '/' :: ys) := by
    have htext := congrArg String.toList h
    simpa only [Cache.key, Json.display, String.toList_append, hxs, hys, List.append_assoc]
      using htext
  have hsame : s₁.toList = s₂.toList := by
    obtain ⟨x, hsplit, hrest⟩ | ⟨x, hsplit, hrest⟩ := List.append_eq_append_iff.mp hlists
    · rw [hsplit, eq_nil_of_isPlain hs₂ hsplit hrest, List.append_nil]
    · rw [hsplit, eq_nil_of_isPlain hs₁ hsplit hrest, List.append_nil]
  rw [hsame] at hlists
  have hroots : root₁.toList = root₂.toList := by
    rw [hxs, hys]
    exact List.append_cancel_left (List.append_cancel_left hlists)
  exact ⟨congrArg Json.string (String.toList_inj.mp hsame), String.toList_inj.mp hroots⟩

/-- A selector that is not plain can share its key with another one. -/
example : Cache.key (.string "a::/b") "/c" = Cache.key (.string "a") "/b::/c" := rfl

theorem isAbsolute_of_rootOf {files : FileTree} {value : Json} {root : String}
    (h : rootOf files value = .ok root) : IsAbsolute root := by
  obtain ⟨path, hpath, hdirectory⟩ := bind_eq_ok_iff.mp h
  have hroot : path = root := by
    split at hdirectory
    · exact Except.ok.inj hdirectory
    · cases hdirectory
    · cases hdirectory
  subst hroot
  obtain ⟨given, -, hresolve⟩ := bind_eq_ok_iff.mp hpath
  split at hresolve
  · rename_i p hp
    cases hresolve
    exact ⟨_, by rw [text_of_isResolved (isResolved_of_resolve hp), String.toList_append]; rfl⟩
  · cases hresolve

end SymbolSearch.Proofs.CacheKeys
