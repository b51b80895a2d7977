import SymbolSearch.FileTree

namespace SymbolSearch.Proofs.PathResolution

open SymbolSearch.Path
open Text

variable {sep : Char} {cs piece : List Char} {part : String} {parts : List String} {p : Path}

section Components

theorem splitAt_eq_splitOn (sep : Char) (cs : List Char) : splitAt sep cs = cs.splitOn sep := by
  induction cs with
  | nil => rfl
  | cons c cs ih =>
      rw [splitAt, List.splitOn_cons_eq_if_modifyHead, ih]
      split
      · rfl
      · cases hpieces : cs.splitOn sep with
        | nil => exact absurd hpieces (List.splitOn_ne_nil sep cs)
        | cons piece pieces => rfl

theorem of_mem_splitOn (h : piece ∈ cs.splitOn sep) : sep ∉ piece ∧ piece ⊆ cs := by
  induction cs generalizing piece with
  | nil =>
      obtain rfl := List.mem_singleton.mp h
      simp
  | cons c cs ih =>
      rw [List.splitOn_cons_eq_if_modifyHead] at h
      split at h
      · rcases List.mem_cons.mp h with rfl | h
        · simp
        · exact ⟨(ih h).1, List.subset_cons_of_subset c (ih h).2⟩
      · rename_i hc
        cases hpieces : cs.splitOn sep with
        | nil => exact absurd hpieces (List.splitOn_ne_nil sep cs)
        | cons first pieces =>
            rw [hpieces, List.modifyHead_cons] at h
            rcases List.mem_cons.mp h with rfl | h
            · have hfirst : first ∈ cs.splitOn sep := by simp [hpieces]
              obtain ⟨hsep, hsub⟩ := ih hfirst
              have hne : sep ≠ c := fun heq => hc (beq_iff_eq.mpr heq.symm)
              exact ⟨by simp [hne, hsep], List.cons_subset_cons c hsub⟩
            · have hpiece : piece ∈ cs.splitOn sep := by simp [hpieces, h]
              obtain ⟨hsep, hsub⟩ := ih hpiece
              exact ⟨hsep, List.subset_cons_of_subset c hsub⟩

theorem exists_mem_splitOn {c : Char} (hc : c ∈ cs) (hne : c ≠ sep) :
    ∃ piece ∈ cs.splitOn sep, c ∈ piece := by
  induction cs with
  | nil => cases hc
  | cons x cs ih =>
      rw [List.splitOn_cons_eq_if_modifyHead]
      cases hpieces : cs.splitOn sep with
      | nil => exact absurd hpieces (List.splitOn_ne_nil sep cs)
      | cons first pieces =>
          rw [hpieces] at ih
          rcases List.mem_cons.mp hc with rfl | hc
          · have hx : ¬(c == sep) = true := by simpa using hne
            rw [if_neg hx, List.modifyHead_cons]
            exact ⟨c :: first, by simp, by simp⟩
          · obtain ⟨piece, hpiece, hmem⟩ := ih hc
            split
            · exact ⟨piece, List.mem_cons_of_mem _ hpiece, hmem⟩
            · rw [List.modifyHead_cons]
              rcases List.mem_cons.mp hpiece with rfl | hpiece
              · exact ⟨x :: piece, by simp, by simp [hmem]⟩
              · exact ⟨piece, List.mem_cons_of_mem _ hpiece, hmem⟩

/-- A component of a path: it is not empty, it does not stand for the directory it is in, and it
holds no slash. -/
structure IsComponent (part : String) : Prop where
  ne_empty : part ≠ ""
  ne_dot : part ≠ "."
  slash : '/' ∉ part.toList

theorem exists_piece_of_mem_components (h : part ∈ components cs) :
    part.toList ∈ cs.splitOn '/' ∧ part ≠ "" ∧ part ≠ "." := by
  obtain ⟨hmem, hkept⟩ := List.mem_filter.mp h
  obtain ⟨piece, hpiece, rfl⟩ := List.mem_map.mp hmem
  rw [splitAt_eq_splitOn] at hpiece
  simp only [Bool.and_eq_true, bne_iff_ne] at hkept
  rw [String.toList_ofList]
  exact ⟨hpiece, hkept⟩

theorem isComponent_of_mem_components (h : part ∈ components cs) : IsComponent part := by
  obtain ⟨hpiece, hempty, hdot⟩ := exists_piece_of_mem_components h
  exact ⟨hempty, hdot, (of_mem_splitOn hpiece).1⟩

theorem components_intercalate (h : ∀ part ∈ parts, IsComponent part) :
    components (String.intercalate "/" parts).toList = parts := by
  cases parts with
  | nil => rfl
  | cons first rest =>
      have hpieces : splitAt '/' (String.intercalate "/" (first :: rest)).toList =
          (first :: rest).map String.toList := by
        rw [splitAt_eq_splitOn, String.toList_intercalate]
        refine List.splitOn_intercalate '/' ?_ (by simp)
        intro piece hpiece
        obtain ⟨part, hpart, rfl⟩ := List.mem_map.mp hpiece
        exact (h part hpart).slash
      rw [components, hpieces, List.map_map]
      simp only [Function.comp_def, String.ofList_toList, List.map_id']
      rw [List.filter_eq_self]
      intro part hpart
      simp [(h part hpart).ne_empty, (h part hpart).ne_dot]

theorem components_slash (cs : List Char) : components ('/' :: cs) = components cs := by
  rw [components, components, splitAt]
  rfl

end Components

section Resolving

/-- An absolute path without pairs of dots. -/
structure IsResolved (p : Path) : Prop where
  root : p.root = "/"
  parts : ∀ part ∈ p.parts, IsComponent part ∧ part ≠ ".."

theorem text_of_isResolved (h : IsResolved p) : p.text = "/" ++ String.intercalate "/" p.parts := by
  simp [text, h.root]

theorem head?_intercalate_ne (h : ∀ part ∈ parts, IsComponent part) :
    (String.intercalate "/" parts).toList.head? ≠ some '/' := by
  cases parts with
  | nil => simp
  | cons first rest =>
      obtain ⟨hne, -, hslash⟩ := h first (by simp)
      have happend : ∃ tail, (String.intercalate "/" (first :: rest)).toList =
          first.toList ++ tail := by
        cases rest with
        | nil => exact ⟨[], by simp⟩
        | cons second rest => exact ⟨_, by rw [String.intercalate_cons_cons, String.append_assoc,
            String.toList_append]⟩
      obtain ⟨tail, htail⟩ := happend
      rw [htail]
      cases hfirst : first.toList with
      | nil => exact absurd (String.toList_eq_nil_iff.mp hfirst) hne
      | cons c cs =>
          rintro hc
          obtain rfl := Option.some.inj hc
          simp [hfirst] at hslash

theorem parse_slash {s : String} (hs : s.toList = '/' :: cs) (hhead : cs.head? ≠ some '/') :
    Path.parse s = ⟨"/", components cs⟩ := by
  rw [Path.parse, hs, components_slash]
  cases cs with
  | nil => rfl
  | cons c cs =>
      have hc : c ≠ '/' := fun h => hhead (congrArg some h)
      simp only [Path.mk.injEq, and_true]
      split
      · rename_i heq
        cases heq
        exact absurd rfl hc
      · rename_i heq
        cases heq
        exact absurd rfl hc
      · rfl
      · rename_i hnone
        exact absurd rfl (hnone _)

theorem parse_text (h : IsResolved p) : Path.parse p.text = p := by
  have hcomponents : ∀ part ∈ p.parts, IsComponent part := fun part hpart => (h.parts part hpart).1
  have hlist : p.text.toList = '/' :: (String.intercalate "/" p.parts).toList := by
    simp [text_of_isResolved h]
  rw [parse_slash hlist (head?_intercalate_ne hcomponents), components_intercalate hcomponents,
    ← h.root]

theorem expandHome_of_root {homes : Homes} (h : p.root = "/") : p.expandHome homes = .ok p := by
  rw [expandHome]
  split
  · rename_i hroot _
    rw [h] at hroot
    exact absurd hroot (by decide)
  · rfl

theorem foldDots_of_ne {found : List String} (h : ∀ part ∈ parts, part ≠ "..") :
    foldDots found parts = found.reverse ++ parts := by
  induction parts generalizing found with
  | nil => rw [foldDots, List.append_nil]
  | cons part parts ih =>
      have hpart : (part == "..") = false := beq_eq_false_iff_ne.mpr (h part (by simp))
      rw [foldDots, hpart, if_neg (by decide), ih fun other hother => h other (by simp [hother]),
        List.reverse_cons, List.append_assoc]
      rfl

theorem mem_foldDots {found : List String} (hfound : ∀ part ∈ found, part ≠ "..")
    (h : part ∈ foldDots found parts) : (part ∈ found ∨ part ∈ parts) ∧ part ≠ ".." := by
  induction parts generalizing found with
  | nil =>
      have hmem : part ∈ found := List.mem_reverse.mp h
      exact ⟨.inl hmem, hfound part hmem⟩
  | cons first parts ih =>
      rw [foldDots] at h
      split at h
      · obtain ⟨hmem, hne⟩ := ih (fun other hother => hfound other (List.mem_of_mem_drop hother)) h
        exact ⟨hmem.imp List.mem_of_mem_drop (List.mem_cons_of_mem first), hne⟩
      · rename_i hfirst
        have hkept : ∀ other ∈ first :: found, other ≠ ".." := by
          rintro other hother
          rcases List.mem_cons.mp hother with rfl | hother
          · simpa using hfirst
          · exact hfound other hother
        obtain ⟨hmem, hne⟩ := ih hkept h
        refine ⟨?_, hne⟩
        rcases hmem with hmem | hmem
        · rcases List.mem_cons.mp hmem with rfl | hmem
          · exact .inr List.mem_cons_self
          · exact .inl hmem
        · exact .inr (List.mem_cons_of_mem first hmem)

theorem isComponent_of_mem_parse {s : String} (h : part ∈ (Path.parse s).parts) :
    IsComponent part :=
  isComponent_of_mem_components h

theorem mem_absolute {directory : String} (h : part ∈ (p.absolute directory).parts) :
    (part ∈ (Path.parse directory).parts ∨ part ∈ p.parts) ∧ part ≠ ".." := by
  have hnone : ∀ other ∈ ([] : List String), other ≠ ".." := by simp
  obtain ⟨hmem, hne⟩ := mem_foldDots hnone h
  refine ⟨?_, hne⟩
  have hmem : part ∈ ((Path.parse directory).join p).parts := hmem.resolve_left (by simp)
  rw [join] at hmem
  split at hmem
  · exact List.mem_append.mp hmem
  · exact .inr hmem

variable {t : FileTree} {given : String}

/-- The home directory of a user is a path, and the name of the user holds no null character. -/
theorem of_directory {homes : Homes} {user : List Char} (h : homes.directory user = .ok p) :
    (∀ part ∈ p.parts, IsComponent part) ∧ Char.ofNat 0 ∉ user := by
  rw [Homes.directory] at h
  dsimp only at h
  split at h
  · cases h
  · rename_i hnull
    refine ⟨fun part hpart => ?_, by simpa using hnull⟩
    split at h
    · cases h
    · split at h
      · cases h
      · obtain rfl := Except.ok.inj h
        split at hpart
        · cases hpart
        · exact isComponent_of_mem_parse hpart

/-- A path keeps its components, unless a tilde with a user is replaced by a home directory. -/
theorem expandHome_cases {homes : Homes} {s : String}
    (h : (Path.parse s).expandHome homes = .ok p) :
    p = Path.parse s ∨ ∃ first user rest base, (Path.parse s).parts = first :: rest ∧
      first.toList = '~' :: user ∧ homes.directory user = .ok base ∧
      p = ⟨base.root, base.parts ++ rest⟩ := by
  rw [expandHome] at h
  split at h
  · rename_i first rest _ hparts
    split at h
    · rename_i user huser
      cases hbase : homes.directory user with
      | error e =>
          rw [hbase] at h
          cases h
      | ok base =>
          rw [hbase] at h
          obtain rfl := Except.ok.inj h
          exact .inr ⟨first, user, rest, base, hparts, huser, hbase, rfl⟩
    · exact .inl (Except.ok.inj h).symm
  · exact .inl (Except.ok.inj h).symm

theorem isComponent_of_expandHome {homes : Homes} {s : String}
    (h : (Path.parse s).expandHome homes = .ok p) (hpart : part ∈ p.parts) :
    IsComponent part := by
  obtain rfl | ⟨first, user, rest, base, hparts, -, hbase, rfl⟩ := expandHome_cases h
  · exact isComponent_of_mem_parse hpart
  · rcases List.mem_append.mp hpart with hpart | hpart
    · exact (of_directory hbase).1 part hpart
    · exact isComponent_of_mem_parse (s := s) (by simp [hparts, hpart])

theorem resolve_eq_ok_iff : t.resolve given = .ok p ↔ ∃ expanded,
    (Path.parse given).expandHome t.homes = .ok expanded ∧ expanded.resolve t.working = .ok p := by
  rw [FileTree.resolve]
  cases (Path.parse given).expandHome t.homes with
  | error e => simp [bind, Except.bind]
  | ok expanded => simp [bind, Except.bind]

theorem isResolved_of_resolve (h : t.resolve given = .ok p) : IsResolved p := by
  obtain ⟨expanded, hexpand, hresolve⟩ := resolve_eq_ok_iff.mp h
  rw [Path.resolve] at hresolve
  split at hresolve
  · cases hresolve
  · obtain rfl := Except.ok.inj hresolve
    refine ⟨rfl, fun part hpart => ?_⟩
    obtain ⟨hmem, hne⟩ := mem_absolute hpart
    refine ⟨?_, hne⟩
    rcases hmem with hmem | hmem
    · exact isComponent_of_mem_parse hmem
    · exact isComponent_of_expandHome hexpand hmem

theorem absolute_of_isResolved (h : IsResolved p) (directory : String) :
    p.absolute directory = p := by
  have hroot : (p.root == "") = false := by
    rw [h.root]
    rfl
  have hfold : foldDots [] p.parts = p.parts :=
    foldDots_of_ne fun part hpart => (h.parts part hpart).2
  rw [absolute, join, hroot, if_neg (by decide), hfold, ← h.root]

theorem resolve_eq_absolute {directory : String}
    (h : ∀ part ∈ p.parts, Char.ofNat 0 ∉ part.toList) :
    p.resolve directory = .ok (p.absolute directory) := by
  have hnone : (p.parts.any fun part => part.toList.contains (Char.ofNat 0)) = false := by
    rw [List.any_eq_false]
    intro part hpart
    rw [List.contains_iff_mem]
    exact h part hpart
  rw [Path.resolve, hnone, if_neg (by decide)]

theorem null_not_mem_of_path_resolve {directory : String} {q : Path}
    (h : p.resolve directory = .ok q) : ∀ part ∈ p.parts, Char.ofNat 0 ∉ part.toList := by
  rw [Path.resolve] at h
  split at h
  · cases h
  · rename_i hany
    intro part hpart hnull
    refine hany (List.any_eq_true.mpr ⟨part, hpart, ?_⟩)
    rwa [List.contains_iff_mem]

theorem null_not_mem_parse {s : String} (h : Char.ofNat 0 ∉ s.toList) :
    ∀ part ∈ (Path.parse s).parts, Char.ofNat 0 ∉ part.toList := by
  intro part hpart hnull
  have hpiece := (exists_piece_of_mem_components hpart).1
  exact h ((of_mem_splitOn hpiece).2 hnull)

theorem resolve_of_isResolved (h : IsResolved p)
    (hnull : ∀ part ∈ p.parts, Char.ofNat 0 ∉ part.toList) : t.resolve p.text = .ok p := by
  rw [resolve_eq_ok_iff]
  refine ⟨p, ?_, ?_⟩
  · rw [parse_text h, expandHome_of_root h.root]
  · rw [resolve_eq_absolute hnull, absolute_of_isResolved h]

theorem mem_of_expandHome {homes : Homes} {s : String}
    (h : (Path.parse s).expandHome homes = .ok p) (hpart : part ∈ (Path.parse s).parts)
    (hnull : Char.ofNat 0 ∈ part.toList) : part ∈ p.parts := by
  obtain rfl | ⟨first, user, rest, base, hparts, hfirst, hbase, rfl⟩ := expandHome_cases h
  · exact hpart
  · rw [hparts] at hpart
    rcases List.mem_cons.mp hpart with rfl | hpart
    · rw [hfirst] at hnull
      exact absurd (List.mem_of_ne_of_mem (by decide) hnull) (of_directory hbase).2
    · exact List.mem_append_right _ hpart

theorem null_not_mem_of_resolve (h : t.resolve given = .ok p) : Char.ofNat 0 ∉ given.toList := by
  intro hmem
  obtain ⟨piece, hpiece, hnull⟩ := @exists_mem_splitOn '/' _ _ hmem (by decide)
  have hne (other : String) (hother : Char.ofNat 0 ∉ other.toList) :
      String.ofList piece ≠ other := by
    rintro rfl
    rw [String.toList_ofList] at hother
    exact hother hnull
  have hpart : String.ofList piece ∈ (Path.parse given).parts := by
    refine List.mem_filter.mpr ⟨List.mem_map_of_mem (by rwa [splitAt_eq_splitOn]), ?_⟩
    simp [hne "" (by decide), hne "." (by decide)]
  obtain ⟨expanded, hexpand, hexpanded⟩ := resolve_eq_ok_iff.mp h
  rw [← String.toList_ofList (l := piece)] at hnull
  have hkept := mem_of_expandHome hexpand hpart hnull
  exact null_not_mem_of_path_resolve hexpanded _ hkept hnull

theorem sourceLine_eq (h : Char.ofNat 0 ∉ given.toList) (line : Int) :
    t.sourceLine given line = .ok (t.lineOf given line) := by
  rw [FileTree.sourceLine, if_neg (by rwa [List.contains_iff_mem])]

end Resolving

end SymbolSearch.Proofs.PathResolution
