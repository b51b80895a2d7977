import Mathlib.Data.List.Infix
import SymbolSearch.Identifier
import SymbolSearch.Proofs.MatchRuns

namespace SymbolSearch.Proofs.NameBounds

open Identifier Pattern MatchRuns

section Places

/-- The character before a place, if there is one, belongs to no name. -/
def FreeBefore (text : List Char) (p : Nat) : Prop :=
  ∀ k x, k + 1 = p → text[k]? = some x → isRest x = false

/-- The character behind a place, if there is one, belongs to no name. -/
def FreeBehind (text : List Char) (p : Nat) : Prop :=
  ∀ x, text[p]? = some x → isRest x = false

/-- No name reaches up to a place from before, or one of the given words does. -/
def Led (front : List (List Char)) (text : List Char) (p : Nat) : Prop :=
  FreeBefore text p ∨ ∃ w ∈ front, w <:+ text.take p

/-- No name goes on behind a place, or one of the given words does. -/
def Trailed (back : List (List Char)) (text : List Char) (p : Nat) : Prop :=
  FreeBehind text p ∨ ∃ w ∈ back, w <+: text.drop p

/-- A text stands between two places of another. -/
def Reads (text v : List Char) (p q : Nat) : Prop :=
  v <+: text.drop p ∧ q = p + v.length

variable {text v w : List Char} {p q r : Nat}

theorem reads_nil (text : List Char) (p : Nat) : Reads text [] p p :=
  ⟨List.nil_prefix, rfl⟩

theorem reads_singleton {x : Char} (h : text[p]? = some x) : Reads text [x] p (p + 1) := by
  refine ⟨?_, rfl⟩
  obtain ⟨hlt, rfl⟩ := List.getElem?_eq_some_iff.mp h
  rw [List.drop_eq_getElem_cons hlt]
  exact List.prefix_append [text[p]] _

theorem Reads.append (h : Reads text v p q) (h' : Reads text w q r) :
    Reads text (v ++ w) p r := by
  obtain ⟨⟨rest, hrest⟩, rfl⟩ := h
  obtain ⟨hbegins, rfl⟩ := h'
  refine ⟨?_, by simp [Nat.add_assoc]⟩
  have hdrop : text.drop (p + v.length) = rest := by
    rw [← List.drop_drop, ← hrest, List.drop_left]
  rw [hdrop] at hbegins
  rw [← hrest]
  exact (List.prefix_append_right_inj v).mpr hbegins

theorem Reads.suffix_take (h : Reads text v p q) : v <:+ text.take q := by
  obtain ⟨⟨rest, hrest⟩, rfl⟩ := h
  rw [List.take_add, ← hrest, List.take_left]
  exact List.suffix_append _ v

theorem Reads.extract_eq (h : Reads text v p q) : text.extract p q = v := by
  obtain ⟨⟨rest, hrest⟩, rfl⟩ := h
  rw [List.extract_eq_take_drop, ← hrest, Nat.add_sub_cancel_left, List.take_left]

end Places

section Sets

/-- The characters that names consist of. -/
def nameChars : List Char :=
  ((List.range 128).map Char.ofNat).filter isRest

theorem toNat_lt_of_isRest {x : Char} (h : isRest x = true) : x.toNat < 128 := by
  simp only [isRest, Bool.or_eq_true, beq_iff_eq] at h
  rcases h with h | rfl
  · delta Char.isAlphanum Char.isAlpha Char.isUpper Char.isLower Char.isDigit at h
    simp only [Bool.or_eq_true, Bool.and_eq_true, decide_eq_true_eq,
      UInt32.le_iff_toNat_le] at h
    have hval : x.toNat = x.val.toNat := rfl
    have : 'Z'.val.toNat = 90 := rfl
    have : 'z'.val.toNat = 122 := rfl
    have : '9'.val.toNat = 57 := rfl
    omega
  · decide

theorem mem_nameChars {x : Char} (h : isRest x = true) : x ∈ nameChars := by
  refine List.mem_filter.mpr ⟨List.mem_map.mpr ⟨x.toNat, ?_, Char.ofNat_toNat x⟩, h⟩
  exact List.mem_range.mpr (toNat_lt_of_isRest h)

theorem eq_of_literal? {set : CharSet} {n : Nat} (h : set.literal? = some n) {x : Char}
    (hx : set.contains x = true) : x = Char.ofNat n := by
  unfold CharSet.literal? at h
  split at h
  · cases h
    have hpoint : x.toNat = n := by
      simpa [CharSet.contains, Folding.siblings, Folding.lower] using hx
    rw [← hpoint, Char.ofNat_toNat]
  · cases h

/-- Whether a set holds no character of names. -/
def avoidsNames (set : CharSet) : Bool :=
  match set.literal? with
  | some n => !isRest (Char.ofNat n)
  | none => nameChars.all fun x => !set.contains x

theorem isRest_of_avoidsNames {set : CharSet} (h : avoidsNames set = true) {x : Char}
    (hx : set.contains x = true) : isRest x = false := by
  unfold avoidsNames at h
  split at h
  · rename_i n hn
    rw [eq_of_literal? hn hx]
    simpa using h
  · apply Bool.eq_false_iff.mpr
    intro hrest
    have havoid := List.all_eq_true.mp h x (mem_nameChars hrest)
    simp [hx] at havoid

end Sets

section Stems

/-- The characters that a tree spells out at its beginning, and whether these are all of it. -/
def stem : Node → List Char × Bool
  | .empty | .anchor _ => ([], true)
  | .one set =>
      match set.literal? with
      | some n => ([Char.ofNat n], true)
      | none => ([], false)
  | .seq a b => if (stem a).2 then ((stem a).1 ++ (stem b).1, (stem b).2) else stem a
  | .group _ body | .scope body => stem body
  | _ => ([], false)

theorem reads_stem {text : List Char} {node : Node} {p q : Nat} (h : Spans text node p q) :
    (stem node).1 <+: text.drop p ∧ ((stem node).2 = true → Reads text (stem node).1 p q) := by
  induction node generalizing p q with
  | empty =>
      obtain rfl := h
      exact ⟨List.nil_prefix, fun _ => reads_nil text p⟩
  | anchor a =>
      obtain rfl := h.1
      exact ⟨List.nil_prefix, fun _ => reads_nil text p⟩
  | one set =>
      obtain ⟨⟨x, hx, hset⟩, rfl⟩ := h
      rw [stem]
      split
      · rename_i n hn
        rw [← eq_of_literal? hn hset]
        exact ⟨(reads_singleton hx).1, fun _ => reads_singleton hx⟩
      · exact ⟨List.nil_prefix, nofun⟩
  | seq a b iha ihb =>
      obtain ⟨m, ha, hb⟩ := h
      rw [stem]
      split
      · rename_i hwhole
        have hreads := (iha ha).2 hwhole
        have hlength := hreads.2
        subst hlength
        refine ⟨(hreads.append ⟨(ihb hb).1, rfl⟩).1, fun h => hreads.append ((ihb hb).2 h)⟩
      · rename_i hpart
        exact ⟨(iha ha).1, fun h => absurd h hpart⟩
  | group i body ih | scope body ih => exact ih h
  | _ => exact ⟨List.nil_prefix, nofun⟩

/-- Whether a tree matches nothing but one of the given words. -/
def spellsOneOf (words : List (List Char)) (node : Node) : Bool :=
  (stem node).2 && words.contains (stem node).1

/-- Whether a tree begins with one of the given words. -/
def beginsWithOneOf (words : List (List Char)) (node : Node) : Bool :=
  words.any fun w => w.isPrefixOf (stem node).1

end Stems

section Bounds

/-- Whether no name reaches up to the end of what a tree matches, apart from the given words. The
flag tells whether this is so where the match begins. -/
def leads (front : List (List Char)) : Node → Bool → Bool
  | .empty, led => led
  | .one set, _ => avoidsNames set
  | .anchor a, led => led || a == .lineStart false
  | .seq a b, led => spellsOneOf front (.seq a b) || leads front b (leads front a led)
  | .alt a b, led => leads front a led && leads front b led
  | .group _ body, led | .scope body, led => leads front body led
  | .loop least _ .greedy body, led =>
      led && leads front body true || least != 0 && leads front body false
  | _, _ => false

/-- Whether no name goes on where a match of a tree begins, apart from the given words. The flag
tells whether this is so where the match ends. -/
def trails (back : List (List Char)) : Node → Bool → Bool
  | .empty, trailed | .anchor _, trailed => trailed
  | .one set, _ => avoidsNames set
  | .seq a b, trailed =>
      beginsWithOneOf back (.seq a b) || trails back a (trails back b trailed)
  | .alt a b, trailed => trails back a trailed && trails back b trailed
  | .group _ body, trailed | .scope body, trailed => trails back body trailed
  | .loop least _ .greedy body, trailed =>
      trailed && trails back body true || least != 0 && trails back body false
  | _, _ => false

variable {text : List Char} {p q : Nat}

theorem freeBefore_of_lineStart (h : (Anchor.lineStart false).holds (placeAt text p) = true) :
    FreeBefore text p := by
  rintro k x rfl hx
  have hempty : text.take (k + 1) = [] := by
    simpa [Anchor.holds, placeAt] using h
  have hnil : text = [] := by simpa using hempty
  rw [hnil] at hx
  cases hx

theorem freeBefore_of_one {set : CharSet} (havoid : avoidsNames set = true)
    (h : Spans text (.one set) p q) : FreeBefore text q := by
  obtain ⟨⟨x, hx, hset⟩, rfl⟩ := h
  rintro k y hk hy
  obtain rfl : k = p := by omega
  obtain rfl := Option.some.inj (hx.symm.trans hy)
  exact isRest_of_avoidsNames havoid hset

theorem freeBehind_of_one {set : CharSet} (havoid : avoidsNames set = true)
    (h : Spans text (.one set) p q) : FreeBehind text p := by
  obtain ⟨⟨x, hx, hset⟩, rfl⟩ := h
  intro y hy
  obtain rfl := Option.some.inj (hx.symm.trans hy)
  exact isRest_of_avoidsNames havoid hset

theorem led_of_leads {front : List (List Char)} {node : Node} {led : Bool}
    (h : leads front node led = true) (hspan : Spans text node p q)
    (hled : led = true → Led front text p) : Led front text q := by
  induction node generalizing led p q with
  | empty =>
      obtain rfl := hspan
      exact hled h
  | one set => exact .inl (freeBefore_of_one h hspan)
  | anchor a =>
      obtain ⟨rfl, hholds⟩ := hspan
      rcases Bool.or_eq_true_iff.mp h with h | h
      · exact hled h
      · obtain rfl := eq_of_beq h
        exact .inl (freeBefore_of_lineStart hholds)
  | seq a b iha ihb =>
      rcases Bool.or_eq_true_iff.mp h with h | h
      · obtain ⟨hwhole, hword⟩ := Bool.and_eq_true_iff.mp h
        exact .inr ⟨_, List.contains_iff_mem.mp hword, ((reads_stem hspan).2 hwhole).suffix_take⟩
      · obtain ⟨m, ha, hb⟩ := hspan
        exact ihb h hb fun hm => iha hm ha hled
  | alt a b iha ihb =>
      obtain ⟨ha, hb⟩ := Bool.and_eq_true_iff.mp h
      rcases hspan with hspan | hspan
      · exact iha ha hspan hled
      · exact ihb hb hspan hled
  | group i body ih | scope body ih => exact ih h hspan hled
  | loop least most mode body ih =>
      cases mode with
      | frugal | possessive => cases h
      | greedy =>
          obtain ⟨n, hn, hrounds⟩ := hspan
          rcases Bool.or_eq_true_iff.mp h with h | h
          · obtain ⟨hstart, hbody⟩ := Bool.and_eq_true_iff.mp h
            exact hrounds.lead (fun m m' hround hm => ih hbody hround fun _ => hm) (hled hstart)
          · obtain ⟨hleast, hbody⟩ := Bool.and_eq_true_iff.mp h
            have hzero : least ≠ 0 := bne_iff_ne.mp hleast
            obtain ⟨m, hlast⟩ := hrounds.last (by omega)
            exact ih hbody hlast nofun
  | _ => cases h

theorem trailed_of_trails {back : List (List Char)} {node : Node} {trailed : Bool}
    (h : trails back node trailed = true) (hspan : Spans text node p q)
    (htrailed : trailed = true → Trailed back text q) : Trailed back text p := by
  induction node generalizing trailed p q with
  | empty =>
      obtain rfl := hspan
      exact htrailed h
  | one set => exact .inl (freeBehind_of_one h hspan)
  | anchor a =>
      obtain ⟨rfl, -⟩ := hspan
      exact htrailed h
  | seq a b iha ihb =>
      rcases Bool.or_eq_true_iff.mp h with h | h
      · obtain ⟨w, hw, hbegins⟩ := List.any_eq_true.mp h
        exact .inr ⟨w, hw, (List.isPrefixOf_iff_prefix.mp hbegins).trans (reads_stem hspan).1⟩
      · obtain ⟨m, ha, hb⟩ := hspan
        exact iha h ha fun hm => ihb hm hb htrailed
  | alt a b iha ihb =>
      obtain ⟨ha, hb⟩ := Bool.and_eq_true_iff.mp h
      rcases hspan with hspan | hspan
      · exact iha ha hspan htrailed
      · exact ihb hb hspan htrailed
  | group i body ih | scope body ih => exact ih h hspan htrailed
  | loop least most mode body ih =>
      cases mode with
      | frugal | possessive => cases h
      | greedy =>
          obtain ⟨n, hn, hrounds⟩ := hspan
          rcases Bool.or_eq_true_iff.mp h with h | h
          · obtain ⟨hend, hbody⟩ := Bool.and_eq_true_iff.mp h
            exact hrounds.trail (fun m m' hround hm => ih hbody hround fun _ => hm)
              (htrailed hend)
          · obtain ⟨hleast, hbody⟩ := Bool.and_eq_true_iff.mp h
            have hzero : least ≠ 0 := bne_iff_ne.mp hleast
            obtain ⟨m, hfirst⟩ := hrounds.first (by omega)
            exact ih hbody hfirst nofun
  | _ => cases h

end Bounds

section Spellings

/-- Whether it is told of every part of a tree what it matches. -/
def isPlain : Node → Bool
  | .empty | .one _ | .anchor _ => true
  | .seq a b | .alt a b => isPlain a && isPlain b
  | .group _ body | .scope body => isPlain body
  | .loop _ _ mode body => mode == .greedy && isPlain body
  | _ => false

/-- Every word of one list followed by every word of another. Where one list has none, the other
does not matter. -/
def joined : Option (List (List Char)) → Option (List (List Char)) → Option (List (List Char))
  | some [], _ | _, some [] => some []
  | some vs, some ws => some (vs.flatMap fun v => ws.map (v ++ ·))
  | _, _ => none

/-- All texts of name characters that a tree can match, when they are known. -/
def spellings : Node → Option (List (List Char))
  | .empty | .anchor _ => some [[]]
  | .one set => if avoidsNames set then some [] else set.literal?.map fun n => [[Char.ofNat n]]
  | .seq a b => joined (spellings a) (spellings b)
  | .alt a b => (spellings a).bind fun vs => (spellings b).map (vs ++ ·)
  | .group _ body | .scope body => spellings body
  | .loop least _ _ body =>
      (spellings body).bind fun ws =>
        if ws.all List.isEmpty then some (if least = 0 then [[]] else ws) else none
  | _ => none

variable {text : List Char} {p q : Nat}

/-- A text of name characters is one of some words, if these are known. -/
def Among (words : Option (List (List Char))) (v : List Char) : Prop :=
  ∀ ws, words = some ws → v.all isRest = true → v ∈ ws

theorem among_joined {vs ws : Option (List (List Char))} {v w : List Char} (hv : Among vs v)
    (hw : Among ws w) : Among (joined vs ws) (v ++ w) := by
  intro us hus hall
  rw [List.all_append, Bool.and_eq_true] at hall
  unfold joined at hus
  split at hus
  · exact absurd (hv _ rfl hall.1) List.not_mem_nil
  · exact absurd (hw _ rfl hall.2) List.not_mem_nil
  · obtain rfl := Option.some.inj hus
    exact List.mem_flatMap.mpr
      ⟨v, hv _ rfl hall.1, List.mem_map.mpr ⟨w, hw _ rfl hall.2, rfl⟩⟩
  · cases hus

theorem among_nil : Among (some [[]]) [] := by
  rintro ws ⟨⟩ -
  exact List.mem_singleton_self _

theorem among_union_left {vs : Option (List (List Char))} {v : List Char} (h : Among vs v)
    (ws : Option (List (List Char))) :
    Among (vs.bind fun vs => ws.map (vs ++ ·)) v := by
  intro us hus hall
  obtain ⟨vs, rfl, hus⟩ := Option.bind_eq_some_iff.mp hus
  obtain ⟨ws, -, rfl⟩ := Option.map_eq_some_iff.mp hus
  exact List.mem_append_left _ (h vs rfl hall)

theorem among_union_right {ws : Option (List (List Char))} {w : List Char} (h : Among ws w)
    (vs : Option (List (List Char))) :
    Among (vs.bind fun vs => ws.map (vs ++ ·)) w := by
  intro us hus hall
  obtain ⟨vs, -, hus⟩ := Option.bind_eq_some_iff.mp hus
  obtain ⟨ws, rfl, rfl⟩ := Option.map_eq_some_iff.mp hus
  exact List.mem_append_right _ (h ws rfl hall)

theorem reads_rounds {words : Option (List (List Char))} {R : Nat → Nat → Prop} {n : Nat}
    (h : Repeats R n p q) (hround : ∀ m m', R m m' → ∃ v, Reads text v m m' ∧ Among words v) :
    ∃ v, Reads text v p q ∧ ∀ ws, words = some ws → ws.all List.isEmpty = true →
      v.all isRest = true → v = [] ∧ (n ≠ 0 → v ∈ ws) := by
  induction n generalizing q with
  | zero =>
      obtain rfl := h
      refine ⟨[], reads_nil text p, ?_⟩
      intro ws _ _ _
      exact ⟨rfl, fun hn => absurd rfl hn⟩
  | succ n ih =>
      obtain ⟨m, hrounds, hlast⟩ := h
      obtain ⟨v, hv, hempty⟩ := ih hrounds
      obtain ⟨w, hw, hamong⟩ := hround m q hlast
      refine ⟨v ++ w, hv.append hw, ?_⟩
      intro ws hws hall hnames
      rw [List.all_append, Bool.and_eq_true] at hnames
      obtain ⟨rfl, -⟩ := hempty ws hws hall hnames.1
      have hmem : w ∈ ws := hamong ws hws hnames.2
      obtain rfl : w = [] := by simpa using List.all_eq_true.mp hall w hmem
      exact ⟨rfl, fun _ => hmem⟩

theorem reads_spellings {node : Node} (hplain : isPlain node = true)
    (h : Spans text node p q) : ∃ v, Reads text v p q ∧ Among (spellings node) v := by
  induction node generalizing p q with
  | empty =>
      obtain rfl := h
      exact ⟨[], reads_nil text p, among_nil⟩
  | anchor a =>
      obtain ⟨rfl, -⟩ := h
      exact ⟨[], reads_nil text p, among_nil⟩
  | one set =>
      obtain ⟨⟨x, hx, hset⟩, rfl⟩ := h
      refine ⟨[x], reads_singleton hx, ?_⟩
      intro ws hws hall
      rw [spellings] at hws
      split at hws
      · rename_i havoid
        have hfree := isRest_of_avoidsNames havoid hset
        simp [hfree] at hall
      · obtain ⟨n, hn, rfl⟩ := Option.map_eq_some_iff.mp hws
        rw [eq_of_literal? hn hset]
        exact List.mem_singleton_self _
  | seq a b iha ihb =>
      obtain ⟨ha, hb⟩ := Bool.and_eq_true_iff.mp hplain
      obtain ⟨m, hspana, hspanb⟩ := h
      obtain ⟨v, hv, hamong⟩ := iha ha hspana
      obtain ⟨w, hw, hamong'⟩ := ihb hb hspanb
      exact ⟨v ++ w, hv.append hw, among_joined hamong hamong'⟩
  | alt a b iha ihb =>
      obtain ⟨ha, hb⟩ := Bool.and_eq_true_iff.mp hplain
      rcases h with h | h
      · obtain ⟨v, hv, hamong⟩ := iha ha h
        exact ⟨v, hv, among_union_left hamong _⟩
      · obtain ⟨w, hw, hamong⟩ := ihb hb h
        exact ⟨w, hw, among_union_right hamong _⟩
  | group i body ih | scope body ih => exact ih hplain h
  | loop least most mode body ih =>
      obtain ⟨hmode, hbody⟩ := Bool.and_eq_true_iff.mp hplain
      obtain rfl := eq_of_beq hmode
      obtain ⟨n, hn, hrounds⟩ := h
      obtain ⟨v, hv, hempty⟩ := reads_rounds hrounds fun m m' => ih hbody
      refine ⟨v, hv, ?_⟩
      intro us hus hall
      obtain ⟨ws, hws, hus⟩ := Option.bind_eq_some_iff.mp hus
      split at hus
      · rename_i hwords
        obtain ⟨rfl, hmem⟩ := hempty ws hws hwords hall
        obtain rfl := Option.some.inj hus
        split
        · exact List.mem_singleton_self _
        · exact hmem (by omega)
      · cases hus
  | _ => cases hplain

end Spellings

end SymbolSearch.Proofs.NameBounds
