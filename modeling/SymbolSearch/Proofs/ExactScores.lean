import Mathlib.Algebra.Order.Floor.Semiring
import Mathlib.Analysis.Convex.Basic
import Mathlib.Data.Rat.Floor
import Mathlib.Tactic.Linarith
import Mathlib.Tactic.NormNum
import SymbolSearch.Proofs.ExactRounding
import SymbolSearch.Proofs.ProgramRuns
import SymbolSearch.Proofs.Traversal
import SymbolSearch.Recency.Score

namespace SymbolSearch.Proofs.ExactScores

open Decimal
open ExactRounding
open ItemOrder
open Traversal

section Arithmetic

/-- Exact arithmetic on rational numbers, with any function in the place of powers. -/
def exact (power : ℚ → ℚ → ℚ) : Arithmetic ℚ where
  integer n := n
  zero := 0
  less a b := .ok (decide (a < b))
  add a b := .ok (a + b)
  sub a b := .ok (a - b)
  mul a b := .ok (a * b)
  div a b := if b = 0 then .error .divisionByZero else .ok (a / b)
  power a b := .ok (power a b)
  round places a := .ok (roundExact places a)

/-- The age in hours at a time. -/
def hours (last now : ℤ) : ℚ :=
  max 0 ((now - last) / Scoring.hour)

/-- The weighted mean of recency and frequency before it is rounded, where `fading` tells what is
left of recency after a number of hours. -/
def blended (s : Scoring ℚ) (fading : ℚ → ℚ) (last count now : ℤ) : ℚ :=
  s.weight * (fading (min (hours last now) s.maxAge) * s.maxScore) +
    (1 - s.weight) * (min (count : ℚ) s.cap * (s.maxScore / s.cap))

/-- The mean, rounded to one decimal place. -/
def exactScore (s : Scoring ℚ) (fading : ℚ → ℚ) (last count now : ℤ) : ℚ :=
  roundExact 1 (blended s fading last count now)

variable {s : Scoring ℚ} {power : ℚ → ℚ → ℚ}

theorem smaller_exact (a b : ℚ) : Scoring.smaller (exact power) a b = .ok (min a b) := by
  by_cases h : b < a
  · have hmin : min a b = b := min_eq_right h.le
    simp [Scoring.smaller, exact, h, hmin, bind, Except.bind, pure, Except.pure]
  · have hmin : min a b = a := min_eq_left (not_lt.mp h)
    simp [Scoring.smaller, exact, h, hmin, bind, Except.bind, pure, Except.pure]

theorem age_exact (last now : ℤ) :
    Scoring.age (exact power) (last : ℚ) now = .ok (hours last now) := by
  have hhour : ((Scoring.hour : ℤ) : ℚ) ≠ 0 := by norm_num [Scoring.hour]
  by_cases h : (0 : ℚ) < (now - last) / Scoring.hour
  · simp [Scoring.age, exact, hhour, h, hours, h.le, bind, Except.bind, pure, Except.pure]
  · simp [Scoring.age, exact, hhour, h, hours, not_lt.mp h, bind, Except.bind, pure, Except.pure]

theorem score_exact (hcap : s.cap ≠ 0) (last count now : ℤ) :
    Scoring.score (exact power) s last count now =
      .ok (exactScore s (power s.decay) last count now) := by
  have hrecency : Scoring.recency (exact power) s (last : ℚ) now =
      .ok (power s.decay (min (hours last now) s.maxAge) * s.maxScore) := by
    rw [Scoring.recency, age_exact]
    simp only [bind, Except.bind, smaller_exact]
    rfl
  have hfrequency : Scoring.frequency (exact power) s (count : ℚ) =
      .ok (min (count : ℚ) s.cap * (s.maxScore / s.cap)) := by
    rw [Scoring.frequency, smaller_exact]
    simp only [exact, hcap, if_false, bind, Except.bind]
  rw [Scoring.score, hrecency, hfrequency]
  simp only [exact, bind, Except.bind, Int.cast_one]
  rfl

end Arithmetic

section Settings

/-- The rational number that a setting stands for: its exact value, if it is a finite number. -/
def rational? (value : Json) : Option ℚ :=
  match (Operand.ofJson value).number?.bind Number.binary? with
  | some (.finite negative mantissa exponent) =>
      some ((if negative then -1 else 1) * (mantissa * 2 ^ exponent))
  | _ => none

/-- The constants of a score, read exactly. -/
def scoring? (config : Config) : Option (Scoring ℚ) := do
  return ⟨← rational? config.decay, ← rational? config.maxAge, ← rational? config.maxScore,
    ← rational? config.recencyWeight, ← rational? config.frequencyCap⟩

variable {config : Config} {s : Scoring ℚ} {a b : Json} {p q : ℚ}

theorem exists_number_of_rational? (h : rational? a = some p) :
    ∃ type n, Operand.ofJson a = .number type n ∧
      exactValue n = some ((p : WithTop ℚ) : ExtendedRat) := by
  rw [rational?] at h
  split at h
  · rename_i negative mantissa exponent hbinary
    obtain rfl := Option.some.inj h
    obtain ⟨n, hnumber, hn⟩ := Option.bind_eq_some_iff.mp hbinary
    cases hoperand : Operand.ofJson a with
    | number type m =>
        rw [hoperand] at hnumber
        obtain rfl := Option.some.inj hnumber
        exact ⟨type, _, rfl, by rw [exactValue, hn]; rfl⟩
    | sequence type => rw [hoperand] at hnumber; cases hnumber
    | other type => rw [hoperand] at hnumber; cases hnumber
  · cases h

theorem rational?_int (n : ℤ) : rational? (.int n) = some (n : ℚ) := by
  have hvalue : ((if decide (n < 0) then -1 else 1) * (n.natAbs * 2 ^ (0 : ℤ)) : ℚ) = n := by
    rw [zpow_zero, mul_one]
    by_cases hn : n < 0
    · have habs : (n.natAbs : ℤ) = -n := Int.ofNat_natAbs_of_nonpos hn.le
      rw [decide_eq_true hn, if_pos rfl, ← Int.cast_natCast, habs]
      push_cast
      ring
    · have habs : (n.natAbs : ℤ) = n := Int.natAbs_of_nonneg (not_lt.mp hn)
      rw [decide_eq_false hn, if_neg Bool.false_ne_true, ← Int.cast_natCast, habs, one_mul]
  exact congrArg some hvalue

theorem cmp_coe (p q : ℚ) :
    cmp ((p : WithTop ℚ) : ExtendedRat) ((q : WithTop ℚ) : ExtendedRat) = cmp p q := by
  simp only [cmp, cmpUsing, WithBot.coe_lt_coe, WithTop.coe_lt_coe]

theorem exists_compareWith (sign : String) (holds : Number → Number → Bool)
    (hp : rational? a = some p) (hq : rational? b = some q) :
    ∃ m n, m.compare? n = some (cmp p q) ∧
      Config.compare (Operand.compareWith sign holds) a b = .ok (holds m n) := by
  obtain ⟨type, m, ha, hm⟩ := exists_number_of_rational? hp
  obtain ⟨type', n, hb, hn⟩ := exists_number_of_rational? hq
  refine ⟨m, n, by rw [compare?_eq hm hn, cmp_coe], ?_⟩
  rw [Config.compare, ha, hb]
  cases m with
  | nonreal => cases hm
  | int k => cases n with
    | nonreal => cases hn
    | int l => rfl
    | real y => rfl
  | real x => cases n with
    | nonreal => cases hn
    | int l => rfl
    | real y => rfl

theorem less_rational (hp : rational? a = some p) (hq : rational? b = some q) :
    Config.compare Operand.less a b = .ok (decide (p < q)) := by
  obtain ⟨m, n, hcompare, hless⟩ := exists_compareWith "<" Number.less hp hq
  refine hless.trans (congrArg Except.ok ?_)
  rw [Number.less, hcompare]
  rcases lt_trichotomy p q with h | h | h
  · rw [h.cmp_eq_lt, decide_eq_true h]
    rfl
  · rw [h, cmp_self_eq_eq, decide_eq_false (lt_irrefl q)]
    rfl
  · rw [h.cmp_eq_gt, decide_eq_false h.not_gt]
    rfl

theorem atMost_rational (hp : rational? a = some p) (hq : rational? b = some q) :
    Config.compare Operand.atMost a b = .ok (decide (p ≤ q)) := by
  obtain ⟨m, n, hcompare, hatMost⟩ := exists_compareWith "<=" Number.atMost hp hq
  refine hatMost.trans (congrArg Except.ok ?_)
  rw [Number.atMost, hcompare]
  rcases lt_trichotomy p q with h | h | h
  · rw [h.cmp_eq_lt, decide_eq_true h.le]
  · rw [h, cmp_self_eq_eq, decide_eq_true le_rfl]
  · rw [h.cmp_eq_gt, decide_eq_false h.not_ge]

theorem check_eq_ok_iff {ε α : Type} {x : Except ε Bool} {refused : Bool → Bool} {error : ε}
    {next : Unit → Except ε α} {result : α} :
    (x >>= fun found => if refused found = true then throw error >>= next else next ()) =
        .ok result ↔
      ∃ found, x = .ok found ∧ refused found = false ∧ next () = .ok result := by
  cases x with
  | error e => simp [bind, Except.bind]
  | ok found =>
      cases hrefused : refused found <;>
        simp [bind, Except.bind, throw, throwThe, MonadExceptOf.throw, hrefused]

/-- What the checks of the settings find out about the constants of a score. -/
theorem checks_of_validate (h : config.validate = .ok ()) :
    Config.compare Operand.less config.frequencyCap (.int 1) = .ok false ∧
      Config.isBetween Operand.atMost config.recencyWeight = .ok true := by
  rw [Config.validate] at h
  obtain ⟨-, -, -, h⟩ := check_eq_ok_iff.mp h
  obtain ⟨-, -, -, h⟩ := check_eq_ok_iff.mp h
  obtain ⟨-, -, -, h⟩ := check_eq_ok_iff.mp h
  obtain ⟨-, -, -, h⟩ := check_eq_ok_iff.mp h
  obtain ⟨wrong, hcap, rfl, h⟩ := check_eq_ok_iff.mp h
  obtain ⟨-, -, -, h⟩ := check_eq_ok_iff.mp h
  obtain ⟨⟨⟩, hweight, -⟩ := bind_eq_ok_iff.mp h
  obtain ⟨inRange, hrange, hweight⟩ := bind_eq_ok_iff.mp hweight
  cases inRange with
  | false => cases hweight
  | true => exact ⟨hcap, hrange⟩

theorem rational?_real {x : Float} {negative : Bool} {mantissa : Nat} {exponent : Int}
    (h : Binary.ofFloat x = .finite negative mantissa exponent) :
    rational? (.real x) =
      some ((if negative then -1 else 1) * (mantissa * 2 ^ exponent) : ℚ) := by
  have hbinary : (Operand.ofJson (.real x)).number?.bind Number.binary? =
      some (.finite negative mantissa exponent) := congrArg some h
  rw [rational?, hbinary]

theorem between_of_isBetween (hp : rational? a = some p)
    (h : Config.isBetween Operand.atMost a = .ok true) : 0 ≤ p ∧ p ≤ 1 := by
  have hzero : rational? (.real 0) = some 0 := by
    rw [rational?_real (x := 0) (show Binary.ofFloat 0 = .finite false 0 (-1074) by rfl)]
    norm_num
  have hone : rational? (.real 1) = some 1 := by
    rw [rational?_real (x := 1)
      (show Binary.ofFloat 1 = .finite false 4503599627370496 (-52) by rfl)]
    norm_num
  rw [Config.isBetween, atMost_rational hzero hp, atMost_rational hp hone] at h
  by_cases hlow : 0 ≤ p
  · simpa [bind, Except.bind, hlow] using h
  · simp [bind, Except.bind, hlow, pure, Except.pure] at h

/-- The constants of a score as accepted settings have them. -/
structure Admissible (s : Scoring ℚ) : Prop where
  one_le_cap : 1 ≤ s.cap
  weight_nonneg : 0 ≤ s.weight
  weight_le_one : s.weight ≤ 1
  maxScore_eq : s.maxScore = 100
  maxAge_nonneg : 0 ≤ s.maxAge

theorem rational?_of_scoring? (h : scoring? config = some s) :
    rational? config.recencyWeight = some s.weight ∧
      rational? config.frequencyCap = some s.cap := by
  simp only [scoring?, bind, pure, Option.bind_eq_some_iff] at h
  obtain ⟨_, -, _, -, _, -, weight, hweight, cap, hcap, h⟩ := h
  obtain rfl := Option.some.inj h
  exact ⟨hweight, hcap⟩

theorem admissible_of_validate (hvalid : config.validate = .ok ()) (h : scoring? config = some s)
    (hscore : s.maxScore = 100) (hage : 0 ≤ s.maxAge) : Admissible s := by
  obtain ⟨hcap, hweight⟩ := checks_of_validate hvalid
  obtain ⟨hweight', hcap'⟩ := rational?_of_scoring? h
  obtain ⟨hlow, hhigh⟩ := between_of_isBetween hweight' hweight
  rw [less_rational hcap' (rational?_int 1)] at hcap
  have hone : ¬s.cap < ((1 : ℤ) : ℚ) := of_decide_eq_false (Except.ok.inj hcap)
  exact ⟨by simpa using hone, hlow, hhigh, hscore, hage⟩

theorem scoring?_of_ofEnvironment {e : Environment} (h : Config.ofEnvironment e = .ok config) :
    scoring? config = scoring? (.defaults e.home) := by
  obtain ⟨binary, timeout, workers, directory, level, rfl⟩ := ProgramRuns.exists_of_ofEnvironment h
  rfl

/-- The default constants of a score, with the doubles nearest to the weights that are written
down. -/
def defaultScoring : Scoring ℚ where
  decay := 8106479329266893 / 2 ^ 53
  maxAge := 48
  maxScore := 100
  weight := 6305039478318694 / 2 ^ 53
  cap := 50

theorem scoring?_defaults (home : String) :
    scoring? (.defaults home) = some defaultScoring := by
  have hdecay : rational? (.real 0.9) = some (8106479329266893 / 2 ^ 53) := by
    rw [rational?_real (x := 0.9)
      (show Binary.ofFloat 0.9 = .finite false 8106479329266893 (-53) by rfl)]
    norm_num
  have hage : rational? (.real 48) = some 48 := by
    rw [rational?_real (x := 48)
      (show Binary.ofFloat 48 = .finite false 6755399441055744 (-47) by rfl)]
    norm_num
  have hscore : rational? (.real 100) = some 100 := by
    rw [rational?_real (x := 100)
      (show Binary.ofFloat 100 = .finite false 7036874417766400 (-46) by rfl)]
    norm_num
  have hweight : rational? (.real 0.7) = some (6305039478318694 / 2 ^ 53) := by
    rw [rational?_real (x := 0.7)
      (show Binary.ofFloat 0.7 = .finite false 6305039478318694 (-53) by rfl)]
    norm_num
  have hcap : rational? (.int 50) = some 50 := rational?_int 50
  simp only [scoring?, Config.defaults, hdecay, hage, hscore, hweight, hcap]
  rfl

end Settings

section Decay

/-- A function of the age that decays from one and stays above zero. -/
structure Decays (fading : ℚ → ℚ) : Prop where
  start : fading 0 = 1
  pos : ∀ x, 0 ≤ x → 0 < fading x
  antitone : AntitoneOn fading (Set.Ici 0)

variable {s : Scoring ℚ} {fading : ℚ → ℚ} {last last' count count' now now' : ℤ} {x : ℚ}

theorem Decays.le_one (h : Decays fading) (hx : 0 ≤ x) : fading x ≤ 1 := by
  have hle : fading x ≤ fading 0 := h.antitone (Set.mem_Ici.mpr le_rfl) (Set.mem_Ici.mpr hx) hx
  rwa [h.start] at hle

theorem hours_nonneg (last now : ℤ) : 0 ≤ hours last now :=
  le_max_left _ _

theorem hours_le_hours (hlast : last' ≤ last) (hnow : now ≤ now') :
    hours last now ≤ hours last' now' := by
  have hlast' : (last' : ℚ) ≤ last := Int.cast_le.mpr hlast
  have hnow' : (now : ℚ) ≤ now' := Int.cast_le.mpr hnow
  have hhour : (0 : ℚ) ≤ Scoring.hour := by norm_num [Scoring.hour]
  exact max_le_max le_rfl (div_le_div_of_nonneg_right (by linarith) hhour)

theorem hours_of_le (h : now ≤ last) : hours last now = 0 := by
  have h' : (now : ℚ) ≤ last := Int.cast_le.mpr h
  have hhour : (0 : ℚ) ≤ Scoring.hour := by norm_num [Scoring.hour]
  exact max_eq_left (div_nonpos_of_nonpos_of_nonneg (by linarith) hhour)

theorem fading_le_fading (hs : Admissible s) (hfading : Decays fading) (hlast : last' ≤ last)
    (hnow : now ≤ now') :
    fading (min (hours last' now') s.maxAge) ≤ fading (min (hours last now) s.maxAge) := by
  apply hfading.antitone
  · exact le_min (hours_nonneg last now) hs.maxAge_nonneg
  · exact le_min (hours_nonneg last' now') hs.maxAge_nonneg
  · exact min_le_min_right _ (hours_le_hours hlast hnow)

theorem blended_le_blended (hs : Admissible s)
    (hfresh : fading (min (hours last now) s.maxAge) ≤ fading (min (hours last' now') s.maxAge))
    (hoften : count ≤ count') :
    blended s fading last count now ≤ blended s fading last' count' now' := by
  have hscore : 0 ≤ s.maxScore := by
    rw [hs.maxScore_eq]
    norm_num
  have hcap : 0 ≤ s.cap := zero_le_one.trans hs.one_le_cap
  have hcount : min (count : ℚ) s.cap ≤ min (count' : ℚ) s.cap :=
    min_le_min_right _ (Int.cast_le.mpr hoften)
  apply add_le_add
  · exact mul_le_mul_of_nonneg_left (mul_le_mul_of_nonneg_right hfresh hscore) hs.weight_nonneg
  · exact mul_le_mul_of_nonneg_left
      (mul_le_mul_of_nonneg_right hcount (div_nonneg hscore hcap)) (sub_nonneg.mpr hs.weight_le_one)

theorem blended_mem (hs : Admissible s) (hfading : Decays fading) (hcount : 0 ≤ count)
    (last now : ℤ) : blended s fading last count now ∈ Set.Icc 0 100 := by
  have hcap : 0 < s.cap := zero_lt_one.trans_le hs.one_le_cap
  have hage : 0 ≤ min (hours last now) s.maxAge := le_min (hours_nonneg last now) hs.maxAge_nonneg
  have hfresh : fading (min (hours last now) s.maxAge) * 100 ∈ Set.Icc (0 : ℚ) 100 := by
    have hlow := hfading.pos _ hage
    have hhigh := hfading.le_one hage
    constructor <;> linarith
  have hoften : min (count : ℚ) s.cap * (100 / s.cap) ∈ Set.Icc (0 : ℚ) 100 := by
    have hcount' : (0 : ℚ) ≤ count := Int.cast_nonneg hcount
    have hunit : 0 ≤ 100 / s.cap := by positivity
    refine ⟨mul_nonneg (le_min hcount' hcap.le) hunit, ?_⟩
    calc
      min (count : ℚ) s.cap * (100 / s.cap) ≤ s.cap * (100 / s.cap) :=
        mul_le_mul_of_nonneg_right (min_le_right _ _) hunit
      _ = 100 := mul_div_cancel₀ 100 hcap.ne'
  have hmean := convex_Icc (0 : ℚ) 100 hfresh hoften hs.weight_nonneg
    (sub_nonneg.mpr hs.weight_le_one) (add_sub_cancel s.weight 1)
  rw [smul_eq_mul, smul_eq_mul] at hmean
  rwa [blended, hs.maxScore_eq]

/-- The laws of scores, which depend on the time of the last access, the count of accesses and the
present time: they are bounded, fall as time passes, rise with the count and with the last access,
and stay the same before the last access, past the age limit and past the count limit. -/
structure Regular (s : Scoring ℚ) (score : ℤ → ℤ → ℤ → ℚ) : Prop where
  bounded : ∀ last count now, 0 ≤ count → 0 ≤ score last count now ∧ score last count now ≤ 100
  fades : ∀ last count now now', 0 ≤ count → now ≤ now' →
    score last count now' ≤ score last count now
  grows : ∀ last count count' now, 0 ≤ count → count ≤ count' →
    score last count now ≤ score last count' now
  renews : ∀ last last' count now, 0 ≤ count → last ≤ last' →
    score last count now ≤ score last' count now
  early : ∀ last last' count now now' : ℤ, now ≤ last → now' ≤ last' →
    score last count now = score last' count now'
  late : ∀ last last' count now now' : ℤ,
    s.maxAge ≤ hours last now → s.maxAge ≤ hours last' now' →
      score last count now = score last' count now'
  often : ∀ last count count' now : ℤ, s.cap ≤ count → s.cap ≤ count' →
    score last count now = score last count' now

theorem regular_of_admissible (hs : Admissible s) (hfading : Decays fading) :
    Regular s (exactScore s fading) := by
  have hround {last last' count count' now now' : ℤ} (hcount : 0 ≤ count)
      (hle : blended s fading last count now ≤ blended s fading last' count' now') :
      exactScore s fading last count now ≤ exactScore s fading last' count' now' :=
    roundExact_le_roundExact (blended_mem hs hfading hcount last now).1 hle 1
  have hsame {last last' count now now' : ℤ}
      (hage : min (hours last now) s.maxAge = min (hours last' now') s.maxAge) :
      exactScore s fading last count now = exactScore s fading last' count now' := by
    rw [exactScore, exactScore, blended, blended, hage]
  constructor
  case bounded =>
    intro last count now hcount
    obtain ⟨hlow, hhigh⟩ := blended_mem hs hfading hcount last now
    have hzero : roundExact 1 (0 : ℚ) = 0 := by exact_mod_cast roundExact_natCast 1 0
    have hhundred : roundExact 1 (100 : ℚ) = 100 := by exact_mod_cast roundExact_natCast 1 100
    exact ⟨hzero.ge.trans (roundExact_le_roundExact le_rfl hlow 1),
      (roundExact_le_roundExact hlow hhigh 1).trans hhundred.le⟩
  case fades =>
    intro last count now now' hcount hnow
    have hfresh := fading_le_fading hs hfading (le_refl last) hnow
    exact hround hcount (blended_le_blended hs hfresh le_rfl)
  case grows =>
    intro last count count' now hcount hle
    exact hround hcount (blended_le_blended hs le_rfl hle)
  case renews =>
    intro last last' count now hcount hlast
    have hfresh := fading_le_fading hs hfading hlast (le_refl now)
    exact hround hcount (blended_le_blended hs hfresh le_rfl)
  case early =>
    intro last last' count now now' hnow hnow'
    exact hsame (by rw [hours_of_le hnow, hours_of_le hnow'])
  case late =>
    intro last last' count now now' hage hage'
    exact hsame (by rw [min_eq_right hage, min_eq_right hage'])
  case often =>
    intro last count count' now hcount hcount'
    have hcap : min (count : ℚ) s.cap = min (count' : ℚ) s.cap := by
      rw [min_eq_right hcount, min_eq_right hcount']
    rw [exactScore, exactScore, blended, blended, hcap]

end Decay

/-- Computed exactly, scores obey the laws. The settings that the environment asks for have a
hundred as the highest score and an age limit that is not negative. Under any accepted settings of
which this is true, whatever function that decays from one stands for the powers of the decay
factor, every score is the rounded mean, and these numbers obey the laws. -/
theorem exact_scores_are_regular :
    (∀ e config, Config.ofEnvironment e = .ok config →
      ∃ s, scoring? config = some s ∧ s.maxScore = 100 ∧ 0 ≤ s.maxAge) ∧
    ∀ config s power, config.validate = .ok () → scoring? config = some s →
      s.maxScore = 100 → 0 ≤ s.maxAge → Decays (power s.decay) →
      (∀ last count now : ℤ,
        Scoring.score (exact power) s last count now =
          .ok (exactScore s (power s.decay) last count now)) ∧
      Regular s (exactScore s (power s.decay)) := by
  constructor
  · intro e config h
    refine ⟨defaultScoring, ?_, rfl, by norm_num [defaultScoring]⟩
    rw [scoring?_of_ofEnvironment h, scoring?_defaults]
  · intro config s power hvalid hs hscore hage hdecays
    have hadmissible : Admissible s := admissible_of_validate hvalid hs hscore hage
    have hcap : s.cap ≠ 0 := (zero_lt_one.trans_le hadmissible.one_le_cap).ne'
    exact ⟨score_exact hcap, regular_of_admissible hadmissible hdecays⟩

section Sample

/-- Powers with the exponents rounded down. -/
def wholePower (base exponent : ℚ) : ℚ :=
  base ^ ⌊exponent⌋₊

theorem decays_wholePower {base : ℚ} (hpos : 0 < base) (hle : base ≤ 1) :
    Decays (wholePower base) where
  start := by simp [wholePower]
  pos x _ := pow_pos hpos _
  antitone _ _ _ _ h := pow_le_pow_of_le_one hpos.le hle (Nat.floor_mono h)

/-- Two hours later the score of something opened three times is not higher. -/
theorem exact_scores_are_regular_sample :
    ∃ config s fresh stale, Config.ofEnvironment ⟨[], "/home/a", []⟩ = .ok config ∧
      scoring? config = some s ∧
      Scoring.score (exact wholePower) s 0 3 0 = .ok fresh ∧
      Scoring.score (exact wholePower) s 0 3 7200000 = .ok stale ∧
      0 ≤ stale ∧ stale ≤ fresh ∧ fresh ≤ 100 := by
  have hchecked : ((Config.ofEnvironment ⟨[], "/home/a", []⟩).toOption.bind fun config =>
      config.validate.toOption).isSome := by
    decide +kernel
  obtain ⟨⟨⟩, h⟩ := Option.isSome_iff_exists.mp hchecked
  obtain ⟨config, hconfig, hvalid⟩ := Option.bind_eq_some_iff.mp h
  have hconfig' := toOption_eq_some_iff.mp hconfig
  have hdefault : scoring? config = some defaultScoring := by
    rw [scoring?_of_ofEnvironment hconfig', scoring?_defaults]
  obtain ⟨s, hs, hscore, hage⟩ := exact_scores_are_regular.1 _ config hconfig'
  obtain rfl := Option.some.inj (hdefault.symm.trans hs)
  have hdecays : Decays (wholePower defaultScoring.decay) :=
    decays_wholePower (by norm_num [defaultScoring]) (by norm_num [defaultScoring])
  obtain ⟨heq, hregular⟩ := exact_scores_are_regular.2 config defaultScoring wholePower
    (toOption_eq_some_iff.mp hvalid) hs hscore hage hdecays
  refine ⟨config, defaultScoring, _, _, hconfig', hs, heq 0 3 0, heq 0 3 7200000,
    (hregular.bounded 0 3 7200000 (by decide)).1,
    hregular.fades 0 3 0 7200000 (by decide) (by decide),
    (hregular.bounded 0 3 0 (by decide)).2⟩

end Sample

end SymbolSearch.Proofs.ExactScores
