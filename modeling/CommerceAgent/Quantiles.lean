import CommerceAgent.Rearrangements
import Mathlib.Algebra.Order.Floor.Ring
import Mathlib.Data.List.GetD
import Mathlib.Data.Rat.Floor
import Mathlib.Tactic.Linarith

/-! Quantiles of a list of numbers by linear interpolation between its sorted members. -/
namespace Quantiles

/-- The value at a position between two members of the list. -/
def interpolate (l : List ℚ) (position : ℚ) : ℚ :=
  let lower := ⌊position⌋.toNat
  let upper := min (lower + 1) (l.length - 1)
  l.getD lower 0 + (l.getD upper 0 - l.getD lower 0) * (position - lower)

def quantile (l : List ℚ) (probability : ℚ) : ℚ :=
  interpolate (l.insertionSort (· ≤ ·)) ((l.length - 1) * probability)

section Interpolation

variable {l : List ℚ} {p p' : ℚ} {i j : ℕ}

theorem getD_mono (hl : l.Pairwise (· ≤ ·)) (hij : i ≤ j) (hj : j < l.length) :
    l.getD i 0 ≤ l.getD j 0 := by
  have hi : i < l.length := by omega
  rw [List.getD_eq_getElem l 0 hi, List.getD_eq_getElem l 0 hj]
  rcases Nat.eq_or_lt_of_le hij with rfl | hlt
  · exact le_refl _
  · exact List.pairwise_iff_getElem.mp hl i j hi hj hlt

/-- A position within the list. -/
structure Position (l : List ℚ) (p : ℚ) : Prop where
  nonneg : 0 ≤ p
  le_last : p ≤ l.length - 1

theorem Position.lower_le (hp : Position l p) : (⌊p⌋.toNat : ℚ) ≤ p := by
  have hfloor : (0 : ℤ) ≤ ⌊p⌋ := Int.floor_nonneg.mpr hp.nonneg
  have hcast : ((⌊p⌋.toNat : ℤ) : ℚ) = (⌊p⌋ : ℚ) := by rw [Int.toNat_of_nonneg hfloor]
  have hle := Int.floor_le p
  rw [← hcast] at hle
  exact_mod_cast hle

theorem Position.lt_upper (hp : Position l p) : p < ⌊p⌋.toNat + 1 := by
  have hfloor : (0 : ℤ) ≤ ⌊p⌋ := Int.floor_nonneg.mpr hp.nonneg
  have hcast : ((⌊p⌋.toNat : ℤ) : ℚ) = (⌊p⌋ : ℚ) := by rw [Int.toNat_of_nonneg hfloor]
  have hlt := Int.lt_floor_add_one p
  rw [← hcast] at hlt
  exact_mod_cast hlt

theorem Position.lower_lt (hp : Position l p) : ⌊p⌋.toNat < l.length := by
  have hle : (⌊p⌋.toNat : ℚ) ≤ l.length - 1 := hp.lower_le.trans hp.le_last
  have hlt : (⌊p⌋.toNat : ℚ) < l.length := by linarith
  exact_mod_cast hlt

theorem Position.lower_le_upper (hp : Position l p) : ⌊p⌋.toNat ≤ min (⌊p⌋.toNat + 1) (l.length - 1) := by
  have hlt := hp.lower_lt
  omega

theorem Position.upper_lt (hp : Position l p) : min (⌊p⌋.toNat + 1) (l.length - 1) < l.length := by
  have hlt := hp.lower_lt
  omega

/-- The value lies between the two neighbours. -/
theorem Position.between (hp : Position l p) (hl : l.Pairwise (· ≤ ·)) :
    l.getD ⌊p⌋.toNat 0 ≤ interpolate l p ∧
      interpolate l p ≤ l.getD (min (⌊p⌋.toNat + 1) (l.length - 1)) 0 := by
  have hstep := getD_mono hl hp.lower_le_upper hp.upper_lt
  have hfar : p - ⌊p⌋.toNat ≤ 1 := by
    have hlt := hp.lt_upper
    linarith
  have hnear : 0 ≤ p - ⌊p⌋.toNat := sub_nonneg.mpr hp.lower_le
  simp only [interpolate]
  constructor
  · have hgain := mul_nonneg (sub_nonneg.mpr hstep) hnear
    linarith
  · have hgain := mul_le_mul_of_nonneg_left hfar (sub_nonneg.mpr hstep)
    linarith

theorem interpolate_mono (hl : l.Pairwise (· ≤ ·)) (hp : Position l p) (hp' : Position l p') (h : p ≤ p') :
    interpolate l p ≤ interpolate l p' := by
  have hfloor : ⌊p⌋.toNat ≤ ⌊p'⌋.toNat := Int.toNat_le_toNat (Int.floor_le_floor h)
  rcases Nat.eq_or_lt_of_le hfloor with heq | hlt
  · -- between the same neighbours
    have hstep := getD_mono hl hp.lower_le_upper hp.upper_lt
    have hgain := mul_le_mul_of_nonneg_left (sub_le_sub_right h (⌊p⌋.toNat : ℚ)) (sub_nonneg.mpr hstep)
    simp only [interpolate, ← heq]
    linarith
  · have hmid : min (⌊p⌋.toNat + 1) (l.length - 1) ≤ ⌊p'⌋.toNat := by omega
    calc interpolate l p
        ≤ l.getD (min (⌊p⌋.toNat + 1) (l.length - 1)) 0 := (hp.between hl).2
      _ ≤ l.getD ⌊p'⌋.toNat 0 := getD_mono hl hmid hp'.lower_lt
      _ ≤ interpolate l p' := (hp'.between hl).1

/-- The value lies between any bounds of the members. -/
theorem interpolate_mem (hl : l.Pairwise (· ≤ ·)) (hp : Position l p) {a b : ℚ}
    (hab : ∀ x ∈ l, a ≤ x ∧ x ≤ b) : a ≤ interpolate l p ∧ interpolate l p ≤ b := by
  have hmem : ∀ i, i < l.length → l.getD i 0 ∈ l := by
    intro i hi
    rw [List.getD_eq_getElem l 0 hi]
    exact List.getElem_mem hi
  obtain ⟨hlower, hupper⟩ := hp.between hl
  exact ⟨(hab _ (hmem _ hp.lower_lt)).1.trans hlower, hupper.trans (hab _ (hmem _ hp.upper_lt)).2⟩

end Interpolation

section Quantile

variable {l l' : List ℚ} {q q' : ℚ}

theorem position (hl : l ≠ []) (h0 : 0 ≤ q) (h1 : q ≤ 1) :
    Position (l.insertionSort (· ≤ ·)) ((l.length - 1) * q) := by
  have hpos : (1 : ℚ) ≤ l.length := by exact_mod_cast List.length_pos_of_ne_nil hl
  have hlast : (0 : ℚ) ≤ l.length - 1 := sub_nonneg.mpr hpos
  refine ⟨mul_nonneg hlast h0, ?_⟩
  rw [List.length_insertionSort]
  exact mul_le_of_le_one_right hlast h1

theorem quantile_mono (hl : l ≠ []) (h0 : 0 ≤ q) (hq : q ≤ q') (h1 : q' ≤ 1) :
    quantile l q ≤ quantile l q' := by
  have hpos : (1 : ℚ) ≤ l.length := by exact_mod_cast List.length_pos_of_ne_nil hl
  apply interpolate_mono (List.pairwise_insertionSort _ l) (position hl h0 (hq.trans h1))
    (position hl (h0.trans hq) h1)
  exact mul_le_mul_of_nonneg_left hq (sub_nonneg.mpr hpos)

theorem quantile_mem (hl : l ≠ []) (h0 : 0 ≤ q) (h1 : q ≤ 1) {a b : ℚ}
    (hab : ∀ x ∈ l, a ≤ x ∧ x ≤ b) : a ≤ quantile l q ∧ quantile l q ≤ b := by
  apply interpolate_mem (List.pairwise_insertionSort _ l) (position hl h0 h1)
  intro x hx
  exact hab x ((List.perm_insertionSort _ l).mem_iff.mp hx)

theorem quantile_perm (h : l.Perm l') : quantile l q = quantile l' q := by
  rw [quantile, quantile, Rearrangements.insertionSort_le_eq_of_perm h, h.length_eq]

end Quantile

end Quantiles
