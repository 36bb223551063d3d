import Lettering.Geometry.Plane
import Mathlib.Data.Int.Order.Basic
import Mathlib.Data.Prod.Lex
import Mathlib.Order.Compare

/-!
# Doubles in order

Doubles stand in order of their class, their exponent and their mantissa, except for those that are
not numbers: these are neither below nor above anything. `rank` is that place in a linear order, and
comparing doubles is comparing ranks (`lt_iff_rank`, `le_iff_rank`).

Hence `greater` takes the larger of two numbers, and folding it over a list gives one of them that
none exceeds (`highest_foldl_greater`).
-/

namespace Lettering

open Float.Model

/-! ## Ranks -/

/-- The place of a double: its class, then its exponent and its mantissa, backwards below zero. -/
def unpackedRank : UnpackedFloat → ℤ ×ₗ ℤ ×ₗ ℤ
  | .infinity .negative => toLex (-2, toLex (0, 0))
  | .finite .negative m e _ => toLex (-1, toLex (-e, -m))
  | .zero _ => toLex (0, toLex (0, 0))
  | .finite .positive m e _ => toLex (1, toLex (e, m))
  | .infinity .positive => toLex (2, toLex (0, 0))
  | .notANumber => toLex (0, toLex (0, 0))

/-- The place of a number among the doubles. -/
def rank (x : Float) : ℤ ×ₗ ℤ ×ₗ ℤ := unpackedRank x.toModel.unpack

theorem compare_natCast (m n : ℕ) : compare (m : ℤ) (n : ℤ) = compare m n := by
  simp only [compare, compareOfLessAndEq, Int.ofNat_lt, Int.natCast_inj]

theorem compare_neg (m n : ℤ) : compare (-m) (-n) = (compare m n).swap := by
  rw [Int.compare_swap]
  simp [compare, compareOfLessAndEq, eq_comm]

/-- Numbers are compared by rank. -/
theorem compare_eq_some {a b : UnpackedFloat} (ha : a.isNaN = false) (hb : b.isNaN = false) :
    a.compare b = some (compare (unpackedRank a) (unpackedRank b)) := by
  have hclass : ∀ (c : ℤ) (x y : ℤ ×ₗ ℤ), compare (toLex (c, x)) (toLex (c, y)) = compare x y := by
    intro c x y
    change (compare c c).then (compare x y) = compare x y
    rw [Std.ReflOrd.compare_self]
    rfl
  have hpair : ∀ e f m n : ℤ, compare (toLex (e, m)) (toLex (f, n)) =
      (compare e f).then (compare m n) := fun e f m n => rfl
  cases a with
  | notANumber => cases ha
  | infinity s =>
    cases b with
    | notANumber => cases hb
    | infinity t => cases s <;> cases t <;> rfl
    | zero t => cases s <;> rfl
    | finite t n f hn => cases s <;> cases t <;> rfl
  | zero s =>
    cases b with
    | notANumber => cases hb
    | infinity t => cases t <;> rfl
    | zero t => rfl
    | finite t n f hn => cases t <;> rfl
  | finite s m e hm =>
    cases b with
    | notANumber => cases hb
    | infinity t => cases s <;> cases t <;> rfl
    | zero t => cases s <;> rfl
    | finite t n f hn =>
      -- only numbers of the same sign are compared by exponent and mantissa
      cases s <;> cases t
      case positive.positive =>
        change some ((compare e f).then (compare m n)) =
          some (compare (toLex (1, toLex (e, (m : ℤ)))) (toLex (1, toLex (f, (n : ℤ)))))
        rw [hclass, hpair, compare_natCast]
      case negative.negative =>
        change some ((compare e f).then (compare m n)).swap =
          some (compare (toLex (-1, toLex (-e, -(m : ℤ)))) (toLex (-1, toLex (-f, -(n : ℤ)))))
        rw [hclass, hpair, compare_neg, compare_neg, compare_natCast, ← Ordering.swap_then]
      all_goals rfl

/-- What is not a number compares with nothing. -/
theorem compare_eq_none {a b : UnpackedFloat} (h : a.isNaN = true ∨ b.isNaN = true) :
    a.compare b = none := by
  cases a with
  | notANumber => rfl
  | infinity s | zero s | finite s m e hm =>
    cases b with
    | notANumber => cases s <;> rfl
    | infinity t | zero t | finite t n f hn => rcases h with h | h <;> cases h

section

variable {x y z : Float}

/-- Two doubles compare in some way exactly if both are numbers and their ranks do. -/
theorem any_compare_iff (p : Ordering → Bool) :
    (x.toModel.unpack.compare y.toModel.unpack).any p = true ↔
      x.isNaN = false ∧ y.isNaN = false ∧ p (compare (rank x) (rank y)) = true := by
  cases hx : x.isNaN with
  | true =>
    rw [compare_eq_none (.inl hx)]
    exact iff_of_false Bool.false_ne_true fun h => Bool.noConfusion h.1
  | false =>
    cases hy : y.isNaN with
    | true =>
      rw [compare_eq_none (.inr hy)]
      exact iff_of_false Bool.false_ne_true fun h => Bool.noConfusion h.2.1
    | false =>
      rw [compare_eq_some hx hy]
      exact ⟨fun h => ⟨rfl, rfl, h⟩, fun h => h.2.2⟩

theorem lt_iff_rank : x < y ↔ x.isNaN = false ∧ y.isNaN = false ∧ rank x < rank y := by
  have hlt : x < y ↔ (x.toModel.unpack.compare y.toModel.unpack).any (· == .lt) = true := by
    have hany : ∀ c : Option Ordering, (c == some .lt) = c.any (· == .lt) := by
      intro c
      cases c with
      | none => rfl
      | some o => cases o <;> rfl
    rw [← hany]
    exact decide_eq_true_iff
  rw [hlt, any_compare_iff, beq_iff_eq, compare_lt_iff_lt]

theorem le_iff_rank : x ≤ y ↔ x.isNaN = false ∧ y.isNaN = false ∧ rank x ≤ rank y := by
  have hle : x ≤ y ↔ (x.toModel.unpack.compare y.toModel.unpack).any (·.isLE) = true :=
    decide_eq_true_iff
  rw [hle, any_compare_iff, Ordering.isLE_iff_ne_gt, ← compare_le_iff_le]

/-! ## The larger of two numbers -/

theorem greater_cases (x y : Float) : greater x y = x ∨ greater x y = y := by
  unfold greater
  split
  · exact .inr rfl
  · split
    · exact .inr rfl
    · exact .inl rfl

theorem float_le_trans (hxy : x ≤ y) (hyz : y ≤ z) : x ≤ z := by
  rw [le_iff_rank] at *
  exact ⟨hxy.1, hyz.2.1, hxy.2.2.trans hyz.2.2⟩

/-- The left operand is not above the result, if it is a number. -/
theorem le_greater_left (hx : x.isNaN = false) : x ≤ greater x y := by
  rw [greater, hx]
  split
  · cases ‹false = true›
  · split
    · rename_i hlt
      rw [lt_iff_rank] at hlt
      exact le_iff_rank.2 ⟨hx, hlt.2.1, hlt.2.2.le⟩
    · exact le_iff_rank.2 ⟨hx, hx, le_rfl⟩

/-- Nor is the right one. -/
theorem le_greater_right (hy : y.isNaN = false) : y ≤ greater x y := by
  have hself : y ≤ y := le_iff_rank.2 ⟨hy, hy, le_rfl⟩
  unfold greater
  split
  · exact hself
  · rename_i hx
    split
    · exact hself
    · rename_i hlt
      rw [lt_iff_rank] at hlt
      have hx' : x.isNaN = false := Bool.not_eq_true _ ▸ hx
      exact le_iff_rank.2 ⟨hy, hx', not_lt.1 fun hrank => hlt ⟨hx', hy, hrank⟩⟩

/-- One of some doubles that no number among them exceeds. It is a number itself unless none of them
is. -/
def Highest (xs : List Float) (x : Float) : Prop :=
  x ∈ xs ∧ ∀ y ∈ xs, y.isNaN = false → y ≤ x

/-- Folding takes the highest. -/
theorem highest_foldl_greater (x : Float) (xs : List Float) :
    Highest (x :: xs) (xs.foldl greater x) := by
  induction xs generalizing x with
  | nil =>
    refine ⟨List.mem_singleton_self x, fun y hy hnum => ?_⟩
    obtain rfl := List.mem_singleton.1 hy
    exact le_iff_rank.2 ⟨hnum, hnum, le_rfl⟩
  | cons z rest ih =>
    obtain ⟨hmem, hle⟩ := ih (greater x z)
    rw [List.foldl_cons]
    refine ⟨?_, fun y hy hnum => ?_⟩
    · rcases List.mem_cons.1 hmem with heq | hrest
      · rw [heq]
        rcases greater_cases x z with hx | hz
        · rw [hx]
          exact List.mem_cons_self
        · rw [hz]
          exact List.mem_cons_of_mem x List.mem_cons_self
      · exact List.mem_cons_of_mem x (List.mem_cons_of_mem z hrest)
    · have hkept : ∀ u : Float, u ≤ greater x z → u ≤ rest.foldl greater (greater x z) :=
        fun u hu => float_le_trans hu (hle _ List.mem_cons_self (le_iff_rank.1 hu).2.1)
      rcases List.mem_cons.1 hy with rfl | hy
      · exact hkept y (le_greater_left hnum)
      · rcases List.mem_cons.1 hy with rfl | hy
        · exact hkept y (le_greater_right hnum)
        · exact hle y (List.mem_cons_of_mem _ hy) hnum

end

end Lettering
