import Lettering.Text.Segment
import Mathlib.Data.List.Perm.Basic
import Mathlib.Tactic.SplitIfs

/-!
# Reordering moves characters and nothing else

Every character of a paragraph has one class and one level through all rules: no rule adds or drops
a place, also not for the explicit controls (`Bidi.length_resolvedLevels`, `Bidi.length_settleLine`).
The characters are then tagged with their levels, and reversing stretches of them only permutes,
whatever their levels are (`Bidi.perm_reverseStretches`, `Bidi.perm_visualOrder`).

A text is cut into its paragraphs behind each separator, so that behind one a text starts anew
(`Bidi.paragraphs_append`). Both together are `Reorderer.unicode_reorder`.
-/

namespace Lettering

namespace Bidi

/-! ## One level for each character -/

@[simp] theorem length_settleIsolates (classes : List BidiClass) :
    (settleIsolates classes).length = classes.length := by
  induction classes with
  | nil => rfl
  | cons c rest ih => rw [settleIsolates, List.length_cons, List.length_cons, ih]

@[simp] theorem length_paragraphClasses (chars : List Char) :
    (paragraphClasses chars).length = chars.length := by
  rw [paragraphClasses, length_settleIsolates, List.length_map]

/-- Levels are given out to every character, however many there are to give. -/
@[simp] theorem length_spread (before : Level) (classes : List BidiClass) (levels : List Level) :
    (spread before classes levels).length = classes.length := by
  fun_induction spread before classes levels with
  | case1 => rfl
  | case2 _ _ _ _ _ ih | case3 _ _ _ _ _ _ ih | case4 _ _ _ _ ih =>
    rw [List.length_cons, List.length_cons, ih]

@[simp] theorem length_resolvedLevels (base : Level) (chars : List Char) :
    (resolvedLevels base chars).length = chars.length := by
  rw [resolvedLevels, length_spread, length_paragraphClasses]

@[simp] theorem length_lineLevels (cells : List (BidiClass × Level)) :
    (lineLevels cells).1.length = cells.length := by
  induction cells with
  | nil => rfl
  | cons cell rest ih =>
    obtain ⟨c, level⟩ := cell
    simp only [lineLevels]
    split_ifs <;> simp [ih]

@[simp] theorem length_settleLine (base before : Level) (levels : List LineLevel) :
    (settleLine base before levels).length = levels.length := by
  induction levels generalizing before with
  | nil => rfl
  | cons level rest ih =>
    cases level <;> rw [settleLine, List.length_cons, List.length_cons, ih]

/-! ## Reversing stretches -/

section Perm

variable {α : Type}

/-- Reversing the stretches of a level only permutes. What is held has been read before. -/
theorem perm_reverseStretches (level : Level) (held xs : List (Level × α)) :
    (reverseStretches level held xs).Perm (held ++ xs) := by
  induction xs generalizing held with
  | nil => rw [reverseStretches, List.append_nil]
  | cons x rest ih =>
    rw [reverseStretches]
    split
    · exact (ih (x :: held)).trans List.perm_middle.symm
    · exact ((ih []).cons x).append_left held

theorem perm_reverseLevels (lowest : Level) (steps : Nat) (xs : List (Level × α)) :
    (reverseLevels lowest steps xs).Perm xs := by
  induction steps generalizing xs with
  | zero => exact .refl xs
  | succ steps ih => exact (ih _).trans (perm_reverseStretches (lowest + steps) [] xs)

/-- **The visual order of tagged elements is a permutation of them**, whatever the levels are. -/
theorem perm_visualOrder (xs : List (Level × α)) : (visualOrder xs).Perm xs :=
  perm_reverseLevels _ _ xs

end Perm

/-- A paragraph is shown with its own characters. -/
theorem perm_displayParagraph (direction : Direction) (chars : List Char) :
    (displayParagraph direction chars).Perm chars := by
  simp only [displayParagraph]
  split
  · refine ((perm_visualOrder _).map (·.2)).trans (.of_eq ?_)
    -- every character comes with a level, so that none is cut off
    exact List.map_snd_zip (by simp)
  · exact .refl chars

/-! ## Paragraph after paragraph -/

@[simp] theorem flatten_paragraphs (text : List Char) : (paragraphs text).flatten = text := by
  fun_induction paragraphs text with
  | case1 => rfl
  | case2 c rest _ ih => rw [List.flatten_cons, ih, List.singleton_append]
  | case3 c rest _ hrest ih =>
    rw [hrest] at ih
    rw [← ih]
    rfl
  | case4 c rest _ p ps hrest ih =>
    rw [hrest, List.flatten_cons] at ih
    rw [List.flatten_cons, List.cons_append, ih]

/-- Behind a separator a text starts anew. -/
theorem paragraphs_append (front rest : List Char) {c : Char} (hc : endsParagraph c) :
    paragraphs (front ++ c :: rest) = paragraphs (front ++ [c]) ++ paragraphs rest := by
  induction front with
  | nil => simp only [List.nil_append, paragraphs, if_pos hc, List.singleton_append]
  | cons d front ih =>
    simp only [List.cons_append, paragraphs]
    split
    · rw [ih, List.cons_append]
    · rw [ih]
      -- the first paragraph, which `d` joins, is there: it has the separator if nothing else
      cases hfirst : paragraphs (front ++ [c]) with
      | nil =>
        have hflat := flatten_paragraphs (front ++ [c])
        simp [hfirst] at hflat
      | cons p ps => rfl

theorem perm_displayOrder (direction : Direction) (text : List Char) :
    (displayOrder direction text).Perm text := by
  have hparagraphs := List.Perm.flatMap_left (paragraphs text) fun p _ =>
    perm_displayParagraph direction p
  rwa [List.flatMap_id', flatten_paragraphs] at hparagraphs

theorem displayOrder_append (direction : Direction) (front rest : List Char) {c : Char}
    (hc : endsParagraph c) : displayOrder direction (front ++ c :: rest) =
      displayOrder direction (front ++ [c]) ++ displayOrder direction rest := by
  rw [displayOrder, paragraphs_append front rest hc, List.flatMap_append]
  rfl

end Bidi

/-- **Reordering neither loses nor invents characters and goes paragraph by paragraph.** Every line
can be put into display order, which is a permutation of its characters, formatting characters
included. A line that goes on behind a paragraph separator is shown as the two parts one after the
other, each as it is shown alone. This is proved of `Bidi.displayOrder`; it holds of the library
that reorders lines under the assumption of `Reorderer.unicode` that it computes just that. -/
theorem Reorderer.unicode_reorder (direction : Direction) :
    (∀ line, ∃ shown, unicode.reorder line direction = .ok shown ∧ shown.Perm line) ∧
    ∀ p q c, p.getLast? = some c → Bidi.classOf c = .B →
      ∃ shown shown', unicode.reorder p direction = .ok shown ∧
        unicode.reorder q direction = .ok shown' ∧
        unicode.reorder (p ++ q) direction = .ok (shown ++ shown') := by
  refine ⟨fun line => ⟨_, rfl, Bidi.perm_displayOrder direction line⟩, fun p q c hlast hc => ?_⟩
  obtain ⟨front, rfl⟩ := List.getLast?_eq_some_iff.1 hlast
  refine ⟨_, _, rfl, rfl, congrArg Except.ok ?_⟩
  rw [List.append_assoc, List.singleton_append]
  exact Bidi.displayOrder_append direction front q (beq_iff_eq.2 hc)

end Lettering
