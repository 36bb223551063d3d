import Lettering.Layout.Block
import Lettering.Proofs.Geometry.Order
import Mathlib.Tactic.MkIffOfInductiveProp

/-!
# Laying out by position

A line is placed with a pen that remembers the glyph it has come past. Here the same is said of one
position of a run at a time: which glyph stands there (`glyphAt?`), whether it is kerned against its
neighbour (`KernedAt`), where the pen is before it and after its kerning (`penAt`, `kernedPenAt`)
and what it draws (`drawnAt`). What the pen remembers is then the neighbour alone (`previousAt`), so
that walking on from a position is a matter of the positions left (`PlacedLine.walk_drop`), and a
block is what is drawn at its positions (`TextBlock.layout_by_position`).
-/

namespace Lettering

section

variable (face : Face) (spacing : Spacing) (table : GlyphTable) (run : List GlyphId)
  (baseline : Float)

/-- The glyph at a position of a run, if it is in the table. -/
def glyphAt? (j : ℕ) : Option Glyph :=
  run[j]?.bind table.get?

/-- The glyph at a position is kerned: kerning is asked for and carried, and the glyph and the one
right before it are a pair. -/
@[mk_iff] structure KernedAt (j : ℕ) : Prop where
  wanted : spacing.useKerning = true
  carried : face.hasKerning = true
  behind : 0 < j
  placed : (glyphAt? table run (j - 1)).isSome = true
  left : run.getD (j - 1) missingGlyph ≠ missingGlyph
  right : run.getD j missingGlyph ≠ missingGlyph

instance (j : ℕ) : Decidable (KernedAt face spacing table run j) :=
  decidable_of_iff' _ (kernedAt_iff face spacing table run j)

/-- How far kerning moves the glyph at a position, against the one right before it. -/
def adjustmentAt (j : ℕ) : Float :=
  face.kerning (run.getD (j - 1) missingGlyph) (run.getD j missingGlyph)
    (.forGridFit spacing.gridFit) * spacing.compress

/-- A pen before a position, moved by the kerning there. -/
def kernAt (j : ℕ) (p : Point) : Point :=
  if KernedAt face spacing table run j then
    { p with x := p.x + adjustmentAt face spacing run j }
  else p

/-- Where the pen is before a position. -/
def penAt : ℕ → Point
  | 0 => ⟨0, baseline⟩
  | j + 1 =>
    match glyphAt? table run j with
    | none => penAt j
    | some glyph =>
      (kernAt face spacing table run j (penAt j)).shift
        ⟨glyph.advance.x * spacing.compress, glyph.advance.y⟩

/-- What is drawn at a position. -/
def drawnAt (j : ℕ) : List PathCommand :=
  match glyphAt? table run j with
  | none => []
  | some glyph =>
    glyph.path.map
      (·.shift (kernAt face spacing table run j (penAt face spacing table run baseline j)).toVec)

/-- The line that stands on a baseline, by position. -/
def lineByPosition : PlacedLine where
  path := (List.range run.length).flatMap (drawnAt face spacing table run baseline)
  width := (penAt face spacing table run baseline run.length).x
  baseline

/-- The baseline of a line of a block. -/
def baselineAt (step : Float) : ℕ → Float
  | 0 => 0
  | n + 1 => baselineAt step n - step

/-! ## One position -/

/-- The glyph that the one at a position follows immediately, the missing glyph if there is none. -/
def previousAt (j : ℕ) : GlyphId :=
  if 0 < j ∧ (glyphAt? table run (j - 1)).isSome = true then run.getD (j - 1) missingGlyph
  else missingGlyph

/-- The pen before a position, with what it remembers. -/
def Pen.before (j : ℕ) : Pen :=
  ⟨penAt face spacing table run baseline j, previousAt table run j⟩

@[simp] theorem Pen.position_before (j : ℕ) :
    (Pen.before face spacing table run baseline j).position =
      penAt face spacing table run baseline j := rfl

@[simp] theorem Pen.previous_before (j : ℕ) :
    (Pen.before face spacing table run baseline j).previous = previousAt table run j := rfl

variable {run} {j : ℕ}

theorem glyphAt?_eq (hj : j < run.length) : glyphAt? table run j = table.get? run[j] := by
  rw [glyphAt?, List.getElem?_eq_getElem hj]
  rfl

theorem previousAt_succ_of_none (h : glyphAt? table run j = none) :
    previousAt table run (j + 1) = missingGlyph := by
  simp [previousAt, h]

theorem previousAt_succ_of_some (hj : j < run.length) {glyph : Glyph}
    (h : glyphAt? table run j = some glyph) : previousAt table run (j + 1) = run[j] := by
  simp [previousAt, h, hj]

/-- Of what a pen remembers, only a neighbour is kerned against. -/
theorem kernedAt_iff_previousAt (hj : j < run.length) :
    KernedAt face spacing table run j ↔
      (spacing.useKerning && face.hasKerning && previousAt table run j != missingGlyph &&
        run[j] != missingGlyph) = true := by
  have hid : run.getD j missingGlyph = run[j] := by simp [hj]
  rw [kernedAt_iff, previousAt, hid]
  by_cases hprevious : 0 < j ∧ (glyphAt? table run (j - 1)).isSome = true
  · rw [if_pos hprevious]
    simp only [hprevious, Bool.and_eq_true, bne_iff_ne, true_and, and_assoc]
  · rw [if_neg hprevious]
    simp only [bne_self_eq_false, Bool.and_false, Bool.false_and, Bool.false_eq_true, iff_false]
    exact fun ⟨_, _, hbehind, hplaced, _, _⟩ => hprevious ⟨hbehind, hplaced⟩

theorem Pen.kern_before (hj : j < run.length) :
    (Pen.before face spacing table run baseline j).kern face spacing run[j] =
      ⟨kernAt face spacing table run j (penAt face spacing table run baseline j),
        previousAt table run j⟩ := by
  have hdecided := kernedAt_iff_previousAt face spacing table hj
  rw [Pen.kern, Pen.previous_before, Pen.position_before, kernAt]
  by_cases hkerned : KernedAt face spacing table run j
  · have hprevious : previousAt table run j = run.getD (j - 1) missingGlyph :=
      if_pos ⟨hkerned.behind, hkerned.placed⟩
    have hid : run.getD j missingGlyph = run[j] := by simp [hj]
    rw [if_pos (hdecided.1 hkerned), if_pos hkerned, adjustmentAt, hid, ← hprevious]
  · rw [if_neg (mt hdecided.2 hkerned), if_neg hkerned]
    rfl

namespace PlacedLine

/-- Walking past one position. -/
theorem walk_drop_step (hj : j < run.length) :
    walk face spacing table (.before face spacing table run baseline j) (run.drop j) =
      let (path, last) :=
        walk face spacing table (.before face spacing table run baseline (j + 1)) (run.drop (j + 1))
      (drawnAt face spacing table run baseline j ++ path, last) := by
  rw [List.drop_eq_getElem_cons hj, walk, ← glyphAt?_eq table hj]
  cases hglyph : glyphAt? table run j with
  | none =>
    have hpen : { Pen.before face spacing table run baseline j with previous := missingGlyph } =
        Pen.before face spacing table run baseline (j + 1) := by
      rw [Pen.before, Pen.before, previousAt_succ_of_none table hglyph, penAt, hglyph]
    rw [hpen, drawnAt, hglyph]
    rfl
  | some glyph =>
    have hpen : ((Pen.before face spacing table run baseline j).kern face spacing run[j]).advance
        spacing run[j] glyph.advance = Pen.before face spacing table run baseline (j + 1) := by
      rw [Pen.kern_before face spacing table baseline hj, Pen.before,
        previousAt_succ_of_some table hj hglyph, penAt, hglyph]
      rfl
    rw [drawnAt, hglyph, ← hpen, Pen.kern_before face spacing table baseline hj]

/-- Walking on from a position draws what is drawn at those left. -/
theorem walk_drop (n j : ℕ) (h : j + n = run.length) :
    walk face spacing table (.before face spacing table run baseline j) (run.drop j) =
      ((List.range' j n).flatMap (drawnAt face spacing table run baseline),
        .before face spacing table run baseline run.length) := by
  induction n generalizing j with
  | zero =>
    obtain rfl : j = run.length := h
    rw [List.drop_length]
    rfl
  | succ n ih =>
    rw [walk_drop_step face spacing table baseline (by omega), ih (j + 1) (by omega),
      List.range'_succ, List.flatMap_cons]

variable (run)

/-- A line is placed position by position. -/
theorem place_eq_lineByPosition :
    place face spacing table baseline run = lineByPosition face spacing table run baseline := by
  have hwalk := walk_drop face spacing table baseline run.length 0 (Nat.zero_add _)
  rw [List.drop_zero] at hwalk
  have hplace : place face spacing table baseline run =
      ⟨(walk face spacing table (.before face spacing table run baseline 0) run).1,
        (walk face spacing table (.before face spacing table run baseline 0) run).2.position.x,
        baseline⟩ := rfl
  rw [hplace, hwalk, ← List.range_eq_range']
  rfl

end PlacedLine

end

namespace TextBlock

/-! ## The lines of a block -/

/-- The lines left are placed on the baselines left. -/
theorem placeLines_eq_mapIdx (face : Face) (spacing : Spacing) (table : GlyphTable) (step : Float)
    (n : ℕ) (runs : List (List GlyphId)) :
    placeLines face spacing table step (baselineAt step n) runs =
      runs.mapIdx fun i run => .place face spacing table (baselineAt step (n + i)) run := by
  induction runs generalizing n with
  | nil => rfl
  | cons run rest ih =>
    rw [placeLines, List.mapIdx_cons, ← baselineAt, ih (n + 1)]
    simp only [Nat.add_zero, Nat.add_assoc, Nat.add_comm 1]

/-- How high each glyph of a run reaches that is in the table. -/
def tops (table : GlyphTable) (run : List GlyphId) : List Float :=
  (run.filterMap table.get?).map (·.bounds.y1)

/-- The ascent is the highest top of a glyph placed on the run, and zero if none is. -/
theorem ascentOf_spec (table : GlyphTable) (run : List GlyphId) :
    tops table run = [] ∧ ascentOf table run = 0 ∨
      Highest (tops table run) (ascentOf table run) := by
  change _ ∧ highest (tops table run) = 0 ∨ Highest _ (highest (tops table run))
  cases tops table run with
  | nil => exact .inl ⟨rfl, rfl⟩
  | cons top rest => exact .inr (highest_foldl_greater top rest)

/-- **A block is laid out by position.** There is one line for each run, each a line step below the
one before. On a line, a glyph that is not in the table draws nothing and leaves the pen where it
is; any other is drawn at the pen and advances it, after kerning if it is kerned against the glyph
at the position right before, and the line is as wide as the pen comes. The ascent is the highest
top of the glyphs placed on the first line, zero if there are none. -/
theorem layout_by_position (face : Face) (spacing : Spacing) (table : GlyphTable)
    (runs : List (List GlyphId)) :
    let block := layout face spacing table runs
    let firstTops := tops table (runs.headD [])
    block.lineStep = face.lineHeight * spacing.vcompress ∧
      block.lines = (runs.mapIdx fun n run =>
        lineByPosition face spacing table run (baselineAt block.lineStep n)) ∧
      (firstTops = [] ∧ block.ascent = 0 ∨ Highest firstTops block.ascent) := by
  intro block firstTops
  refine ⟨rfl, ?_, ascentOf_spec table (runs.headD [])⟩
  have hlines := placeLines_eq_mapIdx face spacing table block.lineStep 0 runs
  simp only [Nat.zero_add, PlacedLine.place_eq_lineByPosition] at hlines
  exact hlines

end TextBlock

end Lettering
