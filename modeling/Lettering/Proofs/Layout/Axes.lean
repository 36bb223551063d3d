import Lettering.Layout.Anchor
import Lettering.Proofs.Layout.GlyphTable
import Mathlib.Data.List.Forall2

/-!
# The axes and the lines keep apart

A path is looked at along one axis at a time. Its `shadow` on an axis is what is left of it then:
the kind of each command, and the coordinates of its points along the axis.

Laying out and anchoring move a pen and its glyphs in both directions at once. Two layouts of one
text still leave the same shadow on an axis, whatever they do along the other, if they agree about
what belongs to it: across, the factor for advances and the kerning (`Spacing.AgreeAlong`) and how
far the anchor is to the right; upwards, the line step and how high the anchor is. This is carried
by the pen, which stays the same along the axis from glyph to glyph (`PlacedLine.shadow_walk`).

Across, the pen starts each line at zero. What a line is across therefore does not depend on where
it stands among the others, nor on what they are (`TextBlock.axes_and_lines_apart`).
-/

namespace Lettering

/-- The two directions of the plane. -/
inductive Axis
  | across
  | upwards
  deriving DecidableEq, Repr

/-- What a displacement does along an axis. -/
def Vec.component : Axis → Vec → Float
  | .across, v => v.x
  | .upwards, v => v.y

theorem Vec.component_across (x y : Float) : (Vec.mk x y).component .across = x := rfl

theorem Vec.component_upwards (x y : Float) : (Vec.mk x y).component .upwards = y := rfl

/-- Where a point is along an axis. -/
def Point.coordinate : Axis → Point → Float
  | .across, p => p.x
  | .upwards, p => p.y

section

variable (axis : Axis)

@[simp] theorem Point.coordinate_shift (p : Point) (v : Vec) :
    (p.shift v).coordinate axis = p.coordinate axis + v.component axis := by
  cases axis <;> rfl

@[simp] theorem Point.component_toVec (p : Point) :
    p.toVec.component axis = p.coordinate axis := by
  cases axis <;> rfl

end

/-! ## Shadows -/

namespace PathCommand

/-- What a command does, without its points. -/
inductive Kind
  | moveTo
  | lineTo
  | conicTo
  | cubicTo
  | close
  deriving DecidableEq, Repr

/-- The kind of a command. -/
def kind : PathCommand → Kind
  | moveTo .. => .moveTo
  | lineTo .. => .lineTo
  | conicTo .. => .conicTo
  | cubicTo .. => .cubicTo
  | close => .close

@[simp] theorem kind_shift (v : Vec) (c : PathCommand) : (c.shift v).kind = c.kind := by
  cases c <;> rfl

@[simp] theorem points_shift (v : Vec) (c : PathCommand) :
    (c.shift v).points = c.points.map (·.shift v) := by
  cases c <;> rfl

end PathCommand

/-- The shadow of a path on an axis: the kind of each command, and where its points are. -/
def shadow (axis : Axis) (path : List PathCommand) : List (PathCommand.Kind × List Float) :=
  path.map fun c => (c.kind, c.points.map (·.coordinate axis))

section

variable {axis : Axis}

theorem shadow_append (path path' : List PathCommand) :
    shadow axis (path ++ path') = shadow axis path ++ shadow axis path' :=
  List.map_append

/-- The shadow of a path moves with the path, as far as it moves along the axis. -/
theorem shadow_map_shift (path : List PathCommand) (v : Vec) :
    shadow axis (path.map (·.shift v)) =
      (shadow axis path).map (Prod.map id (List.map (· + v.component axis))) := by
  simp [shadow, Function.comp_def]

theorem shadow_map_shift_congr {path path' : List PathCommand} {v v' : Vec}
    (hpath : shadow axis path = shadow axis path') (hv : v.component axis = v'.component axis) :
    shadow axis (path.map (·.shift v)) = shadow axis (path'.map (·.shift v')) := by
  rw [shadow_map_shift, shadow_map_shift, hpath, hv]

/-! ## One line -/

/-- Spacings that ask for the same along an axis. -/
def Spacing.AgreeAlong : Axis → Spacing → Spacing → Prop
  | .across, s, t =>
    s.compress = t.compress ∧ s.useKerning = t.useKerning ∧ s.gridFit = t.gridFit
  | .upwards, s, t => s.vcompress = t.vcompress

/-- Pens at the same place along an axis, behind the same glyph. -/
structure Pen.AgreeAlong (axis : Axis) (pen pen' : Pen) : Prop where
  coordinate : pen.position.coordinate axis = pen'.position.coordinate axis
  previous : pen.previous = pen'.previous

namespace Pen.AgreeAlong

/-- Across, every line starts at zero. -/
theorem start_across (baseline baseline' : Float) :
    (Pen.start baseline).AgreeAlong .across (.start baseline') :=
  ⟨rfl, rfl⟩

/-- Upwards, a line starts on its baseline. -/
theorem start_upwards_iff {baseline baseline' : Float} :
    (Pen.start baseline).AgreeAlong .upwards (.start baseline') ↔ baseline = baseline' :=
  ⟨fun h => h.coordinate, fun h => ⟨h, rfl⟩⟩

variable {spacing spacing' : Spacing} {pen pen' : Pen}

/-- Kerning moves pens by the same amount across, and upwards not at all. -/
theorem kern (hpen : pen.AgreeAlong axis pen') (hspacing : spacing.AgreeAlong axis spacing')
    (face : Face) (id : GlyphId) :
    (pen.kern face spacing id).AgreeAlong axis (pen'.kern face spacing' id) := by
  obtain ⟨hposition, hprevious⟩ := hpen
  cases axis with
  | across =>
    obtain ⟨hcompress, hkerning, hfit⟩ := hspacing
    have hx : pen.position.x = pen'.position.x := hposition
    simp only [Pen.kern, hcompress, hkerning, hfit, hprevious, hx]
    split
    · exact ⟨rfl, rfl⟩
    · exact ⟨hx, hprevious⟩
  | upwards =>
    -- whether a pen is moved at all may differ, but the height of neither is touched
    have hkern : ∀ (p : Pen) (s : Spacing), (p.kern face s id).position.y = p.position.y ∧
        (p.kern face s id).previous = p.previous := fun p s => by
      rw [Pen.kern]
      split <;> exact ⟨rfl, rfl⟩
    exact ⟨(hkern _ _).1.trans (hposition.trans (hkern _ _).1.symm),
      (hkern _ _).2.trans (hprevious.trans (hkern _ _).2.symm)⟩

/-- Moving past a glyph keeps pens in agreement. -/
theorem advance (hpen : pen.AgreeAlong axis pen') (hspacing : spacing.AgreeAlong axis spacing')
    (id : GlyphId) (v : Vec) :
    (pen.advance spacing id v).AgreeAlong axis (pen'.advance spacing' id v) := by
  refine ⟨?_, rfl⟩
  rw [Pen.advance, Pen.advance, Point.coordinate_shift, Point.coordinate_shift, hpen.coordinate]
  cases axis with
  | across => rw [Vec.component_across, Vec.component_across, hspacing.1]
  | upwards => rw [Vec.component_upwards, Vec.component_upwards]

end Pen.AgreeAlong

namespace PlacedLine

variable (face : Face) {spacing spacing' : Spacing} {table table' : GlyphTable}

/-- **A walk along a run leaves the same shadow** as another one that agrees with it along the axis,
and the two pens still agree behind the run. The glyphs are those of the run only. -/
theorem shadow_walk (hspacing : spacing.AgreeAlong axis spacing') {run : List GlyphId}
    (htable : ∀ id ∈ run, table.get? id = table'.get? id) {pen pen' : Pen}
    (hpen : pen.AgreeAlong axis pen') :
    shadow axis (walk face spacing table pen run).1 =
        shadow axis (walk face spacing' table' pen' run).1 ∧
      (walk face spacing table pen run).2.AgreeAlong axis
        (walk face spacing' table' pen' run).2 := by
  induction run generalizing pen pen' with
  | nil => exact ⟨rfl, hpen⟩
  | cons id rest ih =>
    have hid := htable id List.mem_cons_self
    have hrest {p p' : Pen} := @ih (fun other hother =>
      htable other (List.mem_cons_of_mem id hother)) p p'
    cases hget : table'.get? id with
    | none =>
      rw [hget] at hid
      simp only [walk, hid, hget]
      exact hrest ⟨hpen.coordinate, rfl⟩
    | some glyph =>
      rw [hget] at hid
      simp only [walk, hid, hget, shadow_append]
      have hkern := hpen.kern hspacing face id
      obtain ⟨hpath, hlast⟩ := hrest (hkern.advance hspacing id glyph.advance)
      refine ⟨?_, hlast⟩
      rw [hpath, shadow_map_shift_congr rfl]
      rw [Point.component_toVec, Point.component_toVec, hkern.coordinate]

/-- The measure of a line that belongs to an axis: its width, or the height of its baseline. -/
def measure : Axis → PlacedLine → Float
  | .across, line => line.width
  | .upwards, line => line.baseline

/-- Lines with the same commands, which have the same measure and the same coordinates along an
axis. -/
structure AgreeAlong (axis : Axis) (line line' : PlacedLine) : Prop where
  measure : line.measure axis = line'.measure axis
  shadow : Lettering.shadow axis line.path = Lettering.shadow axis line'.path

/-- One run is placed twice in agreement if the spacings agree, and the baselines where these
matter. -/
theorem agreeAlong_place (hspacing : spacing.AgreeAlong axis spacing') {run : List GlyphId}
    (htable : ∀ id ∈ run, table.get? id = table'.get? id) {baseline baseline' : Float}
    (hstart : (Pen.start baseline).AgreeAlong axis (Pen.start baseline')) :
    (place face spacing table baseline run).AgreeAlong axis
      (place face spacing' table' baseline' run) := by
  obtain ⟨hpath, hlast⟩ := shadow_walk face hspacing htable hstart
  refine ⟨?_, hpath⟩
  cases axis with
  | across => exact hlast.coordinate
  | upwards => exact hstart.coordinate

end PlacedLine

/-! ## All lines -/

namespace TextBlock

variable (face : Face) (table : GlyphTable)

section

variable {spacing spacing' : Spacing}

/-- The lines of one text agree along an axis if all baselines do, as far as they matter to it. -/
theorem forall₂_agreeAlong_placeLines (hspacing : spacing.AgreeAlong axis spacing')
    (step step' baseline baseline' : Float)
    (hstep : ∀ height height', (Pen.start height).AgreeAlong axis (.start height') →
      (Pen.start (height - step)).AgreeAlong axis (.start (height' - step')))
    (hstart : (Pen.start baseline).AgreeAlong axis (.start baseline'))
    (runs : List (List GlyphId)) :
    List.Forall₂ (PlacedLine.AgreeAlong axis)
      (placeLines face spacing table step baseline runs)
      (placeLines face spacing' table step' baseline' runs) := by
  induction runs generalizing baseline baseline' with
  | nil => exact .nil
  | cons run rest ih =>
    exact .cons (PlacedLine.agreeAlong_place face hspacing (fun _ _ => rfl) hstart)
      (ih _ _ (hstep _ _ hstart))

end

/-- A run is placed on a line of its own, on some baseline. -/
theorem exists_getElem?_placeLines (spacing : Spacing) (step baseline : Float)
    (before after : List (List GlyphId)) (run : List GlyphId) : ∃ height,
      (placeLines face spacing table step baseline (before ++ run :: after))[before.length]? =
        some (.place face spacing table height run) := by
  induction before generalizing baseline with
  | nil => exact ⟨baseline, rfl⟩
  | cons first rest ih =>
    obtain ⟨height, hline⟩ := ih (baseline - step)
    exact ⟨height, by simpa only [List.cons_append, placeLines, List.length_cons,
      List.getElem?_cons_succ] using hline⟩

/-- Lines that agree along an axis still do when each is moved to the anchor, if all moves agree. -/
theorem shadow_anchored {b b' : TextBlock} {anchor anchor' : Vec}
    (hlines : List.Forall₂ (PlacedLine.AgreeAlong axis) b.lines b'.lines)
    (hshift : ∀ line line' : PlacedLine, line.AgreeAlong axis line' →
      (b.anchorShift anchor line).component axis = (b'.anchorShift anchor' line').component axis) :
    shadow axis (b.anchored anchor) = shadow axis (b'.anchored anchor') := by
  rw [anchored, anchored]
  generalize b.lines = lines, b'.lines = lines' at hlines
  induction hlines with
  | nil => rw [List.flatMap_nil, List.flatMap_nil]
  | cons hline _ ih =>
    rw [List.flatMap_cons, List.flatMap_cons, shadow_append, shadow_append, ih,
      shadow_map_shift_congr hline.shadow (hshift _ _ hline)]

/-- Across, a line is moved by its own width, whatever block it stands in. -/
theorem component_anchorShift_across (b : TextBlock) (anchor : Vec) (line : PlacedLine) :
    (b.anchorShift anchor line).component .across = -anchor.x * line.measure .across :=
  rfl

/-- Upwards, a block is moved as one, by its own measures. -/
theorem component_anchorShift_upwards (b : TextBlock) (anchor : Vec) (line : PlacedLine) :
    (b.anchorShift anchor line).component .upwards = anchor.y * b.height - b.ascent :=
  rfl

/-- A run is across what it is, as placed and as anchored, whichever lines stand around it. -/
theorem exists_line_across (spacing : Spacing) (anchor : Vec) {run : List GlyphId}
    {table' : GlyphTable} (htable : ∀ id ∈ run, table.get? id = table'.get? id)
    (before after before' after' : List (List GlyphId)) :
    let b := layout face spacing table (before ++ run :: after)
    let b' := layout face spacing table' (before' ++ run :: after')
    ∃ line line', b.lines[before.length]? = some line ∧ b'.lines[before'.length]? = some line' ∧
      line.AgreeAlong .across line' ∧
      shadow .across (line.path.map (·.shift (b.anchorShift anchor line))) =
        shadow .across (line'.path.map (·.shift (b'.anchorShift anchor line'))) := by
  obtain ⟨height, hline⟩ := exists_getElem?_placeLines face table spacing
    (face.lineHeight * spacing.vcompress) 0 before after run
  obtain ⟨height', hline'⟩ := exists_getElem?_placeLines face table' spacing
    (face.lineHeight * spacing.vcompress) 0 before' after' run
  have hspacing : spacing.AgreeAlong .across spacing := ⟨rfl, rfl, rfl⟩
  have hagree := PlacedLine.agreeAlong_place face hspacing htable (.start_across height height')
  refine ⟨_, _, hline, hline', hagree, shadow_map_shift_congr hagree.shadow ?_⟩
  rw [component_anchorShift_across, component_anchorShift_across, hagree.measure]

/-- **The axes and the lines do not interfere**, for any face, runs and table of glyphs.

* The vertical factor and the height of the anchor do not affect what the text is across: the
  commands, the width of each line, and every coordinate.
* The horizontal factor, the kerning and how far to the right the anchor is do not affect what the
  text is upwards: the commands, the measures of the block, each baseline, and every coordinate.
* What a line is across, as placed and as anchored, depends neither on the lines before it nor on
  those behind it, if the table has the same glyphs for its own run. -/
theorem axes_and_lines_apart (spacing : Spacing) (anchor : Vec) :
    (∀ (runs : List (List GlyphId)) (vcompress y : Float),
      let b := layout face spacing table runs
      let b' := layout face { spacing with vcompress } table runs
      List.Forall₂ (PlacedLine.AgreeAlong .across) b.lines b'.lines ∧
        shadow .across (b.anchored anchor) = shadow .across (b'.anchored { anchor with y })) ∧
    (∀ (runs : List (List GlyphId)) (compress : Float) (useKerning : Bool) (x : Float),
      let b := layout face spacing table runs
      let b' := layout face { spacing with compress, useKerning } table runs
      List.Forall₂ (PlacedLine.AgreeAlong .upwards) b.lines b'.lines ∧
        b.ascent = b'.ascent ∧ b.height = b'.height ∧ b.lineStep = b'.lineStep ∧
        shadow .upwards (b.anchored anchor) = shadow .upwards (b'.anchored { anchor with x })) ∧
    ∀ (run : List GlyphId) (before after before' after' : List (List GlyphId))
      (table' : GlyphTable), (∀ id ∈ run, table.get? id = table'.get? id) →
      let b := layout face spacing table (before ++ run :: after)
      let b' := layout face spacing table' (before' ++ run :: after')
      ∃ line line', b.lines[before.length]? = some line ∧
        b'.lines[before'.length]? = some line' ∧ line.AgreeAlong .across line' ∧
        shadow .across (line.path.map (·.shift (b.anchorShift anchor line))) =
          shadow .across (line'.path.map (·.shift (b'.anchorShift anchor line'))) := by
  refine ⟨fun runs vcompress y => ?_, fun runs compress useKerning x => ?_,
    fun run before after before' after' table' htable => ?_⟩
  · have hspacing : spacing.AgreeAlong .across { spacing with vcompress } := ⟨rfl, rfl, rfl⟩
    have hlines := forall₂_agreeAlong_placeLines face table hspacing
      (face.lineHeight * spacing.vcompress) (face.lineHeight * vcompress) 0 0
      (fun _ _ _ => .start_across _ _) (.start_across 0 0) runs
    refine ⟨hlines, shadow_anchored hlines fun line line' hline => ?_⟩
    rw [component_anchorShift_across, component_anchorShift_across, hline.measure]
  · have hspacing : spacing.AgreeAlong .upwards { spacing with compress, useKerning } := rfl
    have hlines := forall₂_agreeAlong_placeLines face table hspacing
      (face.lineHeight * spacing.vcompress) (face.lineHeight * spacing.vcompress) 0 0
      (fun height height' h => Pen.AgreeAlong.start_upwards_iff.2
        (by rw [Pen.AgreeAlong.start_upwards_iff.1 h]))
      (Pen.AgreeAlong.start_upwards_iff.2 rfl) runs
    have hascent : (layout face spacing table runs).ascent =
        (layout face { spacing with compress, useKerning } table runs).ascent := rfl
    have hheight : (layout face spacing table runs).height =
        (layout face { spacing with compress, useKerning } table runs).height := rfl
    refine ⟨hlines, hascent, hheight, rfl, shadow_anchored hlines fun line line' _ => ?_⟩
    rw [component_anchorShift_upwards, component_anchorShift_upwards, hascent, hheight]
  · exact exists_line_across face table spacing anchor htable before after before' after'

end TextBlock

end

end Lettering
