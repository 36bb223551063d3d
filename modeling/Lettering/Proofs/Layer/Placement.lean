import Lettering.Layer.Placement
import Lettering.Proofs.Layout.Closed

/-!
# A placed path and its drawing

A placed path is handed out in two forms. `TextGeometry.world` moves each command into the layer.
`TextGeometry.elements` is for drawing libraries, which build a path by pushing elements, controls
before the end point, and transform it as a whole. A `PathBuilder` is what such a library does.

Both forms are the same path (`TextGeometry.elements_eq_iff_depicts`): building and transforming
gives one element for each moved command, in order and with the same coordinates. The path has to
begin with a move, which closed paths do and therefore all composed texts (`begins_compose`).
-/

namespace Lettering

/-- A command and the element that draws it. -/
inductive Depicts : PathCommand → PathElement → Prop
  | move (p : Point) : Depicts (.moveTo p) (.move p)
  | line (p : Point) : Depicts (.lineTo p) (.line p)
  | quad (p control : Point) : Depicts (.conicTo p control) (.quad control p)
  | curve (p control₁ control₂ : Point) :
      Depicts (.cubicTo p control₁ control₂) (.curve control₁ control₂ p)
  | close : Depicts .close .close

theorem depicts_iff {c : PathCommand} {e : PathElement} : Depicts c e ↔ e = .ofCommand c := by
  constructor
  · rintro ⟨⟩ <;> rfl
  · rintro rfl
    cases c <;> constructor

/-- A path is depicted by its elements and by nothing else. -/
theorem forall₂_depicts_iff {path : List PathCommand} {drawn : List PathElement} :
    List.Forall₂ Depicts path drawn ↔ drawn = elements path := by
  have hdepicts : Depicts = fun c e => PathElement.ofCommand c = e := by
    funext c e
    exact propext (depicts_iff.trans eq_comm)
  rw [hdepicts, ← List.forall₂_map_left_iff, List.forall₂_eq_eq_eq, elements, eq_comm]

/-- Moving a command and transforming its element are the same. -/
theorem PathElement.transform_ofCommand (m : Affine) (c : PathCommand) :
    (ofCommand c).transform m = ofCommand (c.mapPoints m.apply) := by
  cases c <;> rfl

/-! ## Building paths -/

/-- A path that can be drawn from nothing: there is a current point from the first command on. -/
def Begins (path : List PathCommand) : Prop :=
  path = [] ∨ ∃ p, path.head? = some (.moveTo p)

/-- Paths as a drawing library keeps them. -/
structure PathBuilder where
  Path : Type
  fresh : Path
  push : Path → PathElement → Path
  transform : Affine → Path → Path
  /-- What a path holds. -/
  elements : Path → List PathElement
  elements_fresh : elements fresh = []
  /-- Pushing appends an element, if it is a move or the path has begun. -/
  elements_push : ∀ path e, elements path ≠ [] ∨ (∃ p, e = .move p) →
    elements (push path e) = elements path ++ [e]
  /-- Transforming moves every point of every element. -/
  elements_transform : ∀ m path, elements (transform m path) = (elements path).map (·.transform m)

namespace PathBuilder

variable (b : PathBuilder)

/-- Push the elements of some commands, one after the other. -/
def extend (path : b.Path) (commands : List PathCommand) : b.Path :=
  commands.foldl (fun path c => b.push path (.ofCommand c)) path

/-- A path that has begun takes all commands. -/
theorem elements_extend (path : b.Path) (commands : List PathCommand) (h : b.elements path ≠ []) :
    b.elements (b.extend path commands) = b.elements path ++ Lettering.elements commands := by
  induction commands generalizing path with
  | nil => exact (List.append_nil _).symm
  | cons c rest ih =>
    have hpush := b.elements_push path (.ofCommand c) (.inl h)
    have hrest := ih (b.push path (.ofCommand c)) (by simp [hpush])
    rw [hpush, List.append_assoc] at hrest
    exact hrest

/-- A path that begins with a move can be built. -/
theorem elements_extend_fresh {path : List PathCommand} (h : Begins path) :
    b.elements (b.extend b.fresh path) = Lettering.elements path := by
  cases path with
  | nil => exact b.elements_fresh
  | cons c rest =>
    obtain ⟨p, hp⟩ := h.resolve_left (List.cons_ne_nil c rest)
    obtain rfl : c = .moveTo p := Option.some.inj hp
    have hpush := b.elements_push b.fresh (.move p) (.inr ⟨p, rfl⟩)
    have hrest := b.elements_extend (b.push b.fresh (.move p)) rest (by simp [hpush])
    rw [hpush, b.elements_fresh] at hrest
    exact hrest

/-- Paths kept as lists. -/
def lists : PathBuilder where
  Path := List PathElement
  fresh := []
  push path e := path ++ [e]
  transform m path := path.map (·.transform m)
  elements path := path
  elements_fresh := rfl
  elements_push _ _ _ := rfl
  elements_transform _ _ := rfl

end PathBuilder

theorem ClosedPath.begins {path : List PathCommand} (h : ClosedPath path) : Begins path := by
  obtain ⟨contours, rfl, hcontours⟩ := h
  cases contours with
  | nil => exact .inl rfl
  | cons c rest =>
    obtain ⟨p, segments, rfl, -⟩ := hcontours c List.mem_cons_self
    exact .inr ⟨p, rfl⟩

/-- Every composed text begins with a move, if it has anything to draw. -/
theorem begins_compose (face : Face) (lines : List Line) (shaper : Shaper) (spacing : Spacing)
    (anchor : Vec) : Begins (compose face lines shaper spacing anchor).path :=
  (TextBlock.wellDrawn_anchored _ anchor
    (TextBlock.forall₂_wellDrawn face spacing (shaper.runs face lines))).closed.begins

/-! ## Both forms -/

namespace TextGeometry

/-- The elements of a placed path are those of the commands in the layer. -/
theorem elements_eq (g : TextGeometry) : g.elements = Lettering.elements g.world := by
  rw [elements, world, Lettering.elements, Lettering.elements, List.map_map, List.map_map]
  exact List.map_congr_left fun c _ => PathElement.transform_ofCommand g.transform c

/-- **Both forms describe the same path.** To build a path that begins with a move and to transform
it then gives its drawing elements, and these depict the commands of the layer one by one: moves,
lines, quadratic and cubic segments with their controls in order, and closes, at the same
coordinates. Nothing else depicts these commands. -/
theorem elements_eq_iff_depicts (b : PathBuilder) (g : TextGeometry) (h : Begins g.path) :
    b.elements (b.transform g.transform (b.extend b.fresh g.path)) = g.elements ∧
      ∀ drawn, drawn = g.elements ↔ List.Forall₂ Depicts g.world drawn := by
  refine ⟨?_, fun drawn => ?_⟩
  · rw [b.elements_transform, b.elements_extend_fresh h, elements]
  · rw [forall₂_depicts_iff, g.elements_eq]

/-- A contour with every kind of segment, in a layer that is twice as large and turned over. -/
theorem elements_eq_iff_depicts_petal :
    let g : TextGeometry := {
      path := [.moveTo ⟨0, 0⟩, .conicTo ⟨2, 0⟩ ⟨1, 1⟩, .cubicTo ⟨4, 2⟩ ⟨3, 0⟩ ⟨4, 1⟩,
        .lineTo ⟨0, 2⟩, .close]
      transform := ⟨2, 0, 0, -2, 1, 0⟩
      bounds := .zero }
    Begins g.path ∧ PathBuilder.lists.transform g.transform (PathBuilder.lists.extend [] g.path) =
        [.move ⟨1, 0⟩, .quad ⟨3, -2⟩ ⟨5, 0⟩, .curve ⟨7, 0⟩ ⟨9, -2⟩ ⟨9, -4⟩, .line ⟨1, -4⟩,
          .close] := by
  intro g
  have h : Begins g.path := .inr ⟨_, rfl⟩
  refine ⟨h, (elements_eq_iff_depicts PathBuilder.lists g h).1.trans ?_⟩
  simp only [g, elements, Lettering.elements, List.map_cons, List.map_nil, PathElement.ofCommand,
    PathElement.transform, Affine.apply, List.cons.injEq, PathElement.move.injEq,
    PathElement.line.injEq, PathElement.quad.injEq, PathElement.curve.injEq, Point.mk.injEq]
  decide +kernel

end TextGeometry

end Lettering
