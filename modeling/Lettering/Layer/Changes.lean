/-!
# What has changed in a layer

Every edit of a layer reports what it makes stale as a set of `Change`s. Sets are united until the
next sync takes them, so that any number of edits costs one pass.
-/

namespace Lettering

/-- One reason to recompute something. -/
inductive Change
  | font
  | text
  | direction
  | spacing
  | orientation
  | kerning
  | gridFit
  /-- Size or place: only the final map moves. -/
  | transform
  deriving DecidableEq, Repr, Inhabited

namespace Change

/-- All reasons, in the order of their bits. -/
def all : List Change :=
  [font, text, direction, spacing, orientation, kerning, gridFit, transform]

/-- The name in listings. -/
def name : Change → String
  | font => "FONT"
  | text => "TEXT"
  | direction => "DIRECTION"
  | spacing => "SPACING"
  | orientation => "ORIENTATION"
  | kerning => "KERNING"
  | gridFit => "GRID_FIT"
  | transform => "TRANSFORM"

/-- The bit that stands for a reason when a set is written as a number. -/
def bit : Change → Nat
  | font => 1
  | text => 2
  | direction => 4
  | spacing => 8
  | orientation => 16
  | kerning => 32
  | gridFit => 64
  | transform => 128

/-- Whether lines of text are stale with this change. -/
def touchesLines : Change → Bool
  | font | text | direction => true
  | _ => false

/-- Whether outlines, pen positions or the anchor are stale with this change. -/
def touchesLayout : Change → Bool
  | transform => false
  | _ => true

end Change

/-- A set of changes. -/
@[ext]
structure Changes where
  contains : Change → Bool

namespace Changes

/-- No change. -/
def empty : Changes := ⟨fun _ => false⟩

/-- Every change. -/
def everything : Changes := ⟨fun _ => true⟩

/-- One change. -/
def only (c : Change) : Changes := ⟨fun d => d == c⟩

/-- The changes of either set. -/
def union (a b : Changes) : Changes := ⟨fun c => a.contains c || b.contains c⟩

instance : Union Changes := ⟨union⟩

@[simp] theorem contains_empty (c : Change) : empty.contains c = false := rfl

@[simp] theorem contains_everything (c : Change) : everything.contains c = true := rfl

@[simp] theorem contains_only (c d : Change) : (only c).contains d = (d == c) := rfl

@[simp] theorem contains_union (a b : Changes) (c : Change) :
    (a ∪ b).contains c = (a.contains c || b.contains c) := rfl

@[simp] theorem union_empty (a : Changes) : a ∪ empty = a := by
  ext c
  simp

@[simp] theorem empty_union (a : Changes) : empty ∪ a = a := by
  ext c
  simp

theorem union_assoc (a b c : Changes) : a ∪ b ∪ c = a ∪ (b ∪ c) := by
  ext d
  simp [Bool.or_assoc]

/-- The changes of a set, in order. -/
def toList (a : Changes) : List Change := Change.all.filter a.contains

/-- Whether a set holds no change. -/
def isEmpty (a : Changes) : Bool := a.toList.isEmpty

theorem mem_toList {a : Changes} {c : Change} : c ∈ a.toList ↔ a.contains c := by
  cases c <;> simp [toList, Change.all]

theorem isEmpty_iff {a : Changes} : a.isEmpty ↔ a = empty := by
  constructor
  · intro h
    ext c
    have : c ∉ a.toList := by simp [List.isEmpty_iff.1 h]
    simpa [mem_toList] using this
  · rintro rfl
    rfl

/-- The set written as a number. -/
def toBits (a : Changes) : Nat := a.toList.foldr (fun c n => c.bit + n) 0

/-- The set of the low eight bits of a number. -/
def ofBits (n : Nat) : Changes := ⟨fun c => n / c.bit % 2 == 1⟩

/-- Whether the face has to be found again. -/
def needsFace (a : Changes) : Bool := a.contains .font

/-- Whether the lines have to be made again. -/
def needsLines (a : Changes) : Bool := a.toList.any Change.touchesLines

/-- Whether the text has to be laid out again. -/
def needsLayout (a : Changes) : Bool := a.toList.any Change.touchesLayout

end Changes

end Lettering
