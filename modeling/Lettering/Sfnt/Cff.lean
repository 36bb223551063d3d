import Lettering.Outline.Pen
import Lettering.Sfnt.Container

/-!
# Compact font outlines

Glyphs made of cubic contours, stored as small programs. The operators read here move, draw lines
and curves, and end the glyph; every other one makes the glyph unreadable.

A contour is drawn only once something in it is. Lines that go nowhere are left out, and so is a
last line back to the start of the contour, which closing draws anyway.
-/

namespace Lettering.Sfnt

/-- Items of an index: its offsets count from the byte before the data. -/
structure CffIndex where
  items : List ByteArray
  /-- The place behind the index. -/
  stop : Nat

namespace CffIndex

/-- A number of `width` bytes. -/
def number? (b : ByteArray) (i : Nat) : Nat → Option Nat
  | 0 => some 0
  | width + 1 => do
    let high ← number? b i width
    return high * 0x100 + (← u8? b (i + width))

/-- Read the index at `i`. -/
def read? (b : ByteArray) (i : Nat) : Option CffIndex := do
  let count ← u16? b i
  if count = 0 then return ⟨[], i + 2⟩
  let width ← u8? b (i + 2)
  let offsets ← (List.range (count + 1)).mapM fun k => number? b (i + 3 + k * width) width
  let base := i + 2 + (count + 1) * width
  let items ← (offsets.zip offsets.tail).mapM fun (start, stop) =>
    if stop < start then none else slice? b (base + start) (stop - start)
  return ⟨items, base + offsets.getLastD 1⟩

end CffIndex

/-- Read the number that begins with byte `lead` at `i` in a dictionary or program; the answer is
the number and the place behind it. -/
def cffNumber? (b : ByteArray) (i lead : Nat) : Option (Int × Nat) := do
  if lead = 28 then return (← i16? b (i + 1), i + 3)
  else if lead < 32 then none
  else if lead ≤ 246 then return ((lead : Int) - 139, i + 1)
  else if lead ≤ 250 then return (((lead - 247) * 256 + (← u8? b (i + 1)) + 108 : Nat), i + 2)
  else if lead ≤ 254 then return (-(((lead - 251) * 256 + (← u8? b (i + 1)) + 108 : Nat) : Int), i + 2)
  else none

/-- The first operand of an operator of one byte in a dictionary. `operands` are those read so far,
last one first. -/
def dictEntry? (b : ByteArray) (key : Nat) (fuel i : Nat) (operands : List Int) : Option Int :=
  match fuel with
  | 0 => none
  | fuel + 1 => do
    let lead ← u8? b i
    if lead = 12 then dictEntry? b key fuel (i + 2) []
    else if lead = 29 then
      let n ← (fun high low => high * 0x10000 + low) <$> i16? b (i + 1) <*> (Int.ofNat <$> u16? b (i + 3))
      dictEntry? b key fuel (i + 5) (n :: operands)
    else if lead ≤ 21 then
      if lead = key then operands.getLast? else dictEntry? b key fuel (i + 1) []
    else
      let (n, next) ← cffNumber? b i lead
      dictEntry? b key fuel next (n :: operands)

/-- The glyph programs of a font. -/
def cffPrograms? (b : ByteArray) : Option (Array ByteArray) := do
  let names ← CffIndex.read? b (← u8? b 2)
  let dicts ← CffIndex.read? b names.stop
  let dict ← dicts.items.head?
  let offset ← dictEntry? dict 17 (dict.size + 1) 0 []
  if offset < 0 then none
  else return (← CffIndex.read? b offset.toNat).items.toArray

/-- A drawing operator with its operands in order. -/
structure CffCommand where
  operator : Nat
  operands : List Int

/-- The commands of a glyph program up to its end. -/
def cffCommands? (b : ByteArray) (fuel i : Nat) (operands : List Int) : Option (List CffCommand) :=
  match fuel with
  | 0 => none
  | fuel + 1 =>
    match u8? b i with
    | none => some []
    | some 14 => some [⟨14, operands.reverse⟩]
    | some lead =>
      if lead = 28 ∨ 32 ≤ lead then do
        let (n, next) ← cffNumber? b i lead
        cffCommands? b fuel next (n :: operands)
      else do
        return ⟨lead, operands.reverse⟩ :: (← cffCommands? b fuel (i + 1) [])

/-- The state of drawing: the current point, where the contour begins, the calls of the contour in
reverse, and the calls of all earlier contours. -/
structure CffDrawing where
  x : Int := 0
  y : Int := 0
  start : Int × Int := (0, 0)
  contour : List (PenCall × Int × Int) := []
  calls : List PenCall := []

namespace CffDrawing

/-- A point in the plane. -/
def pointAt (x y : Int) : Point := ⟨Float.ofInt x, Float.ofInt y⟩

/-- Close the contour, without a last line back to its start. -/
def close (d : CffDrawing) : CffDrawing :=
  let drawn :=
    match d.contour with
    | (.line _, stop) :: rest => if stop = d.start then rest else d.contour
    | all => all
  if drawn.isEmpty then { d with contour := [] }
  else
    let body := (drawn.map (·.1)).reverse
    { d with
      contour := []
      calls := d.calls ++ .move (pointAt d.start.1 d.start.2) :: body ++ [.close] }

/-- Begin a contour. -/
def move (d : CffDrawing) (dx dy : Int) : CffDrawing :=
  let d := d.close
  { d with x := d.x + dx, y := d.y + dy, start := (d.x + dx, d.y + dy) }

/-- Draw a line. -/
def line (d : CffDrawing) (dx dy : Int) : CffDrawing :=
  if dx = 0 ∧ dy = 0 then d
  else
    let x := d.x + dx
    let y := d.y + dy
    { d with x, y, contour := (.line (pointAt x y), x, y) :: d.contour }

/-- Draw lines through pairs of distances. -/
def lines (d : CffDrawing) : List Int → CffDrawing
  | dx :: dy :: rest => (d.line dx dy).lines rest
  | _ => d

/-- Draw curves through groups of six distances. -/
def curves (d : CffDrawing) : List Int → CffDrawing
  | a :: b :: c :: e :: f :: g :: rest =>
    let x₁ := d.x + a
    let y₁ := d.y + b
    let x₂ := x₁ + c
    let y₂ := y₁ + e
    let x := x₂ + f
    let y := y₂ + g
    let drawn : PenCall := .curve (pointAt x₁ y₁) (pointAt x₂ y₂) (pointAt x y)
    { d with x, y, contour := (drawn, x, y) :: d.contour : CffDrawing }.curves rest
  | _ => d

/-- Carry out one command; none for an operator that is not read. A first operand too many is the
width of the glyph. -/
def step (d : CffDrawing) (c : CffCommand) : Option CffDrawing :=
  match c.operator with
  | 21 =>
    match c.operands.drop (c.operands.length - 2) with
    | [dx, dy] => some (d.move dx dy)
    | _ => none
  | 5 => some (d.lines c.operands)
  | 8 => some (d.curves c.operands)
  | 14 => some d.close
  | _ => none

end CffDrawing

/-- The calls that draw a glyph program. -/
def cffDraw? (program : ByteArray) : Option (List PenCall) := do
  let commands ← cffCommands? program (program.size + 1) 0 []
  return (← commands.foldlM CffDrawing.step {}).close.calls

end Lettering.Sfnt
