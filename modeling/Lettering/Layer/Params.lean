import Lettering.Font.Identity
import Lettering.Layer.Changes
import Lettering.Layer.Param
import Lettering.Layout.Block
import Lettering.Text.Direction

/-!
# The parameters of a layer

`LayerParams.get` reads a parameter by name and `LayerParams.store` writes one in place: it answers
what the write makes stale, which is nothing if the value was there already, or why it is refused.
The parameters are there after either answer; `LayerParams.set` hands them on only after a write.
-/

namespace Lettering

/-- All parameters. -/
structure LayerParams where
  text : String := "Text Layer"
  family : String := "Sans Serif"
  slant : Slant := .normal
  weight : Weight := .normal
  direction : Direction := .auto
  /-- What one em becomes. -/
  size : Vec := ⟨0.25, 0.25⟩
  /-- Which point of the block goes to the origin, as a fraction of its width and height. -/
  orient : Vec := ⟨0.5, 0.5⟩
  origin : Point := .zero
  compress : Float := 1
  vcompress : Float := 1
  /-- The font file in use. It is tried first if the family names a file. -/
  font : String := ""
  useKerning : Bool := true
  gridFit : Bool := false

/-- A text that stands for the name of the document. -/
def fileNameSentinel : String := "@_FILENAME_@"

namespace LayerParams

/-! ## Reading -/

/-- The value of a parameter. -/
def value (p : LayerParams) : ParamName → ParamValue
  | .text => .string p.text
  | .family => .string p.family
  | .style => .integer p.slant.code
  | .weight => .integer p.weight.value
  | .direction => .integer p.direction.code
  | .size => .vector p.size
  | .orient => .vector p.orient
  | .origin => .vector p.origin.toVec
  | .compress => .real p.compress
  | .vcompress => .real p.vcompress
  | .font => .string p.font
  | .useKerning => .bool p.useKerning
  | .gridFit => .bool p.gridFit

/-- Read a parameter by name. -/
def get (p : LayerParams) (name : String) : Except ParamError ParamValue :=
  match ParamName.ofString? name with
  | some n => .ok (p.value n)
  | none => .error (.unknown name)

/-- The face that is asked for, whatever the document. -/
def identity (p : LayerParams) : FontIdentity :=
  { family := p.family, slant := p.slant, weight := p.weight }

/-- The spacing that is asked for. -/
def spacing (p : LayerParams) : Spacing :=
  { compress := p.compress, vcompress := p.vcompress
    useKerning := p.useKerning, gridFit := p.gridFit }

/-- The text to show in a document of a given name. Only a text that is the sentinel and nothing
else is replaced. -/
def expandedText (p : LayerParams) (documentStem : Option String) : String :=
  match documentStem with
  | some stem => if p.text = fileNameSentinel then stem else p.text
  | none => p.text

/-! ## Writing -/

/-- A write to the parameters in place. They stay beside an error as well. -/
abbrev Write := ExceptT ParamError (StateM LayerParams) Changes

/-- Put a value in unless it is there already. -/
def update (same : LayerParams → Bool) (put : LayerParams → LayerParams) (change : Change) :
    Write :=
  modifyGet fun p => if same p then (.empty, p) else (.only change, put p)

/-- Put a family in unless it is there already. A new one forgets the file of the old one. -/
def updateFamily (s : String) : Write := do
  let changes ← update (·.family == s) ({ · with family := s }) .font
  unless changes.isEmpty do
    modify ({ · with font := "" })
  return changes

/-- Write a parameter; errors use the name that the host used. -/
def write (name : String) (v : ParamValue) : ParamName → Write
  | .text => do
    let s ← v.string? name
    update (·.text == s) ({ · with text := s }) .text
  | .family => do
    let s ← v.string? name
    updateFamily s
  | .font => do
    let s ← v.string? name
    update (·.font == s) ({ · with font := s }) .font
  | .style => do
    let s ← v.choice? name Slant.ofCode?
    update (·.slant == s) ({ · with slant := s }) .font
  | .weight => do
    let w ← v.choice? name Weight.ofInt?
    update (·.weight == w) ({ · with weight := w }) .font
  | .direction => do
    let d ← v.choice? name Direction.ofCode?
    update (·.direction == d) ({ · with direction := d }) .direction
  | .size => do
    let s ← v.vector? name
    update (·.size.same s) ({ · with size := s }) .transform
  | .orient => do
    let o ← v.vector? name
    update (·.orient.same o) ({ · with orient := o }) .orientation
  | .origin => do
    let o ← v.vector? name
    update (·.origin.toVec.same o) ({ · with origin := ⟨o.x, o.y⟩ }) .transform
  | .compress => do
    let x ← v.real? name
    update (·.compress == x) ({ · with compress := x }) .spacing
  | .vcompress => do
    let x ← v.real? name
    update (·.vcompress == x) ({ · with vcompress := x }) .spacing
  | .useKerning => do
    let b ← v.bool? name
    update (·.useKerning == b) ({ · with useKerning := b }) .kerning
  | .gridFit => do
    let b ← v.bool? name
    update (·.gridFit == b) ({ · with gridFit := b }) .gridFit

/-- Write a parameter by name. -/
def store (name : String) (v : ParamValue) : Write :=
  match ParamName.ofString? name with
  | some n => write name v n
  | none => throw (.unknown name)

/-- Parameters after a write, and what the write makes stale. -/
abbrev Written := LayerParams × Changes

/-- Write a parameter by name, for a host that goes on with what a write leaves. -/
def set (p : LayerParams) (name : String) (v : ParamValue) : Except ParamError Written :=
  let (answer, after) := (store name v).run.run p
  answer.map (after, ·)

end LayerParams

end Lettering
