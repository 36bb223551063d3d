import Lettering.Layer.Basic

/-!
# Writes as values

What a host writes is read from its name and value before the parameters are looked at. A
`ParamWrite` is what was read: a parameter with a value that fits it. A write in place is the
reading followed by `ParamWrite.apply`, or by nothing if the reading fails (`LayerParams.run_store`,
`TextLayer.run_store`). So what is accepted, and what it means, does not depend on what was written
before, and what is refused leaves the parameters and the layer as they were.

A write reports a change that covers everything it moves: what it reports no stale lines for leaves
the text and its direction, and what it reports no stale layout for leaves the spacing and the
anchor too (`ParamWrite.text_of_not_touchesLines`, `ParamWrite.spacing_of_not_touchesLayout`).
-/

namespace Lettering

/-- A parameter with a value that fits it. -/
inductive ParamWrite
  | text (s : String)
  | family (s : String)
  | style (s : Slant)
  | weight (w : Weight)
  | direction (d : Direction)
  | size (s : Vec)
  | orient (o : Vec)
  | origin (o : Vec)
  | compress (x : Float)
  | vcompress (x : Float)
  | font (s : String)
  | useKerning (b : Bool)
  | gridFit (b : Bool)

namespace ParamWrite

/-- What a write makes stale. -/
def change : ParamWrite → Change
  | text _ => .text
  | family _ | style _ | weight _ | font _ => .font
  | direction _ => .direction
  | size _ | origin _ => .transform
  | orient _ => .orientation
  | compress _ | vcompress _ => .spacing
  | useKerning _ => .kerning
  | gridFit _ => .gridFit

/-- Whether the value is there already. -/
def isThere (p : LayerParams) : ParamWrite → Bool
  | text s => p.text == s
  | family s => p.family == s
  | style s => p.slant == s
  | weight w => p.weight == w
  | direction d => p.direction == d
  | size s => p.size.same s
  | orient o => p.orient.same o
  | origin o => p.origin.toVec.same o
  | compress x => p.compress == x
  | vcompress x => p.vcompress == x
  | font s => p.font == s
  | useKerning b => p.useKerning == b
  | gridFit b => p.gridFit == b

/-- The parameters with the value put in. -/
def put (p : LayerParams) : ParamWrite → LayerParams
  | text s => { p with text := s }
  | family s => { p with family := s, font := "" }
  | style s => { p with slant := s }
  | weight w => { p with weight := w }
  | direction d => { p with direction := d }
  | size s => { p with size := s }
  | orient o => { p with orient := o }
  | origin o => { p with origin := ⟨o.x, o.y⟩ }
  | compress x => { p with compress := x }
  | vcompress x => { p with vcompress := x }
  | font s => { p with font := s }
  | useKerning b => { p with useKerning := b }
  | gridFit b => { p with gridFit := b }

/-- Carry out a write. -/
def apply (p : LayerParams) (w : ParamWrite) : LayerParams.Written :=
  if w.isThere p then (p, .empty) else (w.put p, .only w.change)

/-- Carry out what was read: the answer, and the parameters beside it. -/
def carryOut (p : LayerParams) :
    Except ParamError ParamWrite → Except ParamError Changes × LayerParams
  | .ok w => (.ok (w.apply p).2, (w.apply p).1)
  | .error e => (.error e, p)

/-- Read a value for a parameter; errors use the name that the host used. -/
def read (name : String) (v : ParamValue) : ParamName → Except ParamError ParamWrite
  | .text => text <$> v.string? name
  | .family => family <$> v.string? name
  | .style => style <$> v.choice? name Slant.ofCode?
  | .weight => weight <$> v.choice? name Weight.ofInt?
  | .direction => direction <$> v.choice? name Direction.ofCode?
  | .size => size <$> v.vector? name
  | .orient => orient <$> v.vector? name
  | .origin => origin <$> v.vector? name
  | .compress => compress <$> v.real? name
  | .vcompress => vcompress <$> v.real? name
  | .font => font <$> v.string? name
  | .useKerning => useKerning <$> v.bool? name
  | .gridFit => gridFit <$> v.bool? name

/-- Read a name and a value. -/
def read? (name : String) (v : ParamValue) : Except ParamError ParamWrite :=
  match ParamName.ofString? name with
  | some n => read name v n
  | none => .error (.unknown name)

end ParamWrite

theorem ParamValue.choice?_integer {α : Type} (name : String) (ofCode? : Int → Option α) (n : Int) :
    (ParamValue.integer n).choice? name ofCode? = (match ofCode? n with
      | some a => Except.ok a
      | none => Except.error (ParamError.outOfRange name n)) := rfl

/-- A choice is an integer that stands for one. -/
theorem ParamValue.choice?_eq_ok_iff {α : Type} {name : String} {ofCode? : Int → Option α}
    {v : ParamValue} {a : α} :
    v.choice? name ofCode? = .ok a ↔ ∃ n, v = .integer n ∧ ofCode? n = some a := by
  cases v with
  | integer n =>
    rw [choice?_integer]
    cases hn : ofCode? n <;> simp [hn]
  | _ =>
    refine iff_of_false (fun h => ?_) ?_
    · cases h
    · rintro ⟨n, h, -⟩
      cases h

theorem ParamName.mem_table_of_ofString? {name : String} {n : ParamName}
    (h : ofString? name = some n) : (name, n) ∈ table := by
  obtain ⟨before, after, htable, -⟩ := List.lookup_eq_some_iff.1 h
  rw [htable]
  simp

namespace LayerParams

theorem run_update (same : LayerParams → Bool) (put : LayerParams → LayerParams) (change : Change)
    (p : LayerParams) :
    (update same put change).run.run p =
      if same p then (.ok .empty, p) else (.ok (.only change), put p) := by
  change (Except.ok (if same p then (Changes.empty, p) else (.only change, put p)).1,
    (if same p then (Changes.empty, p) else (.only change, put p)).2) = _
  cases same p <;> rfl

theorem run_update_eq {p : LayerParams} {w : ParamWrite} {same : LayerParams → Bool}
    {put : LayerParams → LayerParams} {change : Change} (hsame : same p = w.isThere p)
    (hput : put p = w.put p) (hchange : change = w.change) :
    (update same put change).run.run p = ParamWrite.carryOut p (.ok w) := by
  rw [run_update, hsame, hput, hchange, ParamWrite.carryOut, ParamWrite.apply]
  split <;> rfl

/-- A new family is put in, and then the file is forgotten. -/
theorem run_updateFamily (p : LayerParams) (s : String) :
    (updateFamily s).run.run p = ParamWrite.carryOut p (.ok (.family s)) := by
  have hupdate := run_update (·.family == s) ({ · with family := s }) .font p
  have hthere : ParamWrite.isThere p (.family s) = (p.family == s) := rfl
  rw [updateFamily, ExceptT.run_bind, StateT.run_bind, hupdate, ParamWrite.carryOut,
    ParamWrite.apply, hthere]
  cases p.family == s <;> rfl

/-- A write reads its value first, and what cannot be read leaves the parameters. -/
theorem run_read_bind {α : Type} {p : LayerParams} (q : Except ParamError α) (f : α → ParamWrite)
    (g : α → Write) (h : ∀ a, (g a).run.run p = ParamWrite.carryOut p (.ok (f a))) :
    (do let a ← q; g a : Write).run.run p = ParamWrite.carryOut p (f <$> q) := by
  cases q with
  | error => rfl
  | ok a => exact h a

/-- Writing a parameter is reading the value, then carrying out what was read. -/
theorem run_write (p : LayerParams) (name : String) (v : ParamValue) (n : ParamName) :
    (write name v n).run.run p = ParamWrite.carryOut p (ParamWrite.read name v n) := by
  -- a family is written in two steps, every other parameter in one
  cases n with
  | family => exact run_read_bind _ _ _ fun s => p.run_updateFamily s
  | _ => exact run_read_bind _ _ _ fun _ => run_update_eq rfl rfl rfl

/-- Writing by name is reading the name and the value, then carrying out what was read. -/
theorem run_store (p : LayerParams) (name : String) (v : ParamValue) :
    (store name v).run.run p = ParamWrite.carryOut p (ParamWrite.read? name v) := by
  unfold store ParamWrite.read?
  cases ParamName.ofString? name with
  | none => rfl
  | some n => exact p.run_write name v n

theorem set_eq (p : LayerParams) (name : String) (v : ParamValue) :
    p.set name v = ParamWrite.apply p <$> ParamWrite.read? name v := by
  rw [set, run_store]
  cases ParamWrite.read? name v <;> rfl

end LayerParams

namespace ParamWrite

/-! ## What a write leaves alone -/

theorem apply_cases (p : LayerParams) (w : ParamWrite) :
    (w.isThere p ∧ w.apply p = (p, .empty)) ∨
      w.isThere p = false ∧ w.apply p = (w.put p, .only w.change) := by
  unfold apply
  cases h : w.isThere p with
  | true => exact .inl ⟨rfl, rfl⟩
  | false => exact .inr ⟨rfl, rfl⟩

/-- Writing what is there already is putting it in, if it is really the same. -/
theorem apply_eq_put {p : LayerParams} {w : ParamWrite} (h : w.isThere p → w.put p = p) :
    (w.apply p).1 = w.put p := by
  rcases w.apply_cases p with ⟨hthere, happly⟩ | ⟨-, happly⟩
  · rw [happly, h hthere]
  · rw [happly]

theorem text_of_not_touchesLines (p : LayerParams) {w : ParamWrite}
    (h : w.change.touchesLines = false) :
    (w.put p).text = p.text ∧ (w.put p).direction = p.direction := by
  cases w with
  | text | family | style | weight | direction | font => cases h
  | size | orient | origin | compress | vcompress | useKerning | gridFit => exact ⟨rfl, rfl⟩

theorem spacing_of_not_touchesLayout (p : LayerParams) {w : ParamWrite}
    (h : w.change.touchesLayout = false) :
    (w.put p).spacing = p.spacing ∧ (w.put p).orient = p.orient := by
  cases w with
  | size | origin => exact ⟨rfl, rfl⟩
  | _ => cases h

end ParamWrite

/-! ## Writes to a layer -/

namespace TextLayer

variable {F : Type}

/-- Carry out a write on a layer. -/
def put (l : TextLayer F) (w : ParamWrite) : TextLayer F :=
  { l with params := (w.apply l.params).1 }.mark (w.apply l.params).2

/-- The layer after a write by name. One that is refused leaves it as it was. -/
def offered (l : TextLayer F) (name : String) (v : ParamValue) : TextLayer F :=
  match ParamWrite.read? name v with
  | .ok w => l.put w
  | .error _ => l

theorem offered_of_ok {name : String} {v : ParamValue} {w : ParamWrite}
    (h : ParamWrite.read? name v = .ok w) (l : TextLayer F) : l.offered name v = l.put w := by
  rw [offered, h]

theorem offered_of_error {name : String} {v : ParamValue} {e : ParamError}
    (h : ParamWrite.read? name v = .error e) (l : TextLayer F) : l.offered name v = l := by
  rw [offered, h]

/-- What a write by name answers. -/
def answerTo (l : TextLayer F) (name : String) (v : ParamValue) : Except ParamError Changes :=
  (fun w => (ParamWrite.apply l.params w).2) <$> ParamWrite.read? name v

/-- A write to a layer answers what the write to its parameters does. -/
theorem run_store (l : TextLayer F) (name : String) (v : ParamValue) :
    (store name v).run.run l = (l.answerTo name v, l.offered name v) := by
  have hparams : (ExceptT.mk (onParams (LayerParams.store name v).run)).run.run l =
      ((ParamWrite.carryOut l.params (ParamWrite.read? name v)).1,
        { l with params := (ParamWrite.carryOut l.params (ParamWrite.read? name v)).2 }) := by
    rw [← LayerParams.run_store]
    rfl
  rw [store, ExceptT.run_bind, StateT.run_bind, hparams, answerTo, offered]
  cases ParamWrite.read? name v <;> rfl

theorem setParam_eq (l : TextLayer F) (name : String) (v : ParamValue) :
    l.setParam name v =
      (fun w => ((w.apply l.params).2, l.put w)) <$> ParamWrite.read? name v := by
  rw [setParam, run_store, answerTo, offered]
  cases ParamWrite.read? name v <;> rfl

end TextLayer

end Lettering
