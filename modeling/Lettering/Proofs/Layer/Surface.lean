import Lettering.Proofs.Font.Cache
import Lettering.Proofs.Layer.Scene
import Mathlib.Data.Set.Basic

/-!
# What a host may write, and what it then reads

A parameter has a type, and a parameter that is stored as a choice has the integers to choose from
(`ParamName.type`, `ParamName.choices`). From these alone it is said which values are refused under
a name, and why (`Refused`), and what a host reads afterwards: the value it gave, with integers
widened to numbers where a number is asked for (`ParamValue.as`).

Reading a value refuses no more and no less than that, and what it reads is what the host gave
(`ParamWrite.reads_read`). What is left is to put it in: a write moves its own slot, and the file of
the font if it is a new family (`ParamWrite.value_apply`, `ParamWrite.value_apply_of_ne`). Together
this is all that a host can see of a write (`TextLayer.setParam_surface`).
-/

namespace Lettering

/-! ## What fits a parameter -/

namespace ParamValue

/-- The type of a value. -/
def type : ParamValue → ParamType
  | string _ => .string
  | integer _ => .integer
  | real _ => .real
  | bool _ => .bool
  | vector _ => .vector

/-- The types a value can be used at: its own, and for an integer also the numbers. -/
def Fits (v : ParamValue) (t : ParamType) : Prop :=
  v.type = t ∨ v.type = .integer ∧ t = .real

/-- A value used at a type it fits. -/
def as : ParamType → ParamValue → ParamValue
  | .real, integer n => real (Float.ofInt n)
  | _, v => v

/-- Equality of values of one type, numerical where they hold numbers. -/
def same : ParamValue → ParamValue → Bool
  | string s, string t => s == t
  | integer m, integer n => m == n
  | real x, real y => x == y
  | bool a, bool b => a == b
  | vector v, vector w => v.same w
  | _, _ => false

/-- Why a value is refused where a type is asked for, and of integers one out of some choices. -/
inductive Rejected (type : ParamType) (choices : Set Int) (name : String) :
    ParamValue → ParamError → Prop
  | mismatch {v : ParamValue} : ¬ v.Fits type →
    Rejected type choices name v (.typeMismatch name type)
  | range {n : Int} : (integer n).Fits type → n ∉ choices →
    Rejected type choices name (.integer n) (.outOfRange name n)

end ParamValue

namespace ParamName

/-- The type of a parameter. Choices and weights are integers. -/
def type : ParamName → ParamType
  | text | family | font => .string
  | style | weight | direction => .integer
  | size | orient | origin => .vector
  | compress | vcompress => .real
  | useKerning | gridFit => .bool

/-- The integers that a parameter can be. -/
def choices : ParamName → Set Int
  | style => {n | ∃ s : Slant, s.code = n}
  | weight => {n | 0 < n}
  | direction => {n | ∃ d : Direction, d.code = n}
  | _ => Set.univ

end ParamName

/-- Why a value is refused under a name. -/
inductive Refused (name : String) (v : ParamValue) : ParamError → Prop
  | unknown : (∀ n, (name, n) ∉ ParamName.table) → Refused name v (.unknown name)
  | rejected {n : ParamName} {e : ParamError} : (name, n) ∈ ParamName.table →
    v.Rejected n.type n.choices name e → Refused name v e

/-! ## Reading a value -/

theorem Slant.ofCode?_eq_some_iff {n : Int} {s : Slant} : ofCode? n = some s ↔ s.code = n := by
  constructor
  · intro h
    unfold ofCode? at h
    split at h <;> cases h <;> rfl
  · rintro rfl
    exact ofCode?_code s

theorem Direction.ofCode?_eq_some_iff {n : Int} {d : Direction} :
    ofCode? n = some d ↔ d.code = n := by
  constructor
  · intro h
    unfold ofCode? at h
    split at h <;> cases h <;> rfl
  · rintro rfl
    exact ofCode?_code d

theorem Direction.code_injective : Function.Injective code := fun s t h =>
  Option.some.inj (by rw [← ofCode?_code s, h, ofCode?_code])

theorem Weight.ofInt?_eq_some_iff {n : Int} {w : Weight} :
    ofInt? n = some w ↔ 0 < n ∧ w.value = n := by
  obtain ⟨m⟩ := w
  rw [ofInt?, Option.ite_none_right_eq_some, Option.some.injEq, Weight.mk.injEq,
    eq_comm (a := n)]

namespace ParamValue

variable {α β : Type} {type : ParamType} {choices : Set Int} {name : String} {v : ParamValue}

/-- A value is refused for one reason only. -/
theorem Rejected.unique {e e' : ParamError} (h : v.Rejected type choices name e)
    (h' : v.Rejected type choices name e') : e = e' := by
  cases h with
  | mismatch hno =>
    cases h' with
    | mismatch _ => rfl
    | range hfits _ => exact absurd hfits hno
  | range hfits _ =>
    cases h' with
    | mismatch hno => exact absurd hfits hno
    | range _ _ => rfl

/-- What reading a value may give: a reason to refuse it, or something that `P` holds of. -/
inductive Reads (type : ParamType) (choices : Set Int) (name : String) (v : ParamValue)
    (P : α → Prop) : Except ParamError α → Prop
  | refused {e : ParamError} : v.Rejected type choices name e →
    Reads type choices name v P (.error e)
  | read {a : α} : v.Fits type → (∀ n, v = integer n → n ∈ choices) → P a →
    Reads type choices name v P (.ok a)

namespace Reads

variable {P : α → Prop} {q : Except ParamError α}

theorem map (h : v.Reads type choices name P q) {Q : β → Prop} {f : α → β}
    (hf : ∀ a, P a → Q (f a)) : v.Reads type choices name Q (f <$> q) := by
  cases h with
  | refused he => exact .refused he
  | read hfits hchoices ha => exact .read hfits hchoices (hf _ ha)

/-- Exactly what there is a reason to refuse is refused, and for this reason. -/
theorem error_iff (h : v.Reads type choices name P q) {e : ParamError} :
    q = .error e ↔ v.Rejected type choices name e := by
  cases h with
  | refused he =>
    refine ⟨fun h => ?_, fun h => by rw [he.unique h]⟩
    cases h
    exact he
  | read hfits hchoices _ =>
    refine iff_of_false nofun fun h => ?_
    cases h with
    | mismatch hno => exact hno hfits
    | range _ hno => exact hno (hchoices _ rfl)

end Reads

variable (name v)

theorem reads_string :
    v.Reads .string Set.univ name (fun s => string s = v.as .string) (v.string? name) := by
  cases v with
  | string s => exact .read (.inl rfl) nofun rfl
  | _ => exact .refused (.mismatch (by simp [Fits, ParamValue.type]))

theorem reads_bool :
    v.Reads .bool Set.univ name (fun b => bool b = v.as .bool) (v.bool? name) := by
  cases v with
  | bool b => exact .read (.inl rfl) nofun rfl
  | _ => exact .refused (.mismatch (by simp [Fits, ParamValue.type]))

theorem reads_vector :
    v.Reads .vector Set.univ name (fun w => vector w = v.as .vector) (v.vector? name) := by
  cases v with
  | vector w => exact .read (.inl rfl) nofun rfl
  | _ => exact .refused (.mismatch (by simp [Fits, ParamValue.type]))

/-- Integers are read as numbers. -/
theorem reads_real :
    v.Reads .real Set.univ name (fun x => real x = v.as .real) (v.real? name) := by
  cases v with
  | real x => exact .read (.inl rfl) nofun rfl
  | integer n => exact .read (.inr ⟨rfl, rfl⟩) (fun _ _ => Set.mem_univ _) rfl
  | _ => exact .refused (.mismatch (by simp [Fits, ParamValue.type]))

/-- A choice is read if the integer stands for one. -/
theorem reads_choice (ofCode? : Int → Option α) (code : α → Int)
    (hchoices : ∀ n, n ∈ choices ↔ ∃ a, ofCode? n = some a)
    (hcode : ∀ n a, ofCode? n = some a → code a = n) :
    v.Reads .integer choices name (fun a => integer (code a) = v.as .integer)
      (v.choice? name ofCode?) := by
  cases v with
  | integer n =>
    rw [choice?_integer]
    cases hn : ofCode? n with
    | none => exact .refused (.range (.inl rfl) (by simp [hchoices, hn]))
    | some a =>
      refine .read (.inl rfl) (fun m hm => ?_) (congrArg integer (hcode n a hn))
      cases hm
      exact (hchoices n).2 ⟨a, hn⟩
  | _ => exact .refused (.mismatch (by simp [Fits, ParamValue.type]))

end ParamValue

namespace ParamWrite

/-- The parameter that is written. -/
def target : ParamWrite → ParamName
  | text _ => .text
  | family _ => .family
  | style _ => .style
  | weight _ => .weight
  | direction _ => .direction
  | size _ => .size
  | orient _ => .orient
  | origin _ => .origin
  | compress _ => .compress
  | vcompress _ => .vcompress
  | font _ => .font
  | useKerning _ => .useKerning
  | gridFit _ => .gridFit

/-- The value that is written, as a host gives it. -/
def given : ParamWrite → ParamValue
  | text s | family s | font s => .string s
  | style s => .integer s.code
  | weight w => .integer w.value
  | direction d => .integer d.code
  | size v | orient v | origin v => .vector v
  | compress x | vcompress x => .real x
  | useKerning b | gridFit b => .bool b

/-- **Reading a value for a parameter** refuses exactly what does not fit the parameter, and what is
read is the value that was given. -/
theorem reads_read (name : String) (v : ParamValue) (n : ParamName) :
    v.Reads n.type n.choices name (fun w => w.target = n ∧ w.given = v.as n.type)
      (read name v n) := by
  have hweight (k : Int) : 0 < k ↔ ∃ w, Weight.ofInt? k = some w :=
    ⟨fun h => ⟨⟨k⟩, Weight.ofInt?_eq_some_iff.2 ⟨h, rfl⟩⟩,
      fun ⟨_, h⟩ => (Weight.ofInt?_eq_some_iff.1 h).1⟩
  cases n with
  | text | family | font => exact (v.reads_string name).map fun _ h => ⟨rfl, h⟩
  | size | orient | origin => exact (v.reads_vector name).map fun _ h => ⟨rfl, h⟩
  | compress | vcompress => exact (v.reads_real name).map fun _ h => ⟨rfl, h⟩
  | useKerning | gridFit => exact (v.reads_bool name).map fun _ h => ⟨rfl, h⟩
  | style =>
    exact .map (v.reads_choice name Slant.ofCode? Slant.code
      (fun _ => exists_congr fun _ => Slant.ofCode?_eq_some_iff.symm)
      fun _ _ => Slant.ofCode?_eq_some_iff.1) fun _ h => ⟨rfl, h⟩
  | direction =>
    exact .map (v.reads_choice name Direction.ofCode? Direction.code
      (fun _ => exists_congr fun _ => Direction.ofCode?_eq_some_iff.symm)
      fun _ _ => Direction.ofCode?_eq_some_iff.1) fun _ h => ⟨rfl, h⟩
  | weight =>
    exact .map (v.reads_choice name Weight.ofInt? Weight.value hweight
      fun _ _ h => (Weight.ofInt?_eq_some_iff.1 h).2) fun _ h => ⟨rfl, h⟩

end ParamWrite

/-- Every entry of the table of names is found. -/
theorem ParamName.ofString?_eq_some_iff {name : String} {n : ParamName} :
    ofString? name = some n ↔ (name, n) ∈ table := by
  refine ⟨mem_table_of_ofString?, fun h => ?_⟩
  have hall : ∀ entry ∈ table, ofString? entry.1 = some entry.2 := by decide
  exact hall _ h

theorem ParamName.ofString?_eq_none_iff {name : String} :
    ofString? name = none ↔ ∀ n, (name, n) ∉ table := by
  simp only [← ofString?_eq_some_iff, Option.eq_none_iff_forall_ne_some, ne_eq]

/-- A name stands for one parameter. -/
theorem ParamName.eq_of_mem_table {name : String} {m n : ParamName} (hm : (name, m) ∈ table)
    (hn : (name, n) ∈ table) : m = n := by
  rw [← ofString?_eq_some_iff] at hm hn
  exact Option.some.inj (hm.symm.trans hn)

/-- What fits the parameter of a name is not refused. -/
theorem not_refused {name : String} {n : ParamName} {v : ParamValue}
    (hn : (name, n) ∈ ParamName.table) (hfits : v.Fits n.type)
    (hchoices : ∀ k, v = .integer k → k ∈ n.choices) (e : ParamError) : ¬ Refused name v e := by
  rintro (hno | ⟨hm, hmismatch | ⟨-, hrange⟩⟩)
  · exact hno n hn
  · obtain rfl := ParamName.eq_of_mem_table hn hm
    exact hmismatch hfits
  · obtain rfl := ParamName.eq_of_mem_table hn hm
    exact hrange (hchoices _ rfl)

theorem LayerParams.get_of_mem (p : LayerParams) {name : String} {n : ParamName}
    (h : (name, n) ∈ ParamName.table) : p.get name = .ok (p.value n) := by
  rw [get, ParamName.ofString?_eq_some_iff.2 h]

namespace ParamWrite

/-- Reading a name and a value refuses exactly what there is a reason to refuse. -/
theorem read?_eq_error_iff {name : String} {v : ParamValue} {e : ParamError} :
    read? name v = .error e ↔ Refused name v e := by
  unfold read?
  cases hname : ParamName.ofString? name with
  | none =>
    have hno := ParamName.ofString?_eq_none_iff.1 hname
    constructor
    · rintro ⟨⟩
      exact .unknown hno
    · rintro (_ | ⟨hmem, _⟩)
      · rfl
      · exact absurd hmem (hno _)
  | some n =>
    refine (reads_read name v n).error_iff.trans ?_
    constructor
    · exact .rejected (ParamName.ofString?_eq_some_iff.1 hname)
    · rintro (hno | ⟨hmem, he⟩)
      · exact absurd (ParamName.ofString?_eq_some_iff.1 hname) (hno n)
      · rw [← ParamName.ofString?_eq_some_iff, hname, Option.some.injEq] at hmem
        rwa [hmem]

/-- What is read is for the parameter of the name, and it is the value that was given. -/
theorem of_read?_eq_ok {name : String} {v : ParamValue} {w : ParamWrite}
    (h : read? name v = .ok w) :
    (name, w.target) ∈ ParamName.table ∧ w.given = v.as w.target.type := by
  unfold read? at h
  cases hname : ParamName.ofString? name with
  | none =>
    rw [hname] at h
    cases h
  | some n =>
    rw [hname] at h
    have hreads := reads_read name v n
    rw [show read name v n = .ok w from h] at hreads
    cases hreads with
    | read _ _ hw =>
      obtain ⟨rfl, hgiven⟩ := hw
      exact ⟨ParamName.ofString?_eq_some_iff.1 hname, hgiven⟩

/-! ## Putting a value in -/

variable (p : LayerParams) (w : ParamWrite)

/-- A value is there already if it equals what a host reads. -/
theorem isThere_eq_same : w.isThere p = (p.value w.target).same w.given := by
  cases w with
  | style s => exact Slant.code_injective.beq_eq.symm
  | weight w => exact Weight.value_injective.beq_eq.symm
  | direction d => exact Direction.code_injective.beq_eq.symm
  | _ => rfl

theorem value_put : (w.put p).value w.target = w.given := by
  cases w <;> rfl

/-- Putting a value in leaves the other slots, except that a new family forgets the file. -/
theorem value_put_of_ne {n : ParamName} (hn : n ≠ w.target) :
    (w.put p).value n =
      if n = .font ∧ w.target = .family then .string "" else p.value n := by
  -- each write against each slot: only a family reaches a second one
  cases w <;> cases n <;> first | rfl | exact absurd rfl hn

/-- A host reads what it wrote, or what was there if that is the same. -/
theorem value_apply : (w.apply p).1.value w.target =
    if (p.value w.target).same w.given then p.value w.target else w.given := by
  rw [← isThere_eq_same]
  rcases w.apply_cases p with ⟨hthere, happly⟩ | ⟨hthere, happly⟩
  · rw [happly, if_pos hthere]
  · rw [happly, hthere, if_neg Bool.false_ne_true, value_put]

/-- A write leaves the family, unless it writes a family that is not there yet. -/
theorem family_apply_ne_iff :
    (w.apply p).1.family ≠ p.family ↔ w.target = .family ∧ w.isThere p = false := by
  rcases w.apply_cases p with ⟨hthere, happly⟩ | ⟨hthere, happly⟩ <;> rw [happly, hthere]
  · simp
  · cases w with
    | family s => exact iff_of_true (Ne.symm (beq_eq_false_iff_ne.1 hthere)) ⟨rfl, rfl⟩
    | _ => exact iff_of_false (fun h => h rfl) nofun

/-- A write leaves the other slots, except that the file is forgotten when the family changes. -/
theorem value_apply_of_ne {n : ParamName} (hn : n ≠ w.target) : (w.apply p).1.value n =
    if n = .font ∧ (w.apply p).1.family ≠ p.family then .string "" else p.value n := by
  simp only [family_apply_ne_iff]
  rcases w.apply_cases p with ⟨hthere, happly⟩ | ⟨hthere, happly⟩
  · rw [happly, if_neg (by simp [hthere])]
  · simp only [happly, value_put_of_ne p w hn, hthere, and_true]

/-- A write that changes nothing says so, and only such a write. -/
theorem changes_apply_eq_empty_iff :
    (w.apply p).2 = .empty ↔ (p.value w.target).same w.given := by
  rw [← isThere_eq_same]
  rcases w.apply_cases p with ⟨hthere, happly⟩ | ⟨hthere, happly⟩
  · simp [happly, hthere]
  · refine iff_of_false (fun h => ?_) (by simp [hthere])
    rw [happly] at h
    have hchange := congrArg (Changes.contains · w.change) h
    simp at hchange

end ParamWrite

/-- **The parameters as a host sees them.** A write is refused exactly for what does not fit, with
the reason for it, and then leaves the parameters and the layer as they were. Any other write is
carried out:

* under every name of the parameter, a host reads the value it gave, or the one that was there if
  the two are equal;
* every other parameter is left, except that the file is forgotten exactly if the family is another;
* nothing is reported stale exactly if the value was there already, and what is reported is added to
  what was stale before. -/
theorem TextLayer.setParam_surface {F : Type} (ctx : TextContext F) (l : TextLayer F)
    (name : String) (v : ParamValue) :
    (∀ e, (l.params.set name v = .error e ↔ Refused name v e) ∧
      (l.setParam name v = .error e ↔ Refused name v e) ∧
      (Refused name v e →
        (LayerParams.store name v).run.run l.params = (.error e, l.params) ∧
        (TextLayer.store name v).run.run l = (.error e, l) ∧
        l.after ctx (.setParam name v) = .done l)) ∧
    ((∀ e, ¬ Refused name v e) → ∃ n params changes, (name, n) ∈ ParamName.table ∧
      l.params.set name v = .ok (params, changes) ∧
      l.setParam name v = .ok (changes, { l with params, pending := l.pending ∪ changes }) ∧
      (LayerParams.store name v).run.run l.params = (.ok changes, params) ∧
      (TextLayer.store name v).run.run l =
        (.ok changes, { l with params, pending := l.pending ∪ changes }) ∧
      (∀ called, (called, n) ∈ ParamName.table → params.get called =
        .ok (if (l.params.value n).same (v.as n.type) then l.params.value n else v.as n.type)) ∧
      (∀ other m, (other, m) ∈ ParamName.table → m ≠ n → params.get other =
        .ok (if m = .font ∧ params.family ≠ l.params.family then .string ""
          else l.params.value m)) ∧
      (changes = .empty ↔ (l.params.value n).same (v.as n.type))) := by
  rw [LayerParams.set_eq, TextLayer.setParam_eq, TextLayer.after_setParam, LayerParams.run_store,
    TextLayer.run_store, TextLayer.answerTo]
  cases hread : ParamWrite.read? name v with
  | error e =>
    have hrefused := ParamWrite.read?_eq_error_iff.1 hread
    refine ⟨fun e' => ?_, fun h => absurd hrefused (h e)⟩
    rw [← ParamWrite.read?_eq_error_iff, hread, TextLayer.offered_of_error hread]
    refine ⟨by simp, by simp, fun he => ?_⟩
    obtain rfl := Except.error.inj he
    exact ⟨rfl, rfl, rfl⟩
  | ok w =>
    obtain ⟨hmem, hgiven⟩ := ParamWrite.of_read?_eq_ok hread
    refine ⟨fun e => ?_, fun _ => ?_⟩
    · rw [← ParamWrite.read?_eq_error_iff, hread]
      refine ⟨by simp, by simp, fun he => ?_⟩
      cases he
    · rw [TextLayer.offered_of_ok hread]
      refine ⟨w.target, (w.apply l.params).1, (w.apply l.params).2, hmem, rfl, rfl, rfl, rfl,
        fun called hcalled => ?_, fun other m hother hm => ?_, ?_⟩
      · rw [LayerParams.get_of_mem _ hcalled, w.value_apply, hgiven]
      · rw [LayerParams.get_of_mem _ hother, w.value_apply_of_ne _ hm]
      · rw [w.changes_apply_eq_empty_iff, hgiven]

/-- A name that there is not; an integer for a number; a place that is read under its other name;
and a family that is another, with which the file is forgotten. -/
theorem TextLayer.setParam_surface_names :
    let l : TextLayer Unit :=
      { params := { family := "Arial", font := "arial.ttf" }, pending := .empty }
    let carriedOut : String → ParamValue → LayerParams → Prop := fun name v params =>
      ∃ changes, (TextLayer.store name v).run.run l =
        (.ok changes, { l with params, pending := .empty ∪ changes })
    (TextLayer.store "colour" (.integer 1)).run.run l = (.error (.unknown "colour"), l) ∧
    (∃ params, carriedOut "compress" (.integer 2) params ∧ params.get "compress" =
      .ok (.real (if (1 : Float) == Float.ofInt 2 then 1 else Float.ofInt 2))) ∧
    (∃ params, carriedOut "pos" (.vector ⟨3, 4⟩) params ∧ params.get "origin" =
      .ok (.vector (if (⟨0, 0⟩ : Vec).same ⟨3, 4⟩ then ⟨0, 0⟩ else ⟨3, 4⟩))) ∧
    ∃ params, carriedOut "family" (.string "Times") params ∧
      params.get "family" = .ok (.string "Times") ∧ params.get "font" = .ok (.string "") := by
  intro l carriedOut
  have hsurface := TextLayer.setParam_surface { view := fun _ => default } l
  have hcarried : ∀ name n v, (name, n) ∈ ParamName.table → v.Fits n.type →
      (∀ k, v = .integer k → k ∈ n.choices) → ∃ params, carriedOut name v params ∧
        (∀ called, (called, n) ∈ ParamName.table → params.get called = .ok
          (if (l.params.value n).same (v.as n.type) then l.params.value n else v.as n.type)) ∧
        ∀ other m, (other, m) ∈ ParamName.table → m ≠ n → params.get other =
          .ok (if m = .font ∧ params.family ≠ "Arial" then .string "" else l.params.value m) := by
    intro name n v hn hfits hchoices
    obtain ⟨m, params, changes, hm, -, -, -, hrun, hread, hother, -⟩ :=
      (hsurface name v).2 (not_refused hn hfits hchoices)
    obtain rfl := ParamName.eq_of_mem_table hn hm
    exact ⟨params, ⟨changes, hrun⟩, hread, hother⟩
  have hunknown : Refused "colour" (.integer 1) (.unknown "colour") :=
    .unknown (by simp [ParamName.table])
  have hcompress := hcarried "compress" .compress (.integer 2) (by decide) (.inr ⟨rfl, rfl⟩)
    fun _ _ => trivial
  have hpos := hcarried "pos" .origin (.vector ⟨3, 4⟩) (by decide) (.inl rfl) nofun
  have hfamily := hcarried "family" .family (.string "Times") (by decide) (.inl rfl) nofun
  refine ⟨(((hsurface _ _).1 _).2.2 hunknown).2.1, ?_, ?_, ?_⟩
  · obtain ⟨params, hrun, hread, -⟩ := hcompress
    refine ⟨params, hrun, (hread "compress" (by decide)).trans ?_⟩
    exact congrArg Except.ok (apply_ite ParamValue.real _ _ _).symm
  · obtain ⟨params, hrun, hread, -⟩ := hpos
    refine ⟨params, hrun, (hread "origin" (by decide)).trans ?_⟩
    exact congrArg Except.ok (apply_ite ParamValue.vector _ _ _).symm
  · obtain ⟨params, hrun, hread, hother⟩ := hfamily
    have hname : params.get "family" = .ok (.string "Times") := hread "family" (by decide)
    have hnew : params.family = "Times" := ParamValue.string.inj (Except.ok.inj hname)
    refine ⟨params, hrun, hname, (hother "font" .font (by decide) (by decide)).trans ?_⟩
    rw [hnew]
    rfl

end Lettering
