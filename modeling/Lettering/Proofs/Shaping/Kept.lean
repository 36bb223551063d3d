import Lettering.Shaping.Prepared
import Mathlib.Data.List.Nodup

/-!
# What kept fonts change

Calls of `KeptFonts.shape` that follow one another fill the list of kept fonts, find fonts in it and
start it over when it is full. None of this shows in the answers: as long as faces with one key have
the same bytes, each call is answered as by a shaper that has kept nothing yet, and never are more
than 32 fonts kept (`KeptFonts.history_as_new`).

* A call either gets to no font and changes nothing, or finds its font among those kept, or prepares
  it and keeps it (`KeptFonts.shape_served`).
* Fonts are kept under different keys, each as it was prepared from a face of that key
  (`PreparedFrom`). A call keeps this up (`PreparedFrom.shape`), and what it answers follows from it
  (`PreparedFrom.answer`).
-/

namespace Lettering

namespace ShapingEngine

variable (E : ShapingEngine)

/-- The call gets to no font: the span is empty, there are no bytes, or they are rejected. -/
def Unserved (span : Span) (f : Face) : Prop :=
  span.chars = [] ∨ f.bytes.isEmpty ∨ ∃ e, E.openFont f.bytes f.index = .error e

/-- Among the faces, those with one key have the same bytes. -/
def KeysTellBytes (faces : List Face) : Prop :=
  ∀ f ∈ faces, ∀ g ∈ faces, E.key f = E.key g → f.bytes = g.bytes

instance (faces : List Face) : Decidable (E.KeysTellBytes faces) :=
  inferInstanceAs (Decidable (∀ f ∈ faces, ∀ g ∈ faces, E.key f = E.key g → f.bytes = g.bytes))

variable {E} {span : Span} {f g : Face} {font : E.Font}

theorem fontOf_eq_ok_iff :
    E.fontOf f = .ok font ↔ ¬f.bytes.isEmpty ∧ E.openFont f.bytes f.index = .ok font := by
  rw [fontOf]
  split
  · simp [*]
  · cases E.openFont f.bytes f.index <;> simp [*]

theorem unserved_iff : E.Unserved span f ↔ span.chars = [] ∨ ∃ e, E.fontOf f = .error e := by
  refine or_congr_right ⟨fun h => ?_, fun ⟨e, he⟩ => ?_⟩
  · cases hfont : E.fontOf f with
    | error e => exact ⟨e, rfl⟩
    | ok font =>
      obtain ⟨hbytes, hopen⟩ := fontOf_eq_ok_iff.1 hfont
      obtain ⟨e, he⟩ := h.resolve_left hbytes
      cases hopen.symm.trans he
  · by_cases hbytes : f.bytes.isEmpty
    · exact .inl hbytes
    · cases hopen : E.openFont f.bytes f.index with
      | error e => exact .inr ⟨e, rfl⟩
      | ok font => cases he.symm.trans (fontOf_eq_ok_iff.2 ⟨hbytes, hopen⟩)

/-- The font of a face depends on its bytes and its index only. -/
theorem fontOf_congr (hbytes : f.bytes = g.bytes) (hindex : f.index = g.index) :
    E.fontOf f = E.fontOf g := by
  rw [fontOf, fontOf, hbytes, hindex]

theorem shape_of_fontOf (hspan : span.chars ≠ []) (hfont : E.fontOf f = .ok font) :
    E.shape span f = .ok (E.spanGlyphs (E.prepare font) font span) := by
  rw [shape, if_neg (by simpa using hspan), hfont]
  rfl

end ShapingEngine

variable {E : ShapingEngine} {p : KeptFonts E} {span : Span} {f : Face} {faces : List Face}

namespace KeptFonts

/-! ## One call -/

/-- How a call can go: what it answers and what is kept after it. -/
inductive Served (p : KeptFonts E) (span : Span) (f : Face) :
    Except Error (List GlyphId) × KeptFonts E → Prop
  /-- It gets to no font. -/
  | unserved (h : E.Unserved span f) : Served p span f (E.shape span f, p)
  /-- The font is among those kept. -/
  | found {font : E.Font} {prepared : E.Prepared} (hspan : span.chars ≠ [])
      (hfont : E.fontOf f = .ok font) (hkept : p.fonts.lookup (E.key f) = some prepared) :
      Served p span f (.ok (E.spanGlyphs prepared font span), p)
  /-- The font is prepared and kept. -/
  | prepared {font : E.Font} (hspan : span.chars ≠ []) (hfont : E.fontOf f = .ok font)
      (hnew : p.fonts.lookup (E.key f) = none) :
      Served p span f (E.shape span f, p.keep (E.key f) (E.prepare font))

theorem shape_of_unserved (h : E.Unserved span f) : p.shape span f = (E.shape span f, p) := by
  rw [KeptFonts.shape, ShapingEngine.shape]
  by_cases hspan : span.chars = []
  · simp [hspan]
  · obtain ⟨e, he⟩ := (ShapingEngine.unserved_iff.1 h).resolve_left hspan
    rw [if_neg (by simpa using hspan), if_neg (by simpa using hspan), he]
    rfl

theorem shape_served (p : KeptFonts E) (span : Span) (f : Face) :
    Served p span f (p.shape span f) := by
  by_cases h : E.Unserved span f
  · rw [shape_of_unserved h]
    exact .unserved h
  · rw [ShapingEngine.unserved_iff, not_or] at h
    obtain ⟨hspan, herror⟩ := h
    cases hfont : E.fontOf f with
    | error e => exact absurd ⟨e, hfont⟩ herror
    | ok font =>
      rw [shape, if_neg (by simpa using hspan), hfont]
      dsimp only
      rw [prepare]
      cases hkept : p.fonts.lookup (E.key f) with
      | some prepared => exact .found hspan hfont hkept
      | none =>
        have hserved := Served.prepared hspan hfont hkept
        rwa [ShapingEngine.shape_of_fontOf hspan hfont] at hserved

/-- With nothing kept, the font is prepared for the span alone. -/
theorem shape_empty (span : Span) (f : Face) :
    (({} : KeptFonts E).shape span f).1 = E.shape span f := by
  have hserved := shape_served ({} : KeptFonts E) span f
  generalize ({} : KeptFonts E).shape span f = r at hserved ⊢
  cases hserved with
  | unserved | prepared => rfl
  | found hspan hfont hkept => cases hkept

end KeptFonts

/-! ## What is kept -/

/-- At most 32 fonts are kept, under different keys, each prepared from one of the faces and kept
under the key of that face. -/
structure PreparedFrom (faces : List Face) (p : KeptFonts E) : Prop where
  size_le : p.size ≤ KeptFonts.limit
  nodup : (p.fonts.map Prod.fst).Nodup
  origin : ∀ entry ∈ p.fonts, ∃ f ∈ faces, ∃ font,
    E.fontOf f = .ok font ∧ entry = (E.key f, E.prepare font)

namespace PreparedFrom

theorem empty (faces : List Face) : PreparedFrom faces ({} : KeptFonts E) :=
  ⟨Nat.zero_le _, List.nodup_nil, by simp⟩

/-- One more font is kept, or it alone. -/
theorem keep (h : PreparedFrom faces p) (hf : f ∈ faces) {font : E.Font}
    (hfont : E.fontOf f = .ok font) (hnew : p.fonts.lookup (E.key f) = none) :
    PreparedFrom faces (p.keep (E.key f) (E.prepare font)) := by
  have hentry : ∃ g ∈ faces, ∃ font', E.fontOf g = .ok font' ∧
      (E.key f, E.prepare font) = (E.key g, E.prepare font') := ⟨f, hf, font, hfont, rfl⟩
  rw [KeptFonts.keep]
  split
  · have hone : 1 ≤ KeptFonts.limit := by decide
    exact ⟨hone, List.nodup_singleton _, by simpa using hentry⟩
  · next hroom =>
    have hkey : E.key f ∉ p.fonts.map Prod.fst := by
      intro hmem
      obtain ⟨entry, hentry, hkey⟩ := List.mem_map.1 hmem
      exact bne_iff_ne.1 (List.lookup_eq_none_iff.1 hnew entry hentry) hkey.symm
    refine ⟨?_, List.nodup_cons.2 ⟨hkey, h.nodup⟩, ?_⟩
    · exact Nat.lt_of_not_le hroom
    · exact List.forall_mem_cons.2 ⟨hentry, h.origin⟩

/-- A call keeps to fonts prepared from the faces. -/
theorem shape (h : PreparedFrom faces p) (span : Span) (hf : f ∈ faces) :
    PreparedFrom faces (p.shape span f).2 := by
  have hserved := KeptFonts.shape_served p span f
  generalize p.shape span f = r at hserved ⊢
  cases hserved with
  | unserved | found => exact h
  | prepared hspan hfont hnew => exact h.keep hf hfont hnew

/-- What is kept under the key of a face is what would be prepared from it. -/
theorem eq_prepare (h : PreparedFrom faces p) (hkeys : E.KeysTellBytes faces) (hf : f ∈ faces)
    {font : E.Font} (hfont : E.fontOf f = .ok font) {prepared : E.Prepared}
    (hkept : p.fonts.lookup (E.key f) = some prepared) : prepared = E.prepare font := by
  obtain ⟨before, after, hfonts, -⟩ := List.lookup_eq_some_iff.1 hkept
  obtain ⟨g, hg, font', hfont', hentry⟩ := h.origin (E.key f, prepared) (by simp [hfonts])
  obtain ⟨hkey, rfl⟩ := Prod.mk.inj hentry
  -- the key tells the index itself, and the bytes by assumption
  have hsame : E.fontOf f = E.fontOf g :=
    ShapingEngine.fontOf_congr (hkeys f hf g hg hkey) (congrArg FontKey.index hkey)
  have hfont'' : font = font' := Except.ok.inj (hfont.symm.trans (hsame.trans hfont'))
  rw [hfont'']

/-- The fonts kept do not show in an answer. -/
theorem answer (h : PreparedFrom faces p) (hkeys : E.KeysTellBytes faces) (span : Span)
    (hf : f ∈ faces) : (p.shape span f).1 = E.shape span f := by
  have hserved := KeptFonts.shape_served p span f
  generalize p.shape span f = r at hserved ⊢
  cases hserved with
  | unserved | prepared => rfl
  | found hspan hfont hkept =>
    rw [h.eq_prepare hkeys hf hfont hkept, ShapingEngine.shape_of_fontOf hspan hfont]

end PreparedFrom

namespace KeptFonts

/-! ## Calls that follow one another -/

/-- The answers to some calls, one after the other, and what is kept after each. -/
def history (p : KeptFonts E) :
    List (Span × Face) → List (Except Error (List GlyphId) × KeptFonts E)
  | [] => []
  | (span, f) :: rest => p.shape span f :: history (p.shape span f).2 rest

theorem preparedFrom_history (h : PreparedFrom faces p) {calls : List (Span × Face)}
    (hcalls : ∀ c ∈ calls, c.2 ∈ faces) : ∀ r ∈ p.history calls, PreparedFrom faces r.2 := by
  induction calls generalizing p with
  | nil => simp [history]
  | cons c rest ih =>
    have hnext := h.shape c.1 (hcalls c List.mem_cons_self)
    refine List.forall_mem_cons.2 ⟨hnext, ih hnext fun d hd => ?_⟩
    exact hcalls d (List.mem_cons_of_mem c hd)

theorem answers_history (h : PreparedFrom faces p) (hkeys : E.KeysTellBytes faces)
    {calls : List (Span × Face)} (hcalls : ∀ c ∈ calls, c.2 ∈ faces) :
    (p.history calls).map Prod.fst = calls.map fun c => E.shape c.1 c.2 := by
  induction calls generalizing p with
  | nil => rfl
  | cons c rest ih =>
    have hc := hcalls c List.mem_cons_self
    have hrest := ih (h.shape c.1 hc) fun d hd => hcalls d (List.mem_cons_of_mem c hd)
    rw [history, List.map_cons, List.map_cons, h.answer hkeys c.1 hc, hrest]

/-- **What is kept never shows.** If faces with one key have the same bytes, every call of a
sequence is answered as by a shaper that has kept nothing yet. Never are more than 32 fonts kept,
nor two under one key, and a call that gets to no font leaves them as they are. -/
theorem history_as_new (calls : List (Span × Face))
    (hkeys : E.KeysTellBytes (calls.map Prod.snd)) :
    (history ({} : KeptFonts E) calls).map Prod.fst =
        calls.map (fun c => (({} : KeptFonts E).shape c.1 c.2).1) ∧
      (∀ r ∈ history ({} : KeptFonts E) calls,
        r.2.size ≤ 32 ∧ (r.2.fonts.map Prod.fst).Nodup) ∧
      ∀ (p : KeptFonts E) (span : Span) (f : Face),
        E.Unserved span f → (p.shape span f).2 = p := by
  have hcalls : ∀ c ∈ calls, c.2 ∈ calls.map Prod.snd := fun c hc => List.mem_map_of_mem hc
  have hempty := PreparedFrom.empty (E := E) (calls.map Prod.snd)
  refine ⟨?_, fun r hr => ?_, fun p span f h => ?_⟩
  · rw [answers_history hempty hkeys hcalls]
    simp only [shape_empty]
  · have hr := preparedFrom_history hempty hcalls r hr
    exact ⟨hr.size_le, hr.nodup⟩
  · rw [shape_of_unserved h]

/-- A face whose bytes are in the given buffer. -/
def faceIn (buffer : ℕ) (bytes : Array UInt8) : Face :=
  { (default : Face) with bytes := ⟨bytes⟩, buffer }

/-- A font without tables. -/
def bareFont : Array UInt8 := #[0, 1, 0, 0, 0, 0, 0, 0, 0, 0, 0, 0]

/-- Calls for a bare font in 33 buffers, for the last of these again, for one that is cut short, and
for an empty span. -/
def manyCalls : List (Span × Face) :=
  (List.range 33).map (fun n => (⟨['a'], none⟩, faceIn n bareFont)) ++
    [(⟨['b', 'c'], some .common⟩, faceIn 32 bareFont), (⟨['a'], none⟩, faceIn 33 #[0, 1]),
      (⟨[], none⟩, faceIn 34 bareFont)]

/-- The 33rd font starts the list over; its glyphs are the same with and without it. -/
theorem history_as_new_many :
    ShapingEngine.characterMap.KeysTellBytes (manyCalls.map Prod.snd) ∧
      (history ({} : PreparedFonts) manyCalls).map (·.2.size) =
        List.range' 1 32 ++ [1, 1, 1, 1] ∧
      (history ({} : PreparedFonts) manyCalls).map Prod.fst =
        manyCalls.map fun c => (({} : PreparedFonts).shape c.1 c.2).1 := by
  have hkeys : ShapingEngine.characterMap.KeysTellBytes (manyCalls.map Prod.snd) := by
    decide +kernel
  exact ⟨hkeys, by decide +kernel, (history_as_new manyCalls hkeys).1⟩

end KeptFonts

end Lettering
