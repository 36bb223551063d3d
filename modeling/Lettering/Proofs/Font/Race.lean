import Lettering.Proofs.Font.Callers
import Lettering.Proofs.Font.Scope

/-!
# Requests that race

No lock is held from the look into the cache to the face that is put there, so several callers may
miss one face together, load it several times and replace each other's copies. That does no harm if
they ask for the same document and nothing has changed on disk. What serves a request is then a
matter of its family, slant and weight, and so is the identity under which it is remembered
(`SearchConfig.Serves.unique`). Whatever a request finds in the cache serves it, and whatever it
puts there is what others may find (`SearchConfig.fits_resolve`); `SearchConfig.resolve_race` says
what follows for callers that have their turns in any order.
-/

namespace Lettering

open FontQuery

variable {F ι : Type}

theorem FaceRequest.keyFor_congr {q r : FaceRequest} (hid : q.identity = r.identity)
    (hscope : q.scope = r.scope) (c : Candidate) : q.keyFor c = r.keyFor c := by
  rw [keyFor, keyFor, hid, hscope]

namespace SearchConfig

variable (config : SearchConfig) (find : String → Slant → Weight → Option FontFileRef)
  (files : FontFileRef → Option F)

/-- The face, from the file that is chosen for a request, is remembered under the identity that is
meant for it. -/
def Serves (r : FaceRequest) (key : FontIdentity) (copy : FaceCopy F) : Prop :=
  ∃ n c, config.choice find files r = some ((n, c), copy.face) ∧ copy.file = c.file ∧
    key = r.keyFor c

/-- The face serves the request that its identity stands for in a document. -/
def ServesOwn (scope : Option String) (key : FontIdentity) (copy : FaceCopy F) : Prop :=
  config.Serves find files (key.within scope).request key copy

/-- What a request may be answered with. A face is in the cache then, as far as one knows. -/
def Answered (r : FaceRequest) (known : Set FontIdentity) :
    Except FontError (ResolvedFace (FaceCopy F)) → Prop
  | .ok resolved =>
    config.Serves find files r resolved.identity resolved.face ∧ resolved.identity ∈ known
  | .error _ => config.choice find files r = none

variable {config find files}

theorem serves_congr {q r : FaceRequest} (hid : q.identity = r.identity)
    (hscope : q.scope = r.scope) (hhint : q.fontFile = r.fontFile) (key : FontIdentity)
    (copy : FaceCopy F) :
    config.Serves find files q key copy ↔ config.Serves find files r key copy := by
  simp only [Serves, config.choice_congr find files hid hscope hhint,
    FaceRequest.keyFor_congr hid hscope]

theorem servesOwn_iff {r : FaceRequest} (hhint : r.fontFile = none) {key : FontIdentity}
    (hkey : key.unscoped = r.identity) (copy : FaceCopy F) :
    config.ServesOwn find files r.scope key copy ↔ config.Serves find files r key copy :=
  serves_congr (q := (key.within r.scope).request) hkey r.scope_filter hhint.symm key copy

namespace Serves

variable {r : FaceRequest} {key key' : FontIdentity} {copy copy' : FaceCopy F}

theorem unscoped (h : config.Serves find files r key copy) : key.unscoped = r.identity := by
  obtain ⟨n, c, -, -, rfl⟩ := h
  exact r.unscoped_keyFor c

/-- Only one file serves a request, and under only one identity. -/
theorem unique (h : config.Serves find files r key copy)
    (h' : config.Serves find files r key' copy') : copy'.file = copy.file ∧ key' = key := by
  obtain ⟨n, c, hfound, hfile, rfl⟩ := h
  obtain ⟨n', c', hfound', hfile', rfl⟩ := h'
  obtain ⟨⟨-, rfl⟩, -⟩ : (n = n' ∧ c = c') ∧ copy.face = copy'.face := by
    simpa using hfound.symm.trans hfound'
  exact ⟨hfile'.trans hfile.symm, rfl⟩

end Serves

/-- What is chosen for a request may be put into the cache, and answers the request. -/
theorem fits_conclude {r : FaceRequest} (hhint : r.fontFile = none) (known : Set FontIdentity)
    (number : Nat) :
    (conclude r ((config.choice find files r).map fun found =>
        (found.1, FaceCopy.mk found.1.2.file found.2 number))).Fits files find
      (config.ServesOwn find files r.scope) (config.Answered find files r) known := by
  rcases hfound : config.choice find files r with _ | ⟨⟨n, c⟩, face⟩
  · exact .done hfound
  · have hserves : config.Serves find files r (r.keyFor c) ⟨c.file, face, number⟩ :=
      ⟨n, c, hfound, rfl, rfl⟩
    exact .remember ((servesOwn_iff hhint hserves.unscoped _).2 hserves)
      (.done ⟨hserves, Set.mem_insert ..⟩)

/-- A request finds nothing but faces that serve it, and puts nothing else into the cache. -/
theorem fits_resolve {r : FaceRequest} (hhint : r.fontFile = none) :
    (config.resolve r).Fits files find (config.ServesOwn find files r.scope)
      (config.Answered find files r) ∅ := by
  refine .of_withMatcher ?_
  rw [withMatcher_resolve]
  refine .bind (.firstRemembered ?_ fun key hkey copy hgood => ?_)
  · exact .bind (.firstThatLoads fun number => fits_conclude hhint ∅ number)
  · have hid : key.unscoped = r.identity := by
      rcases FaceRequest.mem_keys.1 hkey with ⟨dir, -, rfl⟩ | rfl <;> rfl
    exact .done ⟨(servesOwn_iff hhint hid copy).1 hgood, Set.mem_insert ..⟩

theorem Answered.isOk_eq {r : FaceRequest} {known : Set FontIdentity}
    {answer : Except FontError (ResolvedFace (FaceCopy F))}
    (h : config.Answered find files r known answer) :
    answer.isOk = (config.choice find files r).isSome := by
  cases answer with
  | error e =>
    have hnone : config.choice find files r = none := h
    rw [hnone]
    rfl
  | ok resolved =>
    obtain ⟨⟨n, c, hfound, -, -⟩, -⟩ := h
    rw [hfound]
    rfl

/-- In one document, a family has one identity in each slant and weight. -/
theorem ServesOwn.unique {scope : Option String} {key key' : FontIdentity} {copy copy' : FaceCopy F}
    (h : config.ServesOwn find files scope key copy)
    (h' : config.ServesOwn find files scope key' copy') (hkey : key'.unscoped = key.unscoped) :
    key' = key := by
  have hwithin : key'.within scope = key.within scope := congrArg (·.within scope) hkey
  rw [ServesOwn, hwithin] at h'
  exact (Serves.unique h h').2

/-! ## The race -/

/-- Callers with one request each, before any of them has begun. One who asks again is another
caller, whose turns come later. -/
def racing (config : SearchConfig) (requests : ι → FaceRequest) :
    Callers ι F (Except FontError (ResolvedFace (FaceCopy F))) :=
  { programs := fun i => config.resolve (requests i) }

theorem sound_racing {requests : ι → FaceRequest} {scope : Option String}
    (hscope : ∀ i, (requests i).scope = scope) (hhint : ∀ i, (requests i).fontFile = none) :
    (config.racing requests).Sound files find (config.ServesOwn find files scope)
      fun i => config.Answered find files (requests i) where
  fits i := ⟨∅, fun _ h => h.elim, hscope i ▸ fits_resolve (hhint i)⟩
  faces _ _ h := by cases h

theorem kept_racing (requests : ι → FaceRequest) :
    (config.racing requests : Callers ι F _).Kept := ⟨FaceCache.ordered_empty, fun _ => rfl⟩

/-- **A race does no harm.** Any number of callers ask for faces for one document, and have their
turns in any order, among files and with a matcher that do not change. Whenever two of them are done
with the same family, slant and weight, either both have failed or both have a face, from the same
file and under the same identity, and a face of this file is in the cache under this identity. The
cache never has more than one entry for a family, slant and weight, and under each identity it has
the face that was put there last. -/
theorem resolve_race [DecidableEq ι] (config : SearchConfig)
    (find : String → Slant → Weight → Option FontFileRef) (files : FontFileRef → Option F)
    {requests : ι → FaceRequest} {documentDir : Option String}
    (hdir : ∀ i, (requests i).documentDir = documentDir) (hhint : ∀ i, (requests i).fontFile = none)
    (turns : List (ι × Nat)) :
    let s := (config.racing requests : Callers ι F _).play files find turns
    (∀ i j a b, (requests i).identity = (requests j).identity →
        s.answer? i = some a → s.answer? j = some b →
        a.isOk = b.isOk ∧ ∀ x y, a = .ok x → b = .ok y →
          x.face.file = y.face.file ∧ x.identity = y.identity) ∧
      (∀ i x, s.answer? i = some (.ok x) →
        ∃ copy, s.cache.get? x.identity = some copy ∧ copy.file = x.face.file) ∧
      (s.cache.keys.map FontIdentity.unscoped).Nodup ∧
      ∀ key, s.cache.get? key = s.puts.lookup key := by
  have hscope : ∀ i, (requests i).scope = documentDir.filter (!·.isEmpty) := fun i => by
    rw [FaceRequest.scope, hdir]
  intro s
  have hsound : s.Sound files find _ _ := Callers.Sound.play (sound_racing hscope hhint) turns
  have hkept : s.Kept := (kept_racing requests).play turns
  refine ⟨fun i j a b hid hi hj => ?_, fun i x hi => ?_, ?_, hkept.latest⟩
  · obtain ⟨known, -, ha⟩ := hsound.post_of_answer? hi
    obtain ⟨known', -, hb⟩ := hsound.post_of_answer? hj
    have hscopes := (hscope i).trans (hscope j).symm
    have hhints := (hhint i).trans (hhint j).symm
    refine ⟨?_, ?_⟩
    · rw [ha.isOk_eq, hb.isOk_eq, config.choice_congr find files hid hscopes hhints]
    · rintro x y rfl rfl
      obtain ⟨hfile, hkey⟩ := Serves.unique hb.1 ((serves_congr hid hscopes hhints _ _).1 ha.1)
      exact ⟨hfile, hkey⟩
  · obtain ⟨known, hknown, hserves, hmem⟩ := hsound.post_of_answer? hi
    obtain ⟨copy, hcopy⟩ := (s.cache.mem_keys_iff _).1 (hknown _ hmem)
    have hown := hsound.faces _ copy hcopy
    rw [← hscope i] at hown
    refine ⟨copy, hcopy, ?_⟩
    exact (Serves.unique hserves ((servesOwn_iff (hhint i) hserves.unscoped copy).1 hown)).1
  · refine hkept.ordered.nodup_keys.map_on fun key hkey key' hkey' hid => ?_
    obtain ⟨copy, hcopy⟩ := (s.cache.mem_keys_iff key).1 hkey
    obtain ⟨copy', hcopy'⟩ := (s.cache.mem_keys_iff key').1 hkey'
    exact ServesOwn.unique (hsound.faces key' copy' hcopy') (hsound.faces key copy hcopy) hid

/-- Two callers may miss a face together, load it twice and put it into the cache twice. -/
theorem resolve_race_two_loads :
    let files : FontFileRef → Option Unit := fun _ => some ()
    let find : String → Slant → Weight → Option FontFileRef := fun _ _ _ => some ⟨"a.ttf", 0⟩
    let requests : Bool → FaceRequest := fun _ => { family := "A" }
    let turns : List (Bool × Nat) := [(false, 0), (true, 0), (false, 0), (true, 0), (false, 1),
      (true, 2), (false, 0), (true, 0)]
    let s := (racing {} requests).play files find turns
    let found (number : Nat) : ResolvedFace (FaceCopy Unit) :=
      { face := ⟨⟨"a.ttf", 0⟩, (), number⟩, identity := ⟨"A", .normal, .normal, none⟩
        source := .file 0 ⟨⟨"a.ttf", 0⟩, .matcher, .system⟩ }
    s.answer? false = some (.ok (found 1)) ∧ s.answer? true = some (.ok (found 2)) ∧
      (found 1).face.file = (found 2).face.file ∧ (found 1).identity = (found 2).identity ∧
      s.puts.length = 2 ∧ s.cache.entries = [((found 2).identity, (found 2).face)] ∧
      s.cache.get? (found 2).identity = s.puts.lookup (found 2).identity := by
  intro files find requests turns s found
  have hdir : ∀ i, (requests i).documentDir = none := fun _ => rfl
  have hhint : ∀ i, (requests i).fontFile = none := fun _ => rfl
  obtain ⟨hsame, -, -, hlatest⟩ := resolve_race {} find files hdir hhint turns
  have hx : s.answer? false = some (.ok (found 1)) := by decide +kernel
  have hy : s.answer? true = some (.ok (found 2)) := by decide +kernel
  obtain ⟨-, hagree⟩ := hsame false true _ _ rfl hx hy
  obtain ⟨hfile, hid⟩ := hagree _ _ rfl rfl
  refine ⟨hx, hy, hfile, hid, ?_, ?_, hlatest _⟩
  · decide +kernel
  · decide +kernel

end SearchConfig

end Lettering
