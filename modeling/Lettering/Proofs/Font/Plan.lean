import Lettering.Font.Resolve
import Lettering.Proofs.Font.Cache
import Lettering.Proofs.Font.Query

/-!
# The eight attempts as one list

With a matcher whose answers are known, all the files that a request may try stand in one list,
`SearchConfig.plan`, in which every candidate carries the number of its attempt. Finding a face is
then a look into the cache followed by one search of this list (`SearchConfig.withMatcher_resolve`).

* `SearchConfig.choice` is what the search finds among files that do not change;
* `SearchConfig.run_resolve_cases` says everything that a run on such files can do, and
  `SearchConfig.run_resolve_cache_cases` what it does to the cache.
-/

namespace Lettering

open FontQuery

variable {F : Type}

@[simp] theorem FontIdentity.unscoped_within (i : FontIdentity) (scope : Option String) :
    (i.within scope).unscoped = i.unscoped := rfl

namespace FaceRequest

/-- The identity under which the face of a candidate is remembered. -/
def keyFor (r : FaceRequest) (c : Candidate) : FontIdentity :=
  if c.origin = .document then r.identity.within r.scope else r.identity

@[simp] theorem unscoped_identity (r : FaceRequest) : r.identity.unscoped = r.identity := rfl

@[simp] theorem unscoped_keyFor (r : FaceRequest) (c : Candidate) :
    (r.keyFor c).unscoped = r.identity := by
  unfold keyFor
  split <;> rfl

theorem mem_keys {r : FaceRequest} {key : FontIdentity} :
    key ∈ r.keys ↔ (∃ dir, r.scope = some dir ∧ key = r.identity.within (some dir)) ∨
      key = r.identity := by
  simp only [keys, List.mem_append, List.mem_map, Option.mem_toList, List.mem_singleton, eq_comm]

theorem keyFor_mem_keys (r : FaceRequest) (c : Candidate) : r.keyFor c ∈ r.keys := by
  rw [mem_keys, keyFor]
  split
  · cases hscope : r.scope with
    | none => exact .inr rfl
    | some dir => exact .inl ⟨dir, rfl, rfl⟩
  · exact .inr rfl

end FaceRequest

/-! ## What a cache knows about a request -/

namespace FaceCache

/-- The face that a cache keeps for the document of a request. -/
def own? (cache : FaceCache F) (r : FaceRequest) : Option F :=
  r.scope.bind fun dir => cache.get? (r.identity.within (some dir))

theorem own?_eq_none_iff {cache : FaceCache F} {r : FaceRequest} :
    cache.own? r = none ↔
      ∀ dir, r.scope = some dir → cache.get? (r.identity.within (some dir)) = none := by
  simp [own?]

/-- A shared face is not the document's own. -/
theorem own?_put_identity (cache : FaceCache F) (r : FaceRequest) (face : F) :
    (cache.put r.identity face).own? r = cache.own? r := by
  unfold own?
  congr 1
  funext dir
  refine get?_put_of_ne cache (fun h => ?_) face
  have hscope : some dir = none := congrArg FontIdentity.scope h
  cases hscope

@[simp] theorem own?_empty (r : FaceRequest) : (.empty : FaceCache F).own? r = none :=
  own?_eq_none_iff.2 fun _ _ => rfl

@[simp] theorem remembered?_empty (keys : List FontIdentity) :
    remembered? (.empty : FaceCache F) keys = none := by
  simp [remembered?, get?_empty]

theorem remembered?_keys (cache : FaceCache F) (r : FaceRequest) :
    remembered? cache r.keys =
      ((cache.own? r).map (r.identity.within r.scope, ·)).or
        ((cache.get? r.identity).map (r.identity, ·)) := by
  unfold remembered? FaceRequest.keys own?
  cases r.scope with
  | none => cases h : cache.get? r.identity <;> simp [h]
  | some dir =>
    cases h : cache.get? (r.identity.within (some dir)) with
    | none => cases hs : cache.get? r.identity <;> simp [h, hs]
    | some face => simp [h]

theorem remembered?_keys_eq_none_iff {cache : FaceCache F} {r : FaceRequest} :
    remembered? cache r.keys = none ↔ cache.own? r = none ∧ cache.get? r.identity = none := by
  simp [remembered?_keys]

theorem get?_keyFor_eq_none {cache : FaceCache F} {r : FaceRequest}
    (h : remembered? cache r.keys = none) (c : Candidate) : cache.get? (r.keyFor c) = none := by
  obtain ⟨hown, hshared⟩ := remembered?_keys_eq_none_iff.1 h
  unfold FaceRequest.keyFor
  split
  · cases hscope : r.scope with
    | none => exact hshared
    | some dir => exact own?_eq_none_iff.1 hown dir hscope
  · exact hshared

theorem remembered?_ne_none_iff {cache : FaceCache F} {keys : List FontIdentity} :
    remembered? cache keys ≠ none ↔ ∃ key ∈ keys, cache.get? key ≠ none := by
  simp [remembered?]

/-- What the cache has a face for, the other has one for too. -/
def KnownTo (cache cache' : FaceCache F) : Prop :=
  ∀ keys, remembered? cache keys ≠ none → remembered? cache' keys ≠ none

theorem KnownTo.refl (cache : FaceCache F) : cache.KnownTo cache := fun _ h => h

theorem knownTo_put (cache : FaceCache F) (key : FontIdentity) (face : F) :
    cache.KnownTo (cache.put key face) := by
  intro keys h
  obtain ⟨k, hk, hknown⟩ := remembered?_ne_none_iff.1 h
  refine remembered?_ne_none_iff.2 ⟨k, hk, ?_⟩
  by_cases hkey : k = key
  · subst hkey
    rw [get?_put_self]
    exact Option.some_ne_none face
  · rwa [get?_put_of_ne cache hkey]

/-! ### A face for a request that had none -/

/-- It replaces no other. -/
theorem get?_put_of_miss {cache : FaceCache F} {q : FaceRequest}
    (hmiss : remembered? cache q.keys = none) {key : FontIdentity} {face : F}
    (h : cache.get? key = some face) (c : Candidate) (f : F) :
    (cache.put (q.keyFor c) f).get? key = some face := by
  have hne : key ≠ q.keyFor c := by
    rintro rfl
    simp [get?_keyFor_eq_none hmiss c] at h
  rw [get?_put_of_ne _ hne, h]

/-- It is no document's own face for a request that shares one. -/
theorem own?_put_of_miss {cache : FaceCache F} {r q : FaceRequest}
    (hmiss : remembered? cache q.keys = none) {face : F}
    (hshared : cache.get? r.identity = some face) (c : Candidate) (f : F) :
    (cache.put (q.keyFor c) f).own? r = cache.own? r := by
  unfold own?
  congr 1
  funext dir
  refine get?_put_of_ne cache (fun hkey => ?_) f
  have hid : r.identity = q.identity := by simpa using congrArg FontIdentity.unscoped hkey
  rw [hid, (remembered?_keys_eq_none_iff.1 hmiss).2] at hshared
  cases hshared

/-- It does not come before the face that another request finds. -/
theorem remembered?_put_of_miss {cache : FaceCache F} {r q : FaceRequest}
    {known : FontIdentity × F} (hknown : remembered? cache r.keys = some known)
    (hmiss : remembered? cache q.keys = none) (c : Candidate) (f : F) :
    remembered? (cache.put (q.keyFor c) f) r.keys = some known := by
  rw [remembered?_keys] at hknown ⊢
  cases hown : cache.own? r with
  | some face =>
    obtain ⟨dir, hdir, hface⟩ := Option.bind_eq_some_iff.1 hown
    have hstays : (cache.put (q.keyFor c) f).own? r = some face :=
      Option.bind_eq_some_iff.2 ⟨dir, hdir, get?_put_of_miss hmiss hface c f⟩
    simpa [hown, hstays] using hknown
  | none =>
    obtain ⟨face, hshared, rfl⟩ : ∃ face, cache.get? r.identity = some face ∧
        (r.identity, face) = known := by simpa [hown] using hknown
    simp [own?_put_of_miss hmiss hshared c f, hown, get?_put_of_miss hmiss hshared c f]

/-- It is the one that the request finds from then on. -/
theorem remembered?_put_keyFor {cache : FaceCache F} {r : FaceRequest}
    (hmiss : remembered? cache r.keys = none) (c : Candidate) (f : F) :
    remembered? (cache.put (r.keyFor c) f) r.keys = some (r.keyFor c, f) := by
  have hown := (remembered?_keys_eq_none_iff.1 hmiss).1
  rw [remembered?_keys]
  by_cases hkey : r.keyFor c = r.identity
  · rw [hkey, own?_put_identity, hown, get?_put_self]
    rfl
  · obtain ⟨dir, hscope, hdir⟩ := (FaceRequest.mem_keys.1 (r.keyFor_mem_keys c)).resolve_right hkey
    have howned : (cache.put (r.keyFor c) f).own? r = some f := by
      rw [own?, hscope, Option.bind_some, hdir, get?_put_self]
    rw [howned, hdir, hscope]
    rfl

/-- What is remembered stands under one of the keys. -/
theorem mem_of_remembered? {cache : FaceCache F} {keys : List FontIdentity} {key : FontIdentity}
    {face : F} (h : remembered? cache keys = some (key, face)) :
    key ∈ keys ∧ cache.get? key = some face := by
  obtain ⟨k, hk, hface⟩ := List.exists_of_findSome?_eq_some h
  obtain ⟨f, hf, he⟩ := Option.map_eq_some_iff.1 hface
  obtain ⟨rfl, rfl⟩ := Prod.mk.inj he
  exact ⟨hk, hf⟩

/-- What is remembered for a request stands under one of its two identities. -/
theorem get?_of_remembered? {cache : FaceCache F} {r : FaceRequest} {key : FontIdentity} {face : F}
    (h : remembered? cache r.keys = some (key, face)) :
    cache.get? key = some face ∧ key.unscoped = r.identity := by
  obtain ⟨hkey, hface⟩ := mem_of_remembered? h
  refine ⟨hface, ?_⟩
  rcases FaceRequest.mem_keys.1 hkey with ⟨dir, -, rfl⟩ | rfl <;> rfl

end FaceCache

namespace SearchConfig

variable (config : SearchConfig) (find : String → Slant → Weight → Option FontFileRef)

/-- What the matcher says to an attempt, if it is asked. -/
def asked (a : Attempt) : Option FontFileRef :=
  if a.asksMatcher config then find a.name a.slant a.weight else none

/-- The candidates of some attempts, which are counted from `n`. -/
def numbered (dirs : List SearchDir) (hint : Option String) (n : Nat) :
    List Attempt → List (Nat × Candidate)
  | [] => []
  | a :: rest =>
    (a.candidates dirs hint (config.asked find a)).map (n, ·) ++ numbered dirs hint (n + 1) rest

/-- All candidates for a request in the order in which they are tried. -/
def plan (r : FaceRequest) : List (Nat × Candidate) :=
  config.numbered find (config.dirs r.documentDir) r.fontFile 0 (Attempt.all r config.defaultFamily)

theorem withMatcher_make (a : Attempt) (dirs : List SearchDir) (hint : Option String) :
    (a.make config dirs hint : FontQuery F _).withMatcher find =
      firstThatLoads Candidate.file (a.candidates dirs hint (config.asked find a)) := by
  unfold Attempt.make asked
  by_cases hasks : a.asksMatcher config
  · rw [if_pos hasks, if_pos hasks, withMatcher_find, withMatcher_firstThatLoads]
  · rw [if_neg hasks, if_neg hasks, withMatcher_firstThatLoads]

theorem withMatcher_firstSuccess (dirs : List SearchDir) (hint : Option String) (n : Nat)
    (attempts : List Attempt) :
    (Attempt.firstSuccess config dirs hint n attempts : FontQuery F _).withMatcher find =
      (firstThatLoads (fun c => c.2.file) (config.numbered find dirs hint n attempts)).bind
        fun found => done (found.map fun p => (p.1.1, p.1.2, p.2)) := by
  induction attempts generalizing n with
  | nil => rfl
  | cons a rest ih =>
    simp only [Attempt.firstSuccess, numbered, bind_eq, withMatcher_bind, withMatcher_make,
      firstThatLoads_append, firstThatLoads_map, bind_assoc]
    congr 1
    funext found
    cases found with
    | none => exact ih (n + 1)
    | some found => rfl

/-- How a search ends: nothing was found, or a face to remember. -/
def conclude (r : FaceRequest) :
    Option ((Nat × Candidate) × F) → FontQuery F (Except FontError (ResolvedFace F))
  | none => .done (.error (.noFaceAvailable r.family))
  | some ((n, c), face) =>
    .remember (r.keyFor c) face (.done (.ok { face, identity := r.keyFor c, source := .file n c }))

/-- Finding a face: look into the cache, then search the plan. -/
theorem withMatcher_resolve (r : FaceRequest) :
    (config.resolve r : FontQuery F _).withMatcher find =
      (firstRemembered r.keys).bind fun
        | some (identity, face) => .done (.ok { face, identity, source := .cache })
        | none => (firstThatLoads (fun c => c.2.file) (config.plan find r)).bind (conclude r) := by
  simp only [resolve, bind_eq, withMatcher_bind, withMatcher_firstRemembered]
  congr 1
  funext known
  cases known with
  | some known => rfl
  | none =>
    simp only [withMatcher_bind, withMatcher_firstSuccess, bind_assoc, plan]
    congr 1
    funext found
    cases found with
    | none => rfl
    | some found => rfl

variable (files : FontFileRef → Option F)

/-- The candidate that serves a request when nothing is remembered, with its attempt and its
face. -/
def choice (r : FaceRequest) : Option ((Nat × Candidate) × F) :=
  firstLoading files (fun c => c.2.file) (config.plan find r)

theorem run_resolve_of_remembered {r : FaceRequest} {cache : FaceCache F} {key : FontIdentity}
    {face : F} (h : remembered? cache r.keys = some (key, face)) :
    (config.resolve r).run (.fixed files find) cache =
      (.ok { face, identity := key, source := .cache }, cache) := by
  rw [← run_withMatcher fun _ _ _ => rfl, withMatcher_resolve, run_bind, run_firstRemembered,
    pure_bind, h]
  rfl

theorem run_resolve_of_miss {r : FaceRequest} {cache : FaceCache F}
    (h : remembered? cache r.keys = none) :
    (config.resolve r).run (.fixed files find) cache =
      (conclude r (config.choice find files r)).run (.fixed files find) cache := by
  rw [← run_withMatcher fun _ _ _ => rfl, withMatcher_resolve, run_bind, run_firstRemembered,
    pure_bind, h, run_bind, run_firstThatLoads_fixed, choice]
  generalize firstLoading files (fun c => c.2.file) (config.plan find r) = found
  rfl

/-- The face that is found if nothing is remembered. -/
theorem toOption_run_resolve_of_miss {r : FaceRequest} {cache : FaceCache F}
    (h : remembered? cache r.keys = none) :
    ((config.resolve r).run (.fixed files find) cache).1.toOption.map (·.face) =
      (config.choice find files r).map (·.2) := by
  rw [run_resolve_of_miss config find files h]
  rcases config.choice find files r with _ | ⟨⟨n, c⟩, face⟩
  · rfl
  · rfl

theorem run_resolve_of_choice {r : FaceRequest} {cache : FaceCache F} {n : Nat} {c : Candidate}
    {face : F} (hmiss : remembered? cache r.keys = none)
    (hfound : config.choice find files r = some ((n, c), face)) :
    (config.resolve r).run (.fixed files find) cache =
      (.ok { face, identity := r.keyFor c, source := .file n c },
        cache.put (r.keyFor c) face) := by
  rw [run_resolve_of_miss config find files hmiss, hfound]
  rfl

theorem run_resolve_of_no_choice {r : FaceRequest} {cache : FaceCache F}
    (hmiss : remembered? cache r.keys = none) (hfound : config.choice find files r = none) :
    (config.resolve r).run (.fixed files find) cache =
      (.error (.noFaceAvailable r.family), cache) := by
  rw [run_resolve_of_miss config find files hmiss, hfound]
  rfl

/-- What a run on files that do not change can do: answer from the cache, fail, or load the face
of the chosen candidate and remember it. -/
theorem run_resolve_cases (r : FaceRequest) (cache : FaceCache F) :
    (∃ key face, remembered? cache r.keys = some (key, face) ∧
      (config.resolve r).run (.fixed files find) cache =
        (.ok { face, identity := key, source := .cache }, cache)) ∨
    (remembered? cache r.keys = none ∧ config.choice find files r = none ∧
      (config.resolve r).run (.fixed files find) cache =
        (.error (.noFaceAvailable r.family), cache)) ∨
    ∃ n c face, remembered? cache r.keys = none ∧
      config.choice find files r = some ((n, c), face) ∧
      (config.resolve r).run (.fixed files find) cache =
        (.ok { face, identity := r.keyFor c, source := .file n c },
          cache.put (r.keyFor c) face) := by
  cases hmiss : remembered? cache r.keys with
  | some known =>
    exact .inl ⟨known.1, known.2, rfl, config.run_resolve_of_remembered find files hmiss⟩
  | none =>
    rcases hfound : config.choice find files r with _ | ⟨⟨n, c⟩, face⟩
    · exact .inr (.inl ⟨rfl, rfl, config.run_resolve_of_no_choice find files hmiss hfound⟩)
    · exact .inr (.inr ⟨n, c, face, rfl, rfl, config.run_resolve_of_choice find files hmiss hfound⟩)

/-- What a run leaves in the cache: one new face at the most. -/
theorem run_resolve_cache_cases (r : FaceRequest) (cache : FaceCache F) :
    ((config.resolve r).run (.fixed files find) cache).2 = cache ∨
    ∃ n c face, remembered? cache r.keys = none ∧
      config.choice find files r = some ((n, c), face) ∧
      ((config.resolve r).run (.fixed files find) cache).2 = cache.put (r.keyFor c) face := by
  rcases config.run_resolve_cases find files r cache with
    ⟨key, face, -, hrun⟩ | ⟨-, -, hrun⟩ | ⟨n, c, face, hmiss, hfound, hrun⟩
  · rw [hrun]
    exact .inl rfl
  · rw [hrun]
    exact .inl rfl
  · rw [hrun]
    exact .inr ⟨n, c, face, hmiss, hfound, rfl⟩

end SearchConfig

end Lettering
