import Lettering.Proofs.Font.Plan

/-!
# Answers that stay

Whatever the loader and the matcher say, and however they change their mind, a request that has been
answered once goes on being answered with the same face (`SearchConfig.resolve_stable`). Between the
two answers there may be any other requests. A request looks under two identities, so it is not
enough that no face is ever replaced: a face that is put into the cache later must not stand before
the one that answered. It cannot, because a request puts a face into the cache only after it has
found neither of its identities there.
-/

namespace Lettering

open FontQuery

variable {F : Type} {α β C : Type}

namespace FontQuery

/-! ## Programs that put nothing into the cache -/

/-- The program puts nothing into the cache. -/
def OnlyAsks : FontQuery F α → Prop
  | done _ => True
  | consult _ next => ∀ face, (next face).OnlyAsks
  | load _ next => ∀ face, (next face).OnlyAsks
  | find _ _ _ next => ∀ file, (next file).OnlyAsks
  | remember _ _ _ => False

theorem OnlyAsks.bind {q : FontQuery F α} {f : α → FontQuery F β} (hq : q.OnlyAsks)
    (hf : ∀ a, (f a).OnlyAsks) : (q.bind f).OnlyAsks := by
  induction q with
  | done a => exact hf a
  | consult key next ih => exact fun face => ih face (hq face)
  | load file next ih => exact fun face => ih face (hq face)
  | find family slant weight next ih => exact fun file => ih file (hq file)
  | remember key face next => exact hq.elim

theorem onlyAsks_firstThatLoads (file : C → FontFileRef) (cs : List C) :
    (firstThatLoads file cs : FontQuery F _).OnlyAsks := by
  induction cs with
  | nil => trivial
  | cons c rest ih =>
    intro face
    cases face with
    | none => exact ih
    | some face => trivial

/-- The cache is left as it was, in every world. -/
theorem OnlyAsks.run_cache {σ : Type} {q : FontQuery F α} (hq : q.OnlyAsks)
    (source : FontSource (StateM σ) F) (cache : FaceCache F) (world : σ) :
    (q.run source cache world).1.2 = cache := by
  induction q generalizing world with
  | done a => rfl
  | consult key next ih => exact ih _ (hq _) world
  | load file next ih => exact ih _ (hq _) _
  | find family slant weight next ih => exact ih _ (hq _) _
  | remember key face next => exact hq.elim

/-- A program in sequence, in the world that the program before it left. -/
theorem run_bind_state {σ : Type} {source : FontSource (StateM σ) F} {q : FontQuery F α}
    {cache cache' : FaceCache F} {world later : σ} {a : α}
    (h : q.run source cache world = ((a, cache'), later)) (f : α → FontQuery F β) :
    (q.bind f).run source cache world = (f a).run source cache' later := by
  rw [run_bind]
  exact congrArg (fun out => (f out.1.1).run source out.1.2 out.2) h

end FontQuery

namespace Attempt

theorem onlyAsks_make (a : Attempt) (config : SearchConfig) (dirs : List SearchDir)
    (hint : Option String) : (a.make config dirs hint : FontQuery F _).OnlyAsks := by
  unfold make
  generalize a.candidates dirs hint = candidates
  split
  · exact fun matched => onlyAsks_firstThatLoads _ _
  · exact onlyAsks_firstThatLoads _ _

theorem onlyAsks_firstSuccess (config : SearchConfig) (dirs : List SearchDir)
    (hint : Option String) (n : Nat) (attempts : List Attempt) :
    (firstSuccess config dirs hint n attempts : FontQuery F _).OnlyAsks := by
  induction attempts generalizing n with
  | nil => trivial
  | cons a rest ih =>
    refine (onlyAsks_make a config dirs hint).bind fun found => ?_
    cases found with
    | none => exact ih (n + 1)
    | some found => trivial

end Attempt

namespace SearchConfig

variable (config : SearchConfig)

/-! ## One request -/

/-- A face in the cache is answered without asking anybody. -/
theorem run_resolve_eq_pure {m : Type → Type} [Monad m] [LawfulMonad m] (source : FontSource m F)
    {r : FaceRequest} {cache : FaceCache F} {key : FontIdentity} {face : F}
    (h : remembered? cache r.keys = some (key, face)) :
    (config.resolve r).run source cache =
      pure (.ok { face, identity := key, source := .cache }, cache) := by
  rw [resolve, bind_eq, run_bind, run_firstRemembered, pure_bind, h]
  rfl

section World

variable {σ : Type} (source : FontSource (StateM σ) F)

/-- What a request can do in a world that changes while it is asked: answer from the cache, fail, or
load a face and put it where none was. -/
theorem run_resolve_state_cases (r : FaceRequest) (cache : FaceCache F) (world : σ) :
    (∃ key face, remembered? cache r.keys = some (key, face) ∧
      (config.resolve r).run source cache world =
        ((.ok { face, identity := key, source := .cache }, cache), world)) ∨
    (∃ later, (config.resolve r).run source cache world =
      ((.error (.noFaceAvailable r.family), cache), later)) ∨
    ∃ n c face later, remembered? cache r.keys = none ∧
      (config.resolve r).run source cache world =
        ((.ok { face, identity := r.keyFor c, source := .file n c }, cache.put (r.keyFor c) face),
          later) := by
  cases hmiss : remembered? cache r.keys with
  | some known =>
    refine .inl ⟨known.1, known.2, rfl, ?_⟩
    rw [config.run_resolve_eq_pure source hmiss]
    rfl
  | none =>
    have hasks := Attempt.onlyAsks_firstSuccess (F := F) config (config.dirs r.documentDir)
      r.fontFile 0 (Attempt.all r config.defaultFamily)
    have hkeeps := hasks.run_cache source cache world
    rcases hsearch : (Attempt.firstSuccess config (config.dirs r.documentDir) r.fontFile 0
      (Attempt.all r config.defaultFamily)).run source cache world with ⟨⟨found, cache'⟩, later⟩
    obtain rfl : cache = cache' := by simpa [hsearch] using hkeeps.symm
    have hlookup : (firstRemembered r.keys).run source cache world = ((none, cache), world) := by
      rw [run_firstRemembered, hmiss]
      rfl
    rw [resolve, bind_eq, run_bind_state hlookup, bind_eq, run_bind_state hsearch]
    cases found with
    | none => exact .inr (.inl ⟨later, rfl⟩)
    | some found => exact .inr (.inr ⟨found.1, found.2.1, found.2.2, later, rfl, rfl⟩)

/-! ## Any number of requests -/

/-- A request replaces no face and puts none before the one that another request finds. -/
theorem run_resolve_keeps (q : FaceRequest) (cache : FaceCache F) (world : σ) :
    (∀ key face, cache.get? key = some face →
      ((config.resolve q).run source cache world).1.2.get? key = some face) ∧
    ∀ (r : FaceRequest) known, remembered? cache r.keys = some known →
      remembered? ((config.resolve q).run source cache world).1.2 r.keys = some known := by
  rcases config.run_resolve_state_cases source q cache world with
    ⟨key, face, -, hrun⟩ | ⟨later, hrun⟩ | ⟨n, c, face, later, hmiss, hrun⟩
  · rw [hrun]
    exact ⟨fun _ _ h => h, fun _ _ h => h⟩
  · rw [hrun]
    exact ⟨fun _ _ h => h, fun _ _ h => h⟩
  · rw [hrun]
    exact ⟨fun key f h => FaceCache.get?_put_of_miss hmiss h c face,
      fun r known h => FaceCache.remembered?_put_of_miss h hmiss c face⟩

/-- Requests one after the other go on from the cache and the world that the first one left. -/
theorem run_mapM_resolve_cons (q : FaceRequest) (rest : List FaceRequest) (cache : FaceCache F)
    (world : σ) :
    (((q :: rest).mapM config.resolve).run source cache world).1.2 =
      ((rest.mapM config.resolve).run source ((config.resolve q).run source cache world).1.2
        ((config.resolve q).run source cache world).2).1.2 := by
  rcases hq : (config.resolve q).run source cache world with ⟨⟨answer, cache'⟩, world'⟩
  rcases hrest : (rest.mapM config.resolve).run source cache' world' with
    ⟨⟨answers, cache''⟩, world''⟩
  rw [List.mapM_cons, bind_eq, run_bind_state hq, bind_eq, run_bind_state hrest]
  rfl

/-- Nor do any number of requests. -/
theorem run_mapM_resolve_keeps (requests : List FaceRequest) (cache : FaceCache F) (world : σ) :
    (∀ key face, cache.get? key = some face →
      ((requests.mapM config.resolve).run source cache world).1.2.get? key = some face) ∧
    ∀ (r : FaceRequest) known, remembered? cache r.keys = some known →
      remembered? ((requests.mapM config.resolve).run source cache world).1.2 r.keys =
        some known := by
  induction requests generalizing cache world with
  | nil => exact ⟨fun _ _ h => h, fun _ _ h => h⟩
  | cons q rest ih =>
    rw [run_mapM_resolve_cons]
    obtain ⟨hfaces, hknown⟩ := config.run_resolve_keeps source q cache world
    obtain ⟨hfaces', hknown'⟩ := ih ((config.resolve q).run source cache world).1.2
      ((config.resolve q).run source cache world).2
    exact ⟨fun key face h => hfaces' key face (hfaces key face h),
      fun r known h => hknown' r known (hknown r known h)⟩

/-- The answer to a request is what the cache has for it afterwards. -/
theorem remembered?_run_resolve {r : FaceRequest} {cache : FaceCache F} {world : σ}
    {a : ResolvedFace F} (h : ((config.resolve r).run source cache world).1.1 = .ok a) :
    remembered? ((config.resolve r).run source cache world).1.2 r.keys =
      some (a.identity, a.face) := by
  rcases config.run_resolve_state_cases source r cache world with
    ⟨key, face, hknown, hrun⟩ | ⟨later, hrun⟩ | ⟨n, c, face, later, hmiss, hrun⟩ <;>
    rw [hrun] at h ⊢ <;> cases h
  · exact hknown
  · exact FaceCache.remembered?_put_keyFor hmiss c face

/-- **An answer stays.** Once a request has been answered, any number of others may be made, in a
world that changes as it likes: when the same family, slant and weight are asked again for the same
document, with any hint, the answer is the same face under the same identity, from the cache and
without a word to the loader or the matcher. No face that the cache had is replaced or lost, whether
requests are answered or not. -/
theorem resolve_stable (r : FaceRequest) (others : List FaceRequest) (cache : FaceCache F)
    (world : σ) :
    let later := (((r :: others).mapM config.resolve).run source cache world).1.2
    (∀ a, ((config.resolve r).run source cache world).1.1 = .ok a →
      ∀ hint, ∀ {m : Type → Type} [Monad m] [LawfulMonad m] (anyone : FontSource m F),
        (config.resolve { r with fontFile := hint }).run anyone later =
          pure (.ok { a with source := .cache }, later)) ∧
    ∀ key face, cache.get? key = some face → later.get? key = some face := by
  intro later
  refine ⟨fun a h hint _ _ _ anyone => ?_,
    (config.run_mapM_resolve_keeps source (r :: others) cache world).1⟩
  have hlater : remembered? later r.keys = some (a.identity, a.face) := by
    rw [show later = _ from config.run_mapM_resolve_cons source r others cache world]
    exact (config.run_mapM_resolve_keeps source others _ _).2 r _
      (config.remembered?_run_resolve source h)
  exact config.run_resolve_eq_pure anyone (r := { r with fontFile := hint }) hlater

end World

/-- A world that never gives the same face twice, and a stand-in for Custom that stays. -/
theorem resolve_stable_moody :
    let source : FontSource (StateM Nat) Nat :=
      { load := fun file n => (if file.path = "arial.ttf" then some n else none, n + 1)
        find := fun _ _ _ n => (none, n + 1) }
    let config : SearchConfig := { useMatcher := false, useSystemDirs := false }
    let r : FaceRequest := { family := "Custom", documentDir := some "/doc" }
    let others : List FaceRequest := [{ family := "Custom" }, { family := "Arial" }]
    let later := (((r :: others).mapM config.resolve).run source .empty 0).1.2
    ∃ a, ((config.resolve r).run source .empty 0).1.1 = .ok a ∧
      (config.resolve { r with fontFile := some "arial.ttf" }).run source later 100 =
        ((.ok { a with source := .cache }, later), 100) := by
  intro source config r others later
  have hok : ((config.resolve r).run source .empty 0).1.1.isOk := by decide +kernel
  cases h : ((config.resolve r).run source .empty 0).1.1 with
  | error e => simp [h, Except.isOk, Except.toBool] at hok
  | ok a =>
    refine ⟨a, rfl, ?_⟩
    have hstays := (config.resolve_stable source r others .empty 0).1 a h (some "arial.ttf") source
    exact congrFun hstays 100

end SearchConfig

end Lettering
