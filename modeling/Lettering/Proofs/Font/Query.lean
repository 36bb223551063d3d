import Lettering.Font.Query

/-!
# Reasoning about programs that look for faces

What a `FontQuery` does, without unfolding its run.

* `FontQuery.Always P` says that a program ends in `P` whatever the cache, the loader and the
  matcher answer; every run then ends in `P` (`always_run`, `always_run_state`).
* `FontQuery.withMatcher` answers the questions to a matcher that never changes its mind, which
  leaves every run as it was (`run_withMatcher`).
* `FontQuery.firstThatLoads` over a list in two parts searches the first part and then the second
  (`firstThatLoads_append`). On files that do not change it finds the first that loads
  (`run_firstThatLoads_fixed`); `FontSource.logged` also keeps the list of loads
  (`run_firstThatLoads_logged`), and the faces of `tagged` files name their file.
-/

namespace Lettering.FontQuery

variable {F α β C : Type}

@[simp] theorem bind_eq (q : FontQuery F α) (f : α → FontQuery F β) : (q >>= f) = q.bind f := rfl

@[simp] theorem done_bind (a : α) (f : α → FontQuery F β) : (done a).bind f = f a := rfl

/-! ## Whatever the answers are -/

/-- Every answer of the cache, the loader and the matcher leads to `P`. -/
def Always (P : α → Prop) : FontQuery F α → Prop
  | done answer => P answer
  | consult _ next => ∀ face, (next face).Always P
  | load _ next => ∀ face, (next face).Always P
  | find _ _ _ next => ∀ file, (next file).Always P
  | remember _ _ next => next.Always P

@[simp] theorem always_done {P : α → Prop} (a : α) :
    (done a : FontQuery F α).Always P ↔ P a := Iff.rfl

theorem always_bind {P : β → Prop} (q : FontQuery F α) (f : α → FontQuery F β) :
    (q.bind f).Always P ↔ q.Always fun a => (f a).Always P := by
  induction q with
  | done => exact Iff.rfl
  | consult key next ih => exact forall_congr' ih
  | load file next ih => exact forall_congr' ih
  | find family slant weight next ih => exact forall_congr' ih
  | remember key face next ih => exact ih

theorem Always.mono {P Q : α → Prop} (h : ∀ a, P a → Q a) {q : FontQuery F α}
    (hq : q.Always P) : q.Always Q := by
  induction q with
  | done a => exact h a hq
  | consult key next ih => exact fun face => ih face (hq face)
  | load file next ih => exact fun face => ih face (hq face)
  | find family slant weight next ih => exact fun file => ih file (hq file)
  | remember key face next ih => exact ih hq

theorem Always.and {P Q : α → Prop} {q : FontQuery F α} (hp : q.Always P) (hq : q.Always Q) :
    q.Always fun a => P a ∧ Q a := by
  induction q with
  | done a => exact ⟨hp, hq⟩
  | consult key next ih => exact fun face => ih face (hp face) (hq face)
  | load file next ih => exact fun face => ih face (hp face) (hq face)
  | find family slant weight next ih => exact fun file => ih file (hp file) (hq file)
  | remember key face next ih => exact ih hp hq

theorem always_of_forall {P : α → Prop} (h : ∀ a, P a) (q : FontQuery F α) : q.Always P := by
  induction q with
  | done a => exact h a
  | consult key next ih => exact ih
  | load file next ih => exact ih
  | find family slant weight next ih => exact ih
  | remember key face next ih => exact ih

/-- A run is one choice of answers. -/
theorem always_run {P : α → Prop} {q : FontQuery F α} (hq : q.Always P) (source : FontSource Id F)
    (cache : FaceCache F) : P (q.run source cache).1 := by
  induction q generalizing cache with
  | done a => exact hq
  | consult key next ih => exact ih _ (hq _) cache
  | load file next ih => exact ih _ (hq _) cache
  | find family slant weight next ih => exact ih _ (hq _) cache
  | remember key face next ih => exact ih hq _

/-- A run in a world that changes while it is asked is one choice of answers, too. -/
theorem always_run_state {σ : Type} {P : α → Prop} {q : FontQuery F α} (hq : q.Always P)
    (source : FontSource (StateM σ) F) (cache : FaceCache F) (world : σ) :
    P (q.run source cache world).1.1 := by
  induction q generalizing cache world with
  | done a => exact hq
  | consult key next ih => exact ih _ (hq _) cache world
  | load file next ih => exact ih _ (hq _) cache _
  | find family slant weight next ih => exact ih _ (hq _) cache _
  | remember key face next ih => exact ih hq _ world

/-! ## A matcher that never changes its mind -/

/-- The program with its questions to the matcher answered by `find`. -/
def withMatcher (find : String → Slant → Weight → Option FontFileRef) :
    FontQuery F α → FontQuery F α
  | done answer => done answer
  | consult key next => consult key fun face => (next face).withMatcher find
  | load file next => load file fun face => (next face).withMatcher find
  | .find family slant weight next => (next (find family slant weight)).withMatcher find
  | remember key face next => remember key face (next.withMatcher find)

@[simp] theorem withMatcher_find (find : String → Slant → Weight → Option FontFileRef)
    (family : String) (slant : Slant) (weight : Weight)
    (next : Option FontFileRef → FontQuery F α) :
    (FontQuery.find family slant weight next).withMatcher find =
      (next (find family slant weight)).withMatcher find := rfl

theorem withMatcher_bind (find : String → Slant → Weight → Option FontFileRef)
    (q : FontQuery F α) (f : α → FontQuery F β) :
    (q.bind f).withMatcher find = (q.withMatcher find).bind fun a => (f a).withMatcher find := by
  induction q with
  | done => rfl
  | consult key next ih => exact congrArg (consult key) (funext ih)
  | load file next ih => exact congrArg (load file) (funext ih)
  | find family slant weight next ih => exact ih _
  | remember key face next ih => exact congrArg (remember key face) ih

theorem run_withMatcher {m : Type → Type} [Monad m] [LawfulMonad m]
    {find : String → Slant → Weight → Option FontFileRef} {source : FontSource m F}
    (h : ∀ family slant weight, source.find family slant weight = pure (find family slant weight))
    (q : FontQuery F α) (cache : FaceCache F) :
    (q.withMatcher find).run source cache = q.run source cache := by
  induction q generalizing cache with
  | done => rfl
  | consult key next ih => exact ih _ cache
  | load file next ih => exact bind_congr fun face => ih face cache
  | find family slant weight next ih => simp only [withMatcher, run, ih, h, pure_bind]
  | remember key face next ih => exact ih _

/-! ## Searching lists -/

theorem withMatcher_firstRemembered (find : String → Slant → Weight → Option FontFileRef)
    (keys : List FontIdentity) :
    (firstRemembered keys : FontQuery F _).withMatcher find = firstRemembered keys := by
  induction keys with
  | nil => rfl
  | cons key rest ih =>
    refine congrArg (consult key) (funext fun face => ?_)
    cases face with
    | none => exact ih
    | some face => rfl

theorem withMatcher_firstThatLoads (find : String → Slant → Weight → Option FontFileRef)
    (file : C → FontFileRef) (cs : List C) :
    (firstThatLoads file cs : FontQuery F _).withMatcher find = firstThatLoads file cs := by
  induction cs with
  | nil => rfl
  | cons c rest ih =>
    refine congrArg (load (file c)) (funext fun face => ?_)
    cases face with
    | none => exact ih
    | some face => rfl

theorem firstThatLoads_append (file : C → FontFileRef) (xs ys : List C) :
    (firstThatLoads file (xs ++ ys) : FontQuery F _) = (firstThatLoads file xs).bind fun
      | some found => done (some found)
      | none => firstThatLoads file ys := by
  induction xs with
  | nil => rfl
  | cons x rest ih =>
    refine congrArg (load (file x)) (funext fun face => ?_)
    cases face with
    | none => exact ih
    | some face => rfl

theorem firstThatLoads_map {B : Type} (file : C → FontFileRef) (g : B → C) (bs : List B) :
    (firstThatLoads file (bs.map g) : FontQuery F _) =
      (firstThatLoads (file ∘ g) bs).bind fun found => done (found.map (Prod.map g id)) := by
  induction bs with
  | nil => rfl
  | cons b rest ih =>
    refine congrArg (load (file (g b))) (funext fun face => ?_)
    cases face with
    | none => exact ih
    | some face => rfl

/-- The first of some keys that a cache has a face for, with that face. -/
def remembered? (cache : FaceCache F) (keys : List FontIdentity) : Option (FontIdentity × F) :=
  keys.findSome? fun key => (cache.get? key).map (key, ·)

theorem run_firstRemembered {m : Type → Type} [Monad m] (source : FontSource m F)
    (keys : List FontIdentity) (cache : FaceCache F) :
    (firstRemembered keys).run source cache = pure (remembered? cache keys, cache) := by
  induction keys with
  | nil => rfl
  | cons key rest ih =>
    simp only [firstRemembered, run, remembered?, List.findSome?_cons]
    cases cache.get? key with
    | none => exact ih
    | some face => rfl

/-! ## Sources for files that do not change -/

/-- The same files with faces that say where they come from. -/
def tagged (files : FontFileRef → Option F) (file : FontFileRef) : Option (FontFileRef × F) :=
  (files file).map (file, ·)

namespace FontSource

/-- A source that never changes and writes down the files it is asked to load. -/
def logged (files : FontFileRef → Option F)
    (find : String → Slant → Weight → Option FontFileRef) :
    FontSource (StateM (List FontFileRef)) F where
  load file := fun log => (files file, log ++ [file])
  find family slant weight := pure (find family slant weight)

end FontSource

section Files

variable (files : FontFileRef → Option F) (find : String → Slant → Weight → Option FontFileRef)

/-- The first of some candidates whose file loads, with its face. -/
def firstLoading (file : C → FontFileRef) (cs : List C) : Option (C × F) :=
  cs.findSome? fun c => (files (file c)).map (c, ·)

theorem firstLoading_cons (file : C → FontFileRef) (c : C) (cs : List C) :
    firstLoading files file (c :: cs) =
      ((files (file c)).map (c, ·)).or (firstLoading files file cs) := by
  rw [firstLoading, List.findSome?_cons]
  cases files (file c) <;> rfl

theorem firstLoading_append (file : C → FontFileRef) (xs ys : List C) :
    firstLoading files file (xs ++ ys) =
      (firstLoading files file xs).or (firstLoading files file ys) :=
  List.findSome?_append

theorem run_firstThatLoads_fixed (file : C → FontFileRef) (cs : List C) (cache : FaceCache F) :
    (firstThatLoads file cs).run (.fixed files find) cache =
      (firstLoading files file cs, cache) := by
  induction cs with
  | nil => rfl
  | cons c rest ih =>
    have hload : (FontSource.fixed files find).load (file c) = files (file c) := rfl
    simp only [firstThatLoads, run, hload, firstLoading_cons]
    cases files (file c) with
    | none => exact ih
    | some face => rfl

/-- The files that are loaded in a search: up to the first that loads, or all of them. -/
def loadsUntil : List FontFileRef → List FontFileRef
  | [] => []
  | file :: rest => file :: if (files file).isSome then [] else loadsUntil rest

/-- Files that do not load are tried, and then the search goes on. -/
theorem loadsUntil_append {before : List FontFileRef} (hbefore : ∀ f ∈ before, files f = none)
    (rest : List FontFileRef) :
    loadsUntil files (before ++ rest) = before ++ loadsUntil files rest := by
  induction before with
  | nil => rfl
  | cons file before ih =>
    have hfile : files file = none := hbefore file (by simp)
    have hrest := ih fun f hf => hbefore f (by simp [hf])
    simp [loadsUntil, hfile, hrest]

/-- The first file that loads is the last that is tried. -/
theorem loadsUntil_append_cons {before after : List FontFileRef} {file : FontFileRef} {face : F}
    (hbefore : ∀ f ∈ before, files f = none) (hface : files file = some face) :
    loadsUntil files (before ++ file :: after) = before ++ [file] := by
  rw [loadsUntil_append files hbefore, loadsUntil, hface]
  rfl

theorem run_firstThatLoads_logged (file : C → FontFileRef) (cs : List C) (cache : FaceCache F)
    (log : List FontFileRef) :
    ((firstThatLoads file cs).run (.logged files find) cache).run log =
      ((firstLoading files file cs, cache), log ++ loadsUntil files (cs.map file)) := by
  induction cs generalizing log with
  | nil => exact congrArg (Prod.mk _) (List.append_nil log).symm
  | cons c rest ih =>
    have hload : ((FontSource.logged files find).load (file c)).run log =
        (files (file c), log ++ [file c]) := rfl
    rw [firstThatLoads, run, StateT.run_bind, hload, firstLoading_cons, List.map_cons, loadsUntil]
    cases files (file c) with
    | none =>
      refine (ih (log ++ [file c])).trans ?_
      simp
    | some face => rfl

end Files

end Lettering.FontQuery
