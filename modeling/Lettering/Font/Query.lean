import Lettering.Font.Cache

/-!
# Programs that look for faces

Looking for a face takes three kinds of outside help: the cache of remembered faces, whoever loads
faces from files, and a matcher that knows the installed families. A `FontQuery` is a program that
says which help it wants next and how it goes on from the answer, so that the order of its steps is
part of its meaning.

* `FontQuery.run` runs a program on a cache with a `FontSource`, whose answers may depend on what
  happened before; programs in sequence run one after the other (`FontQuery.run_bind`);
* `FontQuery.firstThatLoads` loads one file after another until one succeeds.
-/

namespace Lettering

/-- A face in a file, as a matcher names it. -/
structure FontFileRef where
  path : String
  /-- The place of the face in a collection. -/
  index : Nat := 0
  deriving DecidableEq, Repr, Inhabited

/-- A program over faces of type `F` that answers with an `α`. -/
inductive FontQuery (F α : Type) where
  | done (answer : α)
  /-- Ask the cache for a face. -/
  | consult (key : FontIdentity) (next : Option F → FontQuery F α)
  /-- Load a face from a file. -/
  | load (file : FontFileRef) (next : Option F → FontQuery F α)
  /-- Ask the matcher for the file of a family. -/
  | find (family : String) (slant : Slant) (weight : Weight)
      (next : Option FontFileRef → FontQuery F α)
  /-- Put a face into the cache. -/
  | remember (key : FontIdentity) (face : F) (next : FontQuery F α)

namespace FontQuery

variable {F α β : Type}

/-- Go on with the answer of a program. -/
def bind (q : FontQuery F α) (f : α → FontQuery F β) : FontQuery F β :=
  match q with
  | done answer => f answer
  | consult key next => consult key fun face => (next face).bind f
  | load file next => load file fun face => (next face).bind f
  | find family slant weight next => find family slant weight fun file => (next file).bind f
  | remember key face next => remember key face (next.bind f)

instance : Monad (FontQuery F) where
  pure := done
  bind := bind

theorem bind_done (q : FontQuery F α) : q.bind done = q := by
  induction q with
  | done => rfl
  | consult key next ih => exact congrArg (consult key) (funext ih)
  | load file next ih => exact congrArg (load file) (funext ih)
  | find family slant weight next ih => exact congrArg (find family slant weight) (funext ih)
  | remember key face next ih => exact congrArg (remember key face) ih

theorem bind_assoc {γ : Type} (q : FontQuery F α) (f : α → FontQuery F β)
    (g : β → FontQuery F γ) : (q.bind f).bind g = q.bind fun a => (f a).bind g := by
  induction q with
  | done => rfl
  | consult key next ih => exact congrArg (consult key) (funext ih)
  | load file next ih => exact congrArg (load file) (funext ih)
  | find family slant weight next ih => exact congrArg (find family slant weight) (funext ih)
  | remember key face next ih => exact congrArg (remember key face) ih

instance : LawfulMonad (FontQuery F) :=
  LawfulMonad.mk' (FontQuery F) bind_done (fun _ _ => rfl) bind_assoc

/-! ## Running a program -/

/-- Whoever loads and matches, with the effects of `m`. -/
structure FontSource (m : Type → Type) (F : Type) where
  load : FontFileRef → m (Option F)
  find : String → Slant → Weight → m (Option FontFileRef)

namespace FontSource

/-- A source whose answers never change. -/
def fixed (files : FontFileRef → Option F)
    (find : String → Slant → Weight → Option FontFileRef) : FontSource Id F where
  load := files
  find := find

end FontSource

/-- Run a program: its answer, and the cache afterwards. -/
def run {m : Type → Type} [Monad m] {α : Type} (source : FontSource m F) :
    FontQuery F α → FaceCache F → m (α × FaceCache F)
  | done answer, cache => pure (answer, cache)
  | consult key next, cache => (next (cache.get? key)).run source cache
  | load file next, cache => do (next (← source.load file)).run source cache
  | find family slant weight next, cache => do
    (next (← source.find family slant weight)).run source cache
  | remember key face next, cache => next.run source (cache.put key face)

/-- A program that goes on with the answer of another runs after it, on the cache it left. -/
theorem run_bind {m : Type → Type} [Monad m] [LawfulMonad m] (source : FontSource m F)
    (q : FontQuery F α) (f : α → FontQuery F β) (cache : FaceCache F) :
    (q.bind f).run source cache =
      q.run source cache >>= fun answer => (f answer.1).run source answer.2 := by
  induction q generalizing cache with
  | done => simp [bind, run]
  | consult key next ih => exact ih _ cache
  | load file next ih => simp [bind, run, ih]
  | find family slant weight next ih => simp [bind, run, ih]
  | remember key face next ih => exact ih _

/-! ## Common programs -/

/-- The first of some keys that has a face, with that face. -/
def firstRemembered : List FontIdentity → FontQuery F (Option (FontIdentity × F))
  | [] => done none
  | key :: rest => consult key fun
    | some face => done (some (key, face))
    | none => firstRemembered rest

/-- The first of some files that loads, with its face. -/
def firstThatLoads {C : Type} (file : C → FontFileRef) : List C → FontQuery F (Option (C × F))
  | [] => done none
  | c :: rest => load (file c) fun
    | some face => done (some (c, face))
    | none => firstThatLoads file rest

end FontQuery

end Lettering
