import Lettering.Proofs.Font.Cache
import Lettering.Proofs.Font.Query
import Mathlib.Data.Set.Insert
import Mathlib.Logic.Function.Basic

/-!
# Callers that share a cache

Several callers run their programs on one cache, among files that do not change. When it is a
caller's turn, it asks one question: it looks into the cache, loads a file, asks the matcher, or
puts a face into the cache (`Callers.move`). Turns come in any order (`Callers.play`), and a caller
with enough turns in a row runs its program (`Callers.exists_play_eq_run`).

What holds in every order is proved for one program at a time. A program `Fits` a condition on what
may be put into the cache if it keeps the condition itself, and ends as it should whatever the cache
shows it that meets the condition. If all programs fit, they do so after every turn
(`Callers.Sound.move`), and with that after all of them (`Callers.Sound.play`).
-/

namespace Lettering

/-- A face in memory. Two loads of a file give two copies of its face. -/
structure FaceCopy (F : Type) where
  file : FontFileRef
  face : F
  /-- Which load it came from. -/
  number : Nat
  deriving DecidableEq

variable {F α β C ι : Type}

/-- What a load of a file gives. -/
def copyOf (files : FontFileRef → Option F) (number : Nat) (file : FontFileRef) :
    Option (FaceCopy F) :=
  (files file).map fun face => ⟨file, face, number⟩

/-! ## Turns in any order -/

/-- Callers and the cache they share. -/
structure Callers (ι F α : Type) where
  /-- What each caller has yet to do. -/
  programs : ι → FontQuery (FaceCopy F) α
  cache : FaceCache (FaceCopy F) := .empty
  /-- What was put into the cache, the last first. -/
  puts : List (FontIdentity × FaceCopy F) := []

namespace Callers

/-- A face is put into the cache. -/
def put (s : Callers ι F α) (key : FontIdentity) (copy : FaceCopy F) : Callers ι F α :=
  { s with cache := s.cache.put key copy, puts := (key, copy) :: s.puts }

/-- What a caller has found, if it is done. -/
def answer? (s : Callers ι F α) (i : ι) : Option α :=
  match s.programs i with
  | .done answer => some answer
  | _ => none

variable [DecidableEq ι]

/-- A caller goes on with a program. -/
def goOn (s : Callers ι F α) (i : ι) (q : FontQuery (FaceCopy F) α) : Callers ι F α :=
  { s with programs := Function.update s.programs i q }

@[simp] theorem goOn_programs_self (s : Callers ι F α) (i : ι) (q : FontQuery (FaceCopy F) α) :
    (s.goOn i q).programs i = q := Function.update_self ..

theorem goOn_programs_of_ne (s : Callers ι F α) {i j : ι} (h : j ≠ i)
    (q : FontQuery (FaceCopy F) α) : (s.goOn i q).programs j = s.programs j :=
  Function.update_of_ne h ..

theorem goOn_goOn (s : Callers ι F α) (i : ι) (q q' : FontQuery (FaceCopy F) α)
    (cache : FaceCache (FaceCopy F)) (puts : List (FontIdentity × FaceCopy F)) :
    goOn ⟨(s.goOn i q).programs, cache, puts⟩ i q' = goOn ⟨s.programs, cache, puts⟩ i q' :=
  congrArg (mk · cache puts) (Function.update_idem ..)

variable (files : FontFileRef → Option F) (find : String → Slant → Weight → Option FontFileRef)

/-- A caller asks its next question, if it has one. If that is for a file, the number tells its copy
from others. -/
def move (s : Callers ι F α) (turn : ι × Nat) : Callers ι F α :=
  match s.programs turn.1 with
  | .done _ => s
  | .consult key next => s.goOn turn.1 (next (s.cache.get? key))
  | .load file next => s.goOn turn.1 (next (copyOf files turn.2 file))
  | .find family slant weight next => s.goOn turn.1 (next (find family slant weight))
  | .remember key copy next => (s.put key copy).goOn turn.1 next

/-- Callers have their turns one after the other. -/
def play (s : Callers ι F α) (turns : List (ι × Nat)) : Callers ι F α :=
  turns.foldl (move files find) s

theorem play_cons (s : Callers ι F α) (turn : ι × Nat) (rest : List (ι × Nat)) :
    s.play files find (turn :: rest) = (s.move files find turn).play files find rest := rfl

variable {files find} {s : Callers ι F α}

theorem exists_play_of_move {s' : Callers ι F α} {i : ι} {number : Nat}
    {q q' : FontQuery (FaceCopy F) α} {cache : FaceCache (FaceCopy F)}
    (hmove : s.move files find (i, number) = s'.goOn i q) (hs : s'.programs = s.programs)
    (h : ∃ n puts, (s'.goOn i q).play files find (List.replicate n (i, number)) =
      goOn ⟨(s'.goOn i q).programs, cache, puts⟩ i q') :
    ∃ n puts, s.play files find (List.replicate n (i, number)) =
      goOn ⟨s.programs, cache, puts⟩ i q' := by
  obtain ⟨n, puts, hplay⟩ := h
  refine ⟨n + 1, puts, ?_⟩
  rw [List.replicate_succ, play_cons, hmove, hplay, goOn_goOn, hs]

/-- From wherever it stands, a caller runs its program if no other has a turn. -/
theorem exists_play_eq_run {i : ι} {q : FontQuery (FaceCopy F) α} (hq : s.programs i = q)
    (number : Nat) :
    let out := q.run (.fixed (copyOf files number) find) s.cache
    ∃ n puts, s.play files find (List.replicate n (i, number)) =
      goOn ⟨s.programs, out.2, puts⟩ i (.done out.1) := by
  induction q generalizing s with
  | done answer =>
    have hsame : goOn ⟨s.programs, s.cache, s.puts⟩ i (.done answer) = s :=
      congrArg (mk · s.cache s.puts) (by rw [← hq, Function.update_eq_self])
    exact ⟨0, s.puts, hsame.symm⟩
  | consult key next ih =>
    have hmove : s.move files find (i, number) = s.goOn i (next (s.cache.get? key)) := by
      rw [move, hq]
    exact exists_play_of_move hmove rfl (ih _ (goOn_programs_self s i _))
  | load file next ih =>
    have hmove : s.move files find (i, number) = s.goOn i (next (copyOf files number file)) := by
      rw [move, hq]
    exact exists_play_of_move hmove rfl (ih _ (goOn_programs_self s i _))
  | find family slant weight next ih =>
    have hmove : s.move files find (i, number) = s.goOn i (next (find family slant weight)) := by
      rw [move, hq]
    exact exists_play_of_move hmove rfl (ih _ (goOn_programs_self s i _))
  | remember key copy next ih =>
    have hmove : s.move files find (i, number) = (s.put key copy).goOn i next := by
      rw [move, hq]
    exact exists_play_of_move hmove rfl (ih (goOn_programs_self (s.put key copy) i _))

/-! ### What the cache holds -/

/-- The cache is in order, and holds what was put in last under each identity. -/
structure Kept (s : Callers ι F α) : Prop where
  ordered : s.cache.Ordered
  latest : ∀ key, s.cache.get? key = s.puts.lookup key

omit [DecidableEq ι] in
theorem Kept.put (h : s.Kept) (key : FontIdentity) (copy : FaceCopy F) : (s.put key copy).Kept where
  ordered := h.ordered.put key copy
  latest k := by
    rw [Callers.put, List.lookup_cons]
    by_cases hk : k = key
    · rw [hk, FaceCache.get?_put_self, beq_self_eq_true]
    · rw [FaceCache.get?_put_of_ne _ hk, beq_false_of_ne hk, h.latest]

theorem Kept.move (h : s.Kept) (turn : ι × Nat) : (s.move files find turn).Kept := by
  unfold Callers.move
  split
  · exact h
  · exact ⟨h.ordered, h.latest⟩
  · exact ⟨h.ordered, h.latest⟩
  · exact ⟨h.ordered, h.latest⟩
  · exact ⟨(h.put _ _).ordered, (h.put _ _).latest⟩

theorem Kept.play (h : s.Kept) (turns : List (ι × Nat)) : (s.play files find turns).Kept := by
  induction turns generalizing s with
  | nil => exact h
  | cons turn rest ih => exact ih (h.move turn)

end Callers

/-! ## Programs that keep to a condition -/

namespace FontQuery

section

variable (files : FontFileRef → Option F) (find : String → Slant → Weight → Option FontFileRef)
  (good : FontIdentity → FaceCopy F → Prop) (post : Set FontIdentity → α → Prop)

/-- The program puts only good faces into the cache, and if the cache shows it only good faces it
ends in `post`. This may speak of the identities that are known to be in the cache: those under
which the program found a face or put one. -/
inductive Fits : Set FontIdentity → FontQuery (FaceCopy F) α → Prop
  | done {known : Set FontIdentity} {answer : α} (h : post known answer) : Fits known (done answer)
  | consult {known : Set FontIdentity} {key : FontIdentity}
      {next : Option (FaceCopy F) → FontQuery (FaceCopy F) α} (hmiss : Fits known (next none))
      (hhit : ∀ copy, good key copy → Fits (insert key known) (next (some copy))) :
      Fits known (consult key next)
  | load {known : Set FontIdentity} {file : FontFileRef}
      {next : Option (FaceCopy F) → FontQuery (FaceCopy F) α}
      (h : ∀ number, Fits known (next (copyOf files number file))) : Fits known (load file next)
  | find {known : Set FontIdentity} {family : String} {slant : Slant} {weight : Weight}
      {next : Option FontFileRef → FontQuery (FaceCopy F) α}
      (h : Fits known (next (find family slant weight))) : Fits known (.find family slant weight next)
  | remember {known : Set FontIdentity} {key : FontIdentity} {copy : FaceCopy F}
      {next : FontQuery (FaceCopy F) α} (hgood : good key copy) (h : Fits (insert key known) next) :
      Fits known (remember key copy next)

end

namespace Fits

variable {files : FontFileRef → Option F} {find : String → Slant → Weight → Option FontFileRef}
  {good : FontIdentity → FaceCopy F → Prop} {post : Set FontIdentity → β → Prop}
  {known : Set FontIdentity}

theorem bind {q : FontQuery (FaceCopy F) α} {f : α → FontQuery (FaceCopy F) β}
    (h : Fits files find good (fun known a => Fits files find good post known (f a)) known q) :
    Fits files find good post known (q.bind f) := by
  induction h with
  | done h => exact h
  | consult _ _ ihmiss ihhit => exact .consult ihmiss ihhit
  | load _ ih => exact .load ih
  | find _ ih => exact .find ih
  | remember hgood _ ih => exact .remember hgood ih

theorem of_withMatcher {q : FontQuery (FaceCopy F) β}
    (h : Fits files find good post known (q.withMatcher find)) :
    Fits files find good post known q := by
  induction q generalizing known with
  | done answer => exact h
  | consult key next ih =>
    cases h with
    | consult hmiss hhit => exact .consult (ih _ hmiss) fun copy hcopy => ih _ (hhit copy hcopy)
  | load file next ih =>
    cases h with
    | load h => exact .load fun number => ih _ (h number)
  | find family slant weight next ih => exact .find (ih _ h)
  | remember key copy next ih =>
    cases h with
    | remember hgood h => exact .remember hgood (ih h)

theorem firstRemembered {post : Set FontIdentity → Option (FontIdentity × FaceCopy F) → Prop}
    {keys : List FontIdentity} (hmiss : post known none)
    (hhit : ∀ key ∈ keys, ∀ copy, good key copy → post (insert key known) (some (key, copy))) :
    Fits files find good post known (firstRemembered keys) := by
  induction keys with
  | nil => exact .done hmiss
  | cons key rest ih =>
    exact .consult (ih fun k hk => hhit k (List.mem_cons_of_mem key hk))
      fun copy hcopy => .done (hhit key List.mem_cons_self copy hcopy)

theorem firstThatLoads {post : Set FontIdentity → Option (C × FaceCopy F) → Prop}
    {file : C → FontFileRef} {cs : List C}
    (h : ∀ number, post known
      ((firstLoading files file cs).map fun found => (found.1, ⟨file found.1, found.2, number⟩))) :
    Fits files find good post known (firstThatLoads file cs) := by
  induction cs with
  | nil => exact .done (h 0)
  | cons c rest ih =>
    refine .load fun number => ?_
    cases hc : files (file c) with
    | none =>
      rw [copyOf, hc]
      refine ih fun other => ?_
      have hother := h other
      rwa [firstLoading_cons, hc] at hother
    | some face =>
      rw [copyOf, hc]
      have hfound := h number
      rw [firstLoading_cons, hc] at hfound
      exact .done hfound

end Fits

end FontQuery

/-! ## All programs together -/

namespace Callers

variable {files : FontFileRef → Option F} {find : String → Slant → Weight → Option FontFileRef}
  {good : FontIdentity → FaceCopy F → Prop} {post : ι → Set FontIdentity → α → Prop}
  {s : Callers ι F α}

variable (files find good post) in
/-- The cache has only good faces, and every program fits. -/
structure Sound (s : Callers ι F α) : Prop where
  fits : ∀ i, ∃ known, (∀ key ∈ known, key ∈ s.cache.keys) ∧
    (s.programs i).Fits files find good (post i) known
  faces : ∀ key copy, s.cache.get? key = some copy → good key copy

/-- A good face may be put into the cache. -/
theorem Sound.put (h : s.Sound files find good post) {key : FontIdentity} {copy : FaceCopy F}
    (hgood : good key copy) : (s.put key copy).Sound files find good post where
  fits i := by
    obtain ⟨known, hknown, hfits⟩ := h.fits i
    exact ⟨known, fun k hk => (s.cache.mem_keys_put).2 (.inr (hknown k hk)), hfits⟩
  faces k other hk := by
    rcases FaceCache.get?_put_cases hk with ⟨rfl, rfl⟩ | hk
    · exact hgood
    · exact h.faces k other hk

/-- Whatever a caller has found is as it should be. -/
theorem Sound.post_of_answer? (h : s.Sound files find good post) {i : ι} {answer : α}
    (hi : s.answer? i = some answer) :
    ∃ known, (∀ key ∈ known, key ∈ s.cache.keys) ∧ post i known answer := by
  obtain ⟨known, hknown, hfits⟩ := h.fits i
  unfold answer? at hi
  split at hi
  · rename_i hdone
    rw [hdone, Option.some.inj hi] at hfits
    cases hfits with
    | done hpost => exact ⟨known, hknown, hpost⟩
  · cases hi

variable [DecidableEq ι]

theorem Sound.goOn (h : s.Sound files find good post) {i : ι} {q : FontQuery (FaceCopy F) α}
    {known : Set FontIdentity} (hknown : ∀ key ∈ known, key ∈ s.cache.keys)
    (hq : q.Fits files find good (post i) known) : (s.goOn i q).Sound files find good post where
  fits j := by
    by_cases hj : j = i
    · subst hj
      exact ⟨known, hknown, by rwa [goOn_programs_self]⟩
    · rw [goOn_programs_of_ne s hj]
      exact h.fits j
  faces := h.faces

/-- No turn of a caller spoils what the others rely on. -/
theorem Sound.move (h : s.Sound files find good post) (turn : ι × Nat) :
    (s.move files find turn).Sound files find good post := by
  obtain ⟨known, hknown, hfits⟩ := h.fits turn.1
  cases hq : s.programs turn.1 with
  | done answer => simpa only [Callers.move, hq] using h
  | consult key next =>
    rw [hq] at hfits
    simp only [Callers.move, hq]
    cases hfits with
    | consult hmiss hhit =>
      cases hkey : s.cache.get? key with
      | none => exact h.goOn hknown hmiss
      | some copy =>
        refine h.goOn (fun k hk => ?_) (hhit copy (h.faces key copy hkey))
        rcases Set.mem_insert_iff.1 hk with rfl | hk
        · exact (s.cache.mem_keys_iff k).2 ⟨copy, hkey⟩
        · exact hknown k hk
  | load file next =>
    rw [hq] at hfits
    simp only [Callers.move, hq]
    cases hfits with
    | load hnext => exact h.goOn hknown (hnext turn.2)
  | find family slant weight next =>
    rw [hq] at hfits
    simp only [Callers.move, hq]
    cases hfits with
    | find hnext => exact h.goOn hknown hnext
  | remember key copy next =>
    rw [hq] at hfits
    simp only [Callers.move, hq]
    cases hfits with
    | remember hgood hnext =>
      refine (h.put hgood).goOn (fun k hk => s.cache.mem_keys_put.2 ?_) hnext
      exact (Set.mem_insert_iff.1 hk).imp id (hknown k)

theorem Sound.play (h : s.Sound files find good post) (turns : List (ι × Nat)) :
    (s.play files find turns).Sound files find good post := by
  induction turns generalizing s with
  | nil => exact h
  | cons turn rest ih => exact ih (h.move turn)

end Callers

end Lettering
