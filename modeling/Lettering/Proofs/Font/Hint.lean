import Lettering.Proofs.Font.Scope

/-!
# The file found earlier

A request may name the file that was found earlier. Attempts whose family names a file try it first,
and then go on as they would without it, so the answer is that file's face or the answer without it
(`SearchConfig.choice_hint_cases`). If neither the family nor the default family names a file, it is
not tried at all (`SearchConfig.choice_of_not_namesFile`).
-/

namespace Lettering

open FontQuery

variable {F : Type}

/-- The same request without the file found earlier. -/
def FaceRequest.withoutHint (r : FaceRequest) : FaceRequest := { r with fontFile := none }

/-- The file found earlier as a candidate. -/
def Candidate.hinted (path : String) : Candidate := ⟨⟨path, 0⟩, .fontFile, .relative⟩

/-- A hint adds one candidate in front, if the family names a file. -/
theorem Attempt.candidates_hint (a : Attempt) (dirs : List SearchDir) (hint : Option String)
    (matched : Option FontFileRef) :
    a.candidates dirs hint matched = a.candidates dirs none matched ∨
      namesFile a.name ∧ ∃ path, hint = some path ∧
        a.candidates dirs hint matched = .hinted path :: a.candidates dirs none matched := by
  cases hint with
  | none => exact .inl rfl
  | some path =>
    unfold candidates
    by_cases hname : a.name = ""
    · rw [if_pos hname, if_pos hname]
      exact .inl rfl
    · rw [if_neg hname, if_neg hname]
      by_cases hfile : namesFile a.name
      · rw [if_pos hfile, if_pos hfile]
        exact .inr ⟨hfile, path, rfl, rfl⟩
      · rw [if_neg hfile, if_neg hfile]
        exact .inl rfl

theorem Attempt.family_of_mem_all {r : FaceRequest} {defaultFamily : String} {a : Attempt}
    (h : a ∈ all r defaultFamily) : a.family = r.family ∨ a.family = defaultFamily := by
  simp only [all, List.mem_flatMap, List.mem_cons, List.not_mem_nil, or_false] at h
  obtain ⟨family, hfamily, h⟩ := h
  rcases h with rfl | rfl | rfl | rfl <;> exact hfamily

namespace SearchConfig

variable (config : SearchConfig) (find : String → Slant → Weight → Option FontFileRef)
  (files : FontFileRef → Option F)

theorem firstLoading_numbered_hint (dirs : List SearchDir) (hint : Option String) (n : Nat)
    (attempts : List Attempt) :
    firstLoading files (fun c => c.2.file) (config.numbered find dirs hint n attempts) =
        firstLoading files (fun c => c.2.file) (config.numbered find dirs none n attempts) ∨
      ∃ path m face, hint = some path ∧
        firstLoading files (fun c => c.2.file) (config.numbered find dirs hint n attempts) =
          some ((m, .hinted path), face) := by
  induction attempts generalizing n with
  | nil => exact .inl rfl
  | cons a rest ih =>
    simp only [numbered, firstLoading_append]
    rcases a.candidates_hint dirs hint (config.asked find a) with h | ⟨-, path, hpath, h⟩
    · rw [h]
      cases firstLoading files (fun c : Nat × Candidate => c.2.file)
          ((a.candidates dirs none (config.asked find a)).map (n, ·)) with
      | some found => exact .inl rfl
      | none => exact ih (n + 1)
    · rw [h, List.map_cons, firstLoading_cons]
      cases files (Candidate.hinted path).file with
      | some face => exact .inr ⟨path, n, face, hpath, rfl⟩
      | none =>
        rw [Option.map_none, Option.none_or]
        cases firstLoading files (fun c : Nat × Candidate => c.2.file)
            ((a.candidates dirs none (config.asked find a)).map (n, ·)) with
        | some found => exact .inl rfl
        | none => exact ih (n + 1)

/-- The answer to a request that names the file found earlier is the answer without it, or that
file. -/
theorem choice_hint_cases (r : FaceRequest) :
    config.choice find files r = config.choice find files r.withoutHint ∨
      ∃ path m face, r.fontFile = some path ∧
        config.choice find files r = some ((m, .hinted path), face) :=
  firstLoading_numbered_hint config find files _ _ 0 _

/-- What is found next to the document is found without the hint. -/
theorem choice_withoutHint {r : FaceRequest} {n : Nat} {c : Candidate} {face : F}
    (h : config.choice find files r = some ((n, c), face)) (hc : c.origin = .document) :
    config.choice find files r.withoutHint = some ((n, c), face) := by
  rcases config.choice_hint_cases find files r with hsame | ⟨path, m, f, -, hhint⟩
  · exact hsame ▸ h
  · rw [h] at hhint
    obtain ⟨⟨-, rfl⟩, -⟩ : (n = m ∧ c = .hinted path) ∧ face = f := by simpa using hhint
    cases hc

theorem choice_withoutHint_of_none {r : FaceRequest} (h : config.choice find files r = none) :
    config.choice find files r.withoutHint = none := by
  rcases config.choice_hint_cases find files r with hsame | ⟨path, m, f, -, hhint⟩
  · exact hsame ▸ h
  · rw [h] at hhint
    cases hhint

theorem numbered_of_not_namesFile (dirs : List SearchDir) (hint : Option String) (n : Nat)
    {attempts : List Attempt} (hplain : ∀ a ∈ attempts, namesFile a.name = false) :
    config.numbered find dirs hint n attempts = config.numbered find dirs none n attempts := by
  induction attempts generalizing n with
  | nil => rfl
  | cons a rest ih =>
    have hcandidates : a.candidates dirs hint (config.asked find a) =
        a.candidates dirs none (config.asked find a) := by
      rcases a.candidates_hint dirs hint (config.asked find a) with h | ⟨hfile, -⟩
      · exact h
      · rw [hplain a (by simp)] at hfile
        cases hfile
    rw [numbered, numbered, hcandidates, ih (n + 1) fun b hb => hplain b (by simp [hb])]

/-- Families that are no files do not look at the file found earlier. -/
theorem choice_of_not_namesFile {r : FaceRequest}
    (hfamily : namesFile (trimBlanks r.family) = false)
    (hdefault : namesFile (trimBlanks config.defaultFamily) = false) :
    config.choice find files r = config.choice find files r.withoutHint := by
  have hplain : ∀ a ∈ Attempt.all r config.defaultFamily, namesFile a.name = false := by
    intro a ha
    unfold Attempt.name
    rcases Attempt.family_of_mem_all ha with h | h
    · rw [h]
      exact hfamily
    · rw [h]
      exact hdefault
  have hplan : config.plan find r = config.plan find r.withoutHint :=
    config.numbered_of_not_namesFile find _ _ 0 hplain
  rw [choice, choice, hplan]

/-! ## What is kept for documents -/

/-- Every face that is kept for a document is what is found for it without a hint. -/
def OwnCoherent (cache : FaceCache F) : Prop :=
  ∀ key face, cache.get? key = some face → key.scope ≠ none → ∃ n c,
    config.choice find files key.request = some ((n, c), face)

variable {config find files}

theorem ownCoherent_empty : config.OwnCoherent find files .empty := by
  intro key face h
  cases h

theorem OwnCoherent.own {cache : FaceCache F} (hcache : config.OwnCoherent find files cache)
    {r : FaceRequest} (hr : r.fontFile = none) {face : F} (h : cache.own? r = some face) :
    ∃ n c, config.choice find files r = some ((n, c), face) := by
  obtain ⟨dir, hdir, hface⟩ := Option.bind_eq_some_iff.1 h
  rw [← hdir] at hface
  have hscope : (r.identity.within r.scope).scope ≠ none := by simp [FontIdentity.within, hdir]
  rw [← choice_request_within hr]
  exact hcache _ face hface hscope

/-- Hints or not, requests keep it so. -/
theorem OwnCoherent.put {cache : FaceCache F} (hcache : config.OwnCoherent find files cache)
    {r : FaceRequest} {n : Nat} {c : Candidate} {face : F}
    (h : config.choice find files r = some ((n, c), face)) :
    config.OwnCoherent find files (cache.put (r.keyFor c) face) := by
  intro key f hkey hscope
  rcases FaceCache.get?_put_cases hkey with ⟨rfl, rfl⟩ | hold
  · have horigin := (scope_keyFor_ne_none h).2 hscope
    exact ⟨n, c, choice_request_keyFor (r := r.withoutHint) rfl
      (config.choice_withoutHint find files h horigin)⟩
  · exact hcache key f hold hscope

end SearchConfig

end Lettering
