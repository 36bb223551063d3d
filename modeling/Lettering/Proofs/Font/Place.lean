import Lettering.Proofs.Files.Path
import Lettering.Proofs.Font.Hint

/-!
# Where fonts are found

All names that are tried for a family without a directory part are bare, so each is looked for
directly in the directories of the search. What is found without a hint, and without a matcher that
answers, therefore lies directly in one of them (`SearchConfig.liesIn_of_choice`).
-/

namespace Lettering

open FontQuery

variable {F : Type}

/-! ## Bare names -/

theorem isBare_append_extension {name extension : String} (hname : Path.IsBare name)
    (h : extension ∈ fontExtensions) : Path.IsBare (name ++ extension) := by
  have hextension : '/' ∉ extension.toList ∧ extension.toList.length = 4 := by
    revert extension
    decide
  refine ⟨?_, fun he => ?_, fun he => ?_⟩
  · simp [hname.noSlash, hextension.1]
  · have := congrArg (List.length ∘ String.toList) he
    simp [hextension.2] at this
  · have := congrArg (List.length ∘ String.toList) he
    simp [hextension.2] at this

theorem mem_of_mem_withoutRepeats {α : Type} [BEq α] {x : α} {xs : List α}
    (h : x ∈ withoutRepeats xs) : x ∈ xs := by
  have hfold : ∀ seen : List α,
      x ∈ xs.foldl (fun seen y => if seen.contains y then seen else seen ++ [y]) seen →
        x ∈ seen ∨ x ∈ xs := by
    clear h
    induction xs with
    | nil => exact fun seen h => .inl h
    | cons y rest ih =>
      intro seen h
      rcases ih _ h with hseen | hrest
      · by_cases hy : seen.contains y
        · exact .inl (by simpa only [hy, if_true] using hseen)
        · simp only [hy, Bool.false_eq_true, if_false] at hseen
          rcases List.mem_append.1 hseen with hseen | hnew
          · exact .inl hseen
          · exact .inr (by simp [List.mem_singleton.1 hnew])
      · exact .inr (List.mem_cons_of_mem y hrest)
  simpa using hfold [] h

theorem isBare_of_mem_candidateNames {family name : String} {slant : Slant} {weight : Weight}
    (h : name ∈ candidateNames family slant weight) : Path.IsBare name := by
  have hknown : ∀ f ∈ familyFiles, ∀ bold slanted, ∀ words ∈ ["", " Oblique", " Italic"],
      Path.IsBare (f.stem ++ f.mark.letters bold slanted) ∧
        Path.IsBare (f.longStem ++ ((if bold then " Bold" else "") ++ words)) := by
    decide
  obtain ⟨family', -, hmem⟩ := List.mem_flatMap.1 (mem_of_mem_withoutRepeats h)
  obtain ⟨f, hf, hname⟩ := List.mem_flatMap.1 hmem
  have hf := (List.mem_filter.1 hf).1
  rcases List.mem_cons.1 hname with rfl | hname
  · exact (hknown f hf _ _ "" (by simp)).1
  · obtain rfl := List.mem_singleton.1 hname
    have hwords := fun words hwords => (hknown f hf weight.isBold false words hwords).2
    cases slant with
    | normal => exact hwords "" (by simp)
    | oblique => exact hwords " Oblique" (by simp)
    | italic => exact hwords " Italic" (by simp)

/-- The family has no directory part. It may be blank. -/
def FamilyIsBare (family : String) : Prop :=
  trimBlanks family ≠ "" → Path.IsBare (trimBlanks family)

instance (family : String) : Decidable (FamilyIsBare family) :=
  inferInstanceAs (Decidable (trimBlanks family ≠ "" → Path.IsBare (trimBlanks family)))

/-! ## Candidates -/

/-- A candidate lies directly in the directory that it has its origin from. -/
def Candidate.LiesIn (dirs : List SearchDir) (c : Candidate) : Prop :=
  ∃ dir ∈ dirs, c.origin = dir.origin ∧ Path.Within dir.path c.file.path

theorem Candidate.liesIn_of_mem_named {dirs : List SearchDir} {step : ResolveStep} {name : String}
    {c : Candidate} (hname : Path.IsBare name) (h : c ∈ named dirs step name) : c.LiesIn dirs := by
  rw [named, if_neg (by simp [hname.isAbsolute])] at h
  obtain ⟨dir, hdir, hc⟩ := List.mem_flatMap.1 h
  obtain ⟨n, hn, rfl⟩ := List.mem_map.1 hc
  have hbare : Path.IsBare n := by
    rcases List.mem_cons.1 hn with rfl | hn
    · exact hname
    · split at hn
      · cases hn
      · obtain ⟨extension, hextension, rfl⟩ := List.mem_map.1 hn
        exact isBare_append_extension hname hextension
  exact ⟨dir, hdir, rfl, n.toList, Path.components_join dir.path hbare⟩

theorem Attempt.liesIn_of_mem_candidates {a : Attempt} {dirs : List SearchDir} {c : Candidate}
    (hfamily : FamilyIsBare a.family) (h : c ∈ a.candidates dirs none none) : c.LiesIn dirs := by
  unfold candidates at h
  split at h
  · cases h
  · rename_i hne
    have hname : Path.IsBare a.name := hfamily hne
    simp only [List.mem_append, List.mem_flatMap] at h
    rcases h with (h | ⟨name, hmem, h⟩) | h
    · split at h
      · exact Candidate.liesIn_of_mem_named hname (by simpa using h)
      · simp at h
    · exact Candidate.liesIn_of_mem_named (isBare_of_mem_candidateNames hmem) h
    · exact Candidate.liesIn_of_mem_named hname h

namespace SearchConfig

variable (config : SearchConfig) (find : String → Slant → Weight → Option FontFileRef)

theorem exists_of_mem_numbered {dirs : List SearchDir} {hint : Option String} {n m : Nat}
    {attempts : List Attempt} {c : Candidate}
    (h : (m, c) ∈ config.numbered find dirs hint n attempts) :
    ∃ a ∈ attempts, c ∈ a.candidates dirs hint (config.asked find a) := by
  induction attempts generalizing n with
  | nil => cases h
  | cons a rest ih =>
    rcases List.mem_append.1 h with h | h
    · obtain ⟨d, hd, he⟩ := List.mem_map.1 h
      obtain ⟨-, rfl⟩ := Prod.mk.inj he
      exact ⟨a, by simp, hd⟩
    · obtain ⟨b, hb, hc⟩ := ih h
      exact ⟨b, by simp [hb], hc⟩

/-- What is found without a hint lies directly in a directory of the search. -/
theorem liesIn_of_choice (files : FontFileRef → Option F) {r : FaceRequest}
    (hmatcher : ∀ a, config.asked find a = none) (hfamily : FamilyIsBare r.family)
    (hdefault : FamilyIsBare config.defaultFamily) (hhint : r.fontFile = none)
    {n : Nat} {c : Candidate}
    {face : F} (h : config.choice find files r = some ((n, c), face)) :
    c.LiesIn (config.dirs r.documentDir) := by
  obtain ⟨a, ha, hc⟩ := config.exists_of_mem_numbered find (mem_of_firstLoading files _ h).1
  rw [hmatcher, hhint] at hc
  refine Attempt.liesIn_of_mem_candidates ?_ hc
  rcases Attempt.family_of_mem_all ha with hfam | hfam
  · rw [hfam]
    exact hfamily
  · rw [hfam]
    exact hdefault

/-! ## Directories -/

variable {config}

/-- A directory that is not that of the document is searched for every document. -/
theorem mem_dirs_of_ne_document {dir : SearchDir} {documentDir : Option String}
    (h : dir ∈ config.dirs documentDir) (hdir : dir.origin ≠ .document) (other : Option String) :
    dir ∈ config.dirs other := by
  have hnone : dir ∈ config.dirs none := by
    rw [← config.filter_dirs documentDir]
    exact List.mem_filter.2 ⟨h, by simpa using hdir⟩
  rw [← config.filter_dirs other] at hnone
  exact (List.mem_filter.1 hnone).1

/-- One directory is searched because of the document, if its name is not empty. -/
theorem mem_dirs_document_iff {dir : String} {documentDir : Option String} :
    ⟨dir, .document⟩ ∈ config.dirs documentDir ↔ documentDir.filter (!·.isEmpty) = some dir := by
  simp [dirs, SearchDir.working]

/-- The face that is found among files that are told apart is that of the candidate's file. -/
theorem fst_of_choice {config : SearchConfig}
    {find : String → Slant → Weight → Option FontFileRef} {files : FontFileRef → Option F}
    {r : FaceRequest} {n : Nat} {c : Candidate} {face : FontFileRef × F}
    (h : config.choice find (tagged files) r = some ((n, c), face)) : face.1 = c.file := by
  obtain ⟨f, -, rfl⟩ := Option.map_eq_some_iff.1 (mem_of_firstLoading (tagged files) _ h).2
  rfl

end SearchConfig

end Lettering
