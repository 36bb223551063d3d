import Lettering.Files.Path

/-!
# Files in directories

A name without a slash adds one component to the directory that it is seen from
(`Path.components_join`), however that directory is spelled. A path therefore lies directly in one
directory at the most (`Path.Within.same`).
-/

namespace Lettering.Path

/-! ## Pieces -/

theorem pieces_ne_nil (cs : List Char) : pieces cs ≠ [] := by
  cases cs with
  | nil => simp [pieces]
  | cons c rest =>
    unfold pieces
    split
    · simp
    · cases pieces rest <;> simp [consFirst]

/-- A slash separates the pieces before it from those behind it. -/
theorem pieces_append (xs ys : List Char) : pieces (xs ++ '/' :: ys) = pieces xs ++ pieces ys := by
  induction xs with
  | nil => rfl
  | cons c rest ih =>
    simp only [List.cons_append, pieces, ih]
    split
    · rfl
    · obtain ⟨piece, more, h⟩ := List.exists_cons_of_ne_nil (pieces_ne_nil rest)
      simp [h, consFirst]

theorem pieces_of_notMem {cs : List Char} (h : '/' ∉ cs) : pieces cs = [cs] := by
  induction cs with
  | nil => rfl
  | cons c rest ih =>
    obtain ⟨hc, hrest⟩ := not_or.1 (mt List.mem_cons.2 h)
    rw [pieces, if_neg (Ne.symm hc), ih hrest, consFirst]

/-! ## Components -/

theorem start_append {xs : List Char} (h : xs ≠ []) (ys : List Char) :
    start (xs ++ '/' :: ys) = start xs := by
  obtain ⟨c, rest, rfl⟩ := List.exists_cons_of_ne_nil h
  by_cases hroot : c = '/'
  · subst hroot
    rfl
  by_cases hdot : c = '.'
  · subst hdot
    cases rest with
    | nil => rfl
    | cons d rest => by_cases hd : d = '/' <;> simp [start, hd]
  · simp [start, hroot, hdot]

theorem length_start_le (cs : List Char) : (start cs).length ≤ cs.length := by
  unfold start
  split <;> simp

/-- What a path means goes by the pieces behind a slash one by one. -/
theorem components_append {dir : String} (h : dir ≠ "") (rest : String) :
    components (dir ++ "/" ++ rest) =
      components dir ++ (pieces rest.toList).filter (!isSilent ·) := by
  have hdir : dir.toList ≠ [] := by simpa using h
  have htext : (dir ++ "/" ++ rest).toList = dir.toList ++ '/' :: rest.toList := by simp
  simp only [components, body, htext, start_append hdir,
    List.drop_append_of_le_length (length_start_le _), pieces_append, List.filter_append,
    List.append_assoc]

/-- A name that stands for a file in the directory that it is seen from. -/
structure IsBare (name : String) : Prop where
  noSlash : '/' ∉ name.toList
  notEmpty : name ≠ ""
  notDot : name ≠ "."

instance (name : String) : Decidable (IsBare name) :=
  decidable_of_iff ('/' ∉ name.toList ∧ name ≠ "" ∧ name ≠ ".")
    ⟨fun ⟨h, h', h''⟩ => ⟨h, h', h''⟩, fun h => ⟨h.noSlash, h.notEmpty, h.notDot⟩⟩

theorem IsBare.pieces_filter {name : String} (h : IsBare name) :
    (pieces name.toList).filter (!isSilent ·) = [name.toList] := by
  have hempty : name.toList ≠ [] := by simpa using h.notEmpty
  have hdot : name.toList ≠ ['.'] := fun he => h.notDot (String.toList_injective he)
  rw [pieces_of_notMem h.noSlash]
  simp [isSilent, hempty, hdot]

theorem IsBare.start {name : String} (h : IsBare name) : start name.toList = [] := by
  cases hname : name.toList with
  | nil => rfl
  | cons c rest =>
    obtain ⟨hc, hrest⟩ : '/' ≠ c ∧ '/' ∉ rest := by simpa [hname] using h.noSlash
    by_cases hdot : c = '.'
    · subst hdot
      cases rest with
      | nil => exact absurd (String.toList_injective hname) h.notDot
      | cons d rest =>
        have hd : d ≠ '/' := by
          rintro rfl
          simp at hrest
        simp [Path.start, hd]
    · simp [Path.start, Ne.symm hc, hdot]

theorem IsBare.isAbsolute {name : String} (h : IsBare name) : isAbsolute name = false := by
  refine Bool.eq_false_iff.2 fun habsolute => h.noSlash ?_
  exact List.mem_of_mem_head? (eq_of_beq habsolute)

/-- A bare name adds one component to a directory. -/
theorem components_join (dir : String) {name : String} (h : IsBare name) :
    components (join dir name) = components dir ++ [name.toList] := by
  unfold join
  rw [if_neg (by simp [h.isAbsolute])]
  by_cases hempty : dir = ""
  · have hnone : components "" = [] := by decide
    rw [hempty, hnone, if_pos (by simp)]
    simp [components, body, h.start, h.pieces_filter]
  by_cases hslash : dir.toList.getLast? = some '/'
  · -- the slash that the directory ends in is the one before the name
    obtain ⟨front, hfront⟩ := List.getLast?_eq_some_iff.1 hslash
    have hdir : dir = String.ofList front ++ "/" :=
      String.toList_injective (by simp [hfront])
    rw [if_pos (by simp [hslash])]
    by_cases hroot : front = []
    · subst hroot
      have hcomponents : components dir = [['/']] := by
        rw [hdir]
        decide
      rw [hcomponents, hdir]
      simp [components, body, start, h.pieces_filter]
    · have hfrontne : String.ofList front ≠ "" := by simpa using hroot
      have hcomponents : components dir = components (String.ofList front) := by
        have := components_append hfrontne ""
        simpa [hdir, pieces, isSilent] using this
      rw [hcomponents, hdir, components_append hfrontne, h.pieces_filter]
  · rw [if_neg (by simp [hempty, hslash]), components_append hempty, h.pieces_filter]

/-- The path is that of a file directly in the directory. -/
def Within (dir path : String) : Prop := ∃ name, components path = components dir ++ [name]

/-- A path lies in one directory at the most. -/
theorem Within.same {dir dir' path : String} (h : Within dir path) (h' : Within dir' path) :
    same dir dir' := by
  obtain ⟨name, hname⟩ := h
  obtain ⟨name', hname'⟩ := h'
  have hdirs := (List.append_inj' (hname.symm.trans hname') rfl).1
  simp [Path.same, hdirs]

end Lettering.Path
