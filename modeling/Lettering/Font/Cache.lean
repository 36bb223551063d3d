import Lettering.Font.Identity
import Lettering.Text.Listing

/-!
# Remembered faces

A `FaceCache` keeps one face for each identity, in the order of identities. What a face is does not
matter here.
-/

namespace Lettering

/-- Faces by identity. -/
structure FaceCache (F : Type) where
  entries : List (FontIdentity × F) := []

namespace FaceCache

variable {F : Type}

/-- Nothing is remembered. -/
def empty : FaceCache F := {}

/-- The face of an identity. -/
def get? (c : FaceCache F) (key : FontIdentity) : Option F := c.entries.lookup key

/-- Whether an identity has a face. -/
def contains (c : FaceCache F) (key : FontIdentity) : Bool := (c.get? key).isSome

/-- Put an entry into its place, over an older one of the same identity. -/
def insertEntry (key : FontIdentity) (face : F) :
    List (FontIdentity × F) → List (FontIdentity × F)
  | [] => [(key, face)]
  | (k, f) :: rest =>
    if k = key then (key, face) :: rest
    else if FontIdentity.order key k = .lt then (key, face) :: (k, f) :: rest
    else (k, f) :: insertEntry key face rest

/-- Remember a face, instead of an older one of the same identity. -/
def put (c : FaceCache F) (key : FontIdentity) (face : F) : FaceCache F :=
  ⟨insertEntry key face c.entries⟩

/-- How many faces are remembered. -/
def size (c : FaceCache F) : Nat := c.entries.length

/-- Whether nothing is remembered. -/
def isEmpty (c : FaceCache F) : Bool := c.entries.isEmpty

/-- The identities in order. -/
def keys (c : FaceCache F) : List FontIdentity := c.entries.map (·.1)

/-- How the cache appears in a listing of values. -/
def inspect (c : FaceCache F) : String :=
  Listing.record "FaceCache" [("faces", toString c.size)]

/-! ## What a lookup finds -/

theorem lookup_insertEntry_self (key : FontIdentity) (face : F)
    (entries : List (FontIdentity × F)) :
    (insertEntry key face entries).lookup key = some face := by
  induction entries with
  | nil => simp [insertEntry]
  | cons e rest ih =>
    obtain ⟨k, f⟩ := e
    by_cases h : k = key
    · simp [insertEntry, h]
    · by_cases hlt : FontIdentity.order key k = .lt
      · simp [insertEntry, h, hlt]
      · have hne : (key == k) = false := beq_eq_false_iff_ne.2 (Ne.symm h)
        simp [insertEntry, h, hlt, List.lookup_cons, hne, ih]

theorem lookup_insertEntry_of_ne {key other : FontIdentity} (h : other ≠ key) (face : F)
    (entries : List (FontIdentity × F)) :
    (insertEntry key face entries).lookup other = entries.lookup other := by
  have hne : (other == key) = false := beq_eq_false_iff_ne.2 h
  induction entries with
  | nil => simp [insertEntry, List.lookup_cons, hne]
  | cons e rest ih =>
    obtain ⟨k, f⟩ := e
    by_cases hk : k = key
    · subst hk
      simp [insertEntry, List.lookup_cons, hne]
    · by_cases hlt : FontIdentity.order key k = .lt
      · simp [insertEntry, hk, hlt, List.lookup_cons, hne]
      · simp [insertEntry, hk, hlt, List.lookup_cons, ih]

theorem get?_put_self (c : FaceCache F) (key : FontIdentity) (face : F) :
    (c.put key face).get? key = some face :=
  lookup_insertEntry_self key face c.entries

theorem get?_put_of_ne (c : FaceCache F) {key other : FontIdentity} (h : other ≠ key) (face : F) :
    (c.put key face).get? other = c.get? other :=
  lookup_insertEntry_of_ne h face c.entries

theorem get?_empty (key : FontIdentity) : (empty : FaceCache F).get? key = none := rfl

end FaceCache

end Lettering
