import Lettering.Font.Cache
import Mathlib.Data.List.Nodup

/-!
# One entry for each identity

Identities are in a total order, part by part (`FontIdentity.order_eq`). A cache that is filled from
nothing keeps its entries in this order (`FaceCache.Ordered.put`), so it has one entry for each
identity (`FaceCache.Ordered.nodup_keys`), which is the one that a lookup finds
(`FaceCache.mem_keys_iff`).
-/

namespace Lettering

theorem Slant.code_injective : Function.Injective code := fun s t h =>
  Option.some.inj (by rw [← ofCode?_code s, h, ofCode?_code])

theorem Weight.value_injective : Function.Injective value := fun ⟨_⟩ ⟨_⟩ h => congrArg mk h

/-! ## The order of identities -/

namespace FontIdentity

theorem compareScope_eq (a b : Option String) : compareScope a b = compare a b := by
  cases a <;> cases b <;> rfl

/-- Identities are compared part by part. -/
theorem order_eq : order = compareLex (compareOn family) (compareLex (compareOn (·.slant.code))
    (compareLex (compareOn (·.weight.value)) (compareOn scope))) := by
  funext i j
  simp only [order, compareScope_eq, compareLex, compareOn]

instance : Std.TransCmp order := order_eq ▸ inferInstance

instance : Std.LawfulEqCmp order where
  eq_of_compare {i j} h := by
    obtain ⟨hfamily, hslant, hweight, hscope⟩ : i.family = j.family ∧
        i.slant.code = j.slant.code ∧ i.weight.value = j.weight.value ∧ i.scope = j.scope := by
      simpa only [order, compareScope_eq, Ordering.then_eq_eq, Std.compare_eq_iff_eq] using h
    cases i
    cases j
    exact mk.injEq .. ▸
      ⟨hfamily, Slant.code_injective hslant, Weight.value_injective hweight, hscope⟩

end FontIdentity

/-! ## Entries -/

namespace FaceCache

variable {F : Type} {cache : FaceCache F}

theorem get?_put_cases {key k : FontIdentity} {face f : F}
    (h : (cache.put key face).get? k = some f) : (k = key ∧ f = face) ∨ cache.get? k = some f := by
  by_cases hkey : k = key
  · rw [hkey, get?_put_self] at h
    exact .inl ⟨hkey, (Option.some.inj h).symm⟩
  · rw [get?_put_of_ne cache hkey] at h
    exact .inr h

/-- The entries of a cache are in the order of their identities. -/
def Ordered (cache : FaceCache F) : Prop := cache.keys.Pairwise fun i j => i.order j = .lt

theorem ordered_empty : (.empty : FaceCache F).Ordered := .nil

theorem Ordered.nodup_keys (h : cache.Ordered) : cache.keys.Nodup := by
  refine h.imp fun {i j} hlt => ?_
  rintro rfl
  have hself : i.order i = .eq := Std.ReflCmp.compare_self
  rw [hself] at hlt
  cases hlt

theorem mem_keys_iff (cache : FaceCache F) (key : FontIdentity) :
    key ∈ cache.keys ↔ ∃ face, cache.get? key = some face := by
  rw [keys, get?]
  induction cache.entries with
  | nil => simp
  | cons entry rest ih =>
    obtain ⟨k, f⟩ := entry
    rw [List.map_cons, List.mem_cons, List.lookup_cons, ih]
    by_cases hkey : key = k
    · simp [hkey]
    · simp [hkey, beq_false_of_ne hkey]

theorem mem_keys_put (cache : FaceCache F) {key k : FontIdentity} {face : F} :
    k ∈ (cache.put key face).keys ↔ k = key ∨ k ∈ cache.keys := by
  rw [mem_keys_iff, mem_keys_iff]
  by_cases hkey : k = key
  · simp [hkey, get?_put_self]
  · simp [hkey, get?_put_of_ne cache hkey]

/-- A face is put into its place. -/
theorem Ordered.put (h : cache.Ordered) (key : FontIdentity) (face : F) :
    (cache.put key face).Ordered := by
  obtain ⟨entries⟩ := cache
  induction entries with
  | nil => exact List.pairwise_singleton _ _
  | cons entry rest ih =>
    obtain ⟨k, f⟩ := entry
    obtain ⟨hk, hrest⟩ := List.pairwise_cons.1 h
    unfold FaceCache.put insertEntry
    by_cases hkey : k = key
    · rw [if_pos hkey]
      exact List.pairwise_cons.2 ⟨hkey ▸ hk, hrest⟩
    rw [if_neg hkey]
    by_cases hlt : FontIdentity.order key k = .lt
    · rw [if_pos hlt]
      refine List.pairwise_cons.2 ⟨fun other hother => ?_, h⟩
      rcases List.mem_cons.1 hother with rfl | hother
      · exact hlt
      · exact Std.TransCmp.lt_trans hlt (hk other hother)
    · rw [if_neg hlt]
      refine List.pairwise_cons.2 ⟨fun other hother => ?_, ih hrest⟩
      rcases (mem_keys_put ⟨rest⟩).1 hother with rfl | hother
      · -- What is neither before `k` nor `k` itself is behind it.
        cases hcmp : FontIdentity.order other k with
        | lt => exact absurd hcmp hlt
        | eq => exact absurd (Std.LawfulEqCmp.eq_of_compare hcmp).symm hkey
        | gt => exact Std.OrientedCmp.lt_of_gt hcmp
      · exact hk other hother

end FaceCache

end Lettering
