/-!
# Tables over ranges of code points

Unicode properties are given by ranges of code points. `RangeTable.ofGroups` sorts the ranges of
every value into one table and `RangeTable.find?` searches it by halving.
-/

namespace Lettering

/-- A range of code points, both ends included, with its value. -/
structure RangeRow (α : Type) where
  first : Nat
  last : Nat
  value : α

/-- Ranges in ascending order. -/
structure RangeTable (α : Type) where
  rows : Array (RangeRow α)

namespace RangeTable

variable {α : Type}

/-- The table of some values with their ranges. -/
def ofGroups (groups : List (α × List (Nat × Nat))) : RangeTable α :=
  let rows := groups.flatMap fun (value, ranges) =>
    ranges.map fun (first, last) => RangeRow.mk first last value
  ⟨(rows.mergeSort fun a b => a.first ≤ b.first).toArray⟩

/-- The value of the range that holds `n`, among the rows from `low` up to before `high`. -/
def search (t : RangeTable α) (n low high : Nat) : Option α :=
  if low < high then
    let middle := (low + high) / 2
    match t.rows[middle]? with
    | none => none
    | some row =>
      if n < row.first then t.search n low middle
      else if row.last < n then t.search n (middle + 1) high
      else some row.value
  else none
termination_by high - low

/-- The value of the range that holds `n`. -/
def find? (t : RangeTable α) (n : Nat) : Option α :=
  t.search n 0 t.rows.size

end RangeTable

end Lettering
