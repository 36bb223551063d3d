import Lettering.Text.Script
import Lettering.Text.Script.Data
import Lettering.Text.RangeTable

/-!
# The script of a character

`scriptOf` looks a character up in the script ranges of the Unicode character database.
-/

namespace Lettering

/-- All script ranges in one table. -/
def scriptTable : RangeTable ScriptTag :=
  .ofGroups (ScriptData.all.map fun (code, ranges) => (ScriptTag.ofText code, ranges))

/-- The script of a character. -/
def scriptOf (c : Char) : ScriptTag :=
  (scriptTable.find? c.toNat).getD .unknown

end Lettering
