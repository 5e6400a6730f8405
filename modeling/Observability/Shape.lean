import Observability.Decimal.Format
import Observability.Text.Quoted

/-!
# What a reader met

A `Shape` names a value that does not fit, as decoding messages show it: a scalar with its content,
anything larger by its kind alone.
-/

namespace Observability

/-- A value as a decoding message names it. -/
inductive Shape where
  | null
  | boolean (value : Bool)
  | integer (value : Int)
  | double (value : Binary64)
  | string (value : String)
  | sequence
  | map
  deriving DecidableEq, Repr

/-- The name of the value, its doubles written in `format`. -/
def Shape.text (format : Decimal.Format) : Shape → String
  | .null => "null"
  | .boolean b => s!"boolean `{b}`"
  | .integer n => s!"integer `{n}`"
  | .double x => s!"floating point `{format.render x}`"
  | .string s => s!"string {Text.quoted s}"
  | .sequence => "sequence"
  | .map => "map"

end Observability
