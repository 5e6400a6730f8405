import Observability.Span.Attribute
import Observability.Span.Kind

/-!
# Start options

What a caller asks of a new span, as a list that is folded from left to right: the last kind wins, and
an attribute whose key is there already replaces the value in place.
-/

namespace Observability

/-- One thing asked of a new span. -/
inductive StartOption where
  | kind (kind : SpanKind)
  | attributes (attributes : List Attribute)
  deriving DecidableEq, Repr

/-- What a list of start options comes to. -/
structure SpanSettings where
  kind : SpanKind := .internal
  attributes : List Attribute := []
  deriving DecidableEq, Repr

namespace SpanSettings

/-- The settings after one more option. -/
def apply (settings : SpanSettings) : StartOption → SpanSettings
  | .kind kind => { settings with kind }
  | .attributes list => { settings with attributes := Attribute.putAll list settings.attributes }

/-- The options folded in order, from an internal span without attributes. -/
def ofOptions (options : List StartOption) : SpanSettings := options.foldl apply {}

/-- The value stored under `key`. -/
def valueOf? (settings : SpanSettings) (key : String) : Option AttributeValue :=
  Attribute.find? key settings.attributes

theorem ofOptions_append (a b : List StartOption) :
    ofOptions (a ++ b) = b.foldl apply (ofOptions a) := by
  simp [ofOptions, List.foldl_append]

end SpanSettings

end Observability
