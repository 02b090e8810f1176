import RecordGraph.Text.UnicodeForm
import RecordGraph.Value.Json

/-!
Contract: the bodies of requests.

Owns: `Body` and its reader.
Does not own: what an endpoint makes of a body; `RecordGraph.Http.Route` has it.
-/

namespace RecordGraph.Http

open RecordGraph.Text

inductive Body where
  | absent
  | document (value : Value)
  /-- The text is no document. -/
  | malformed
  /-- The bytes are no text, or the text has a number that is too long. -/
  | unreadable
deriving Repr, Inhabited

namespace Body

def ofText (text : String) : Body :=
  if text.isEmpty then .absent
  else
    match reread text with
    | none => .unreadable
    | some text =>
        match Value.readJson text with
        | .ok value => .document value
        | .error .malformed => .malformed
        | .error .longInteger => .unreadable

end Body

end RecordGraph.Http
