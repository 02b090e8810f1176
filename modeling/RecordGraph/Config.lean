import RecordGraph.Validation

/-!
Contract: the settings shared by planners and repositories.

Owns: `Config` and its reader.
Does not own: what the settings change.
-/

namespace RecordGraph

open RecordGraph.Text

structure Config where
  /-- Whether inserts ask for their rows; by default the dialect decides. -/
  useReturning : Option Bool := none
  /-- The most records that may be nested in each other. -/
  maxPayloadDepth : Nat := 32
  /-- Whether a filter for a path that was not requested is an error. -/
  strictEagerFilters : Bool := false
  /-- The name under which a join row's owner is selected. -/
  correlationLabel : String := "_rg_owner"
deriving DecidableEq, Repr, Inhabited

namespace Config

/-- A letter or underscore of ASCII, then letters, marks, digits, connectors and joiners. -/
def isLabel (text : String) : Bool :=
  match text.toList with
  | [] => false
  | first :: rest => (first.isAlpha || first == '_') && rest.all isLabelPart

def readLabel : Value → Option String
  | .text chars => if isLabel chars then some chars else none
  | _ => none

def readDepth (value : Value) : Option Nat :=
  match Validation.readWhole value with
  | some depth => if 1 ≤ depth then some depth.toNat else none
  | none => none

/-- Reads settings. Unknown ones are ignored. -/
def ofRecord (settings : Record) : Checked Config :=
  let label := Validation.readField settings "correlation_label" "_rg_owner" fun value =>
    Validation.ofOption "correlation_label" (readLabel value)
  let depth := Validation.readField settings "max_payload_depth" 32 fun value =>
    Validation.ofOption "max_payload_depth" (readDepth value)
  let strict := Validation.readField settings "strict_eager_filters" false fun value =>
    Validation.ofOption "strict_eager_filters" (Validation.readFlag value)
  let returning := Validation.readField settings "use_returning" none fun value =>
    if value.isNull then .ok none
    else (Validation.ofOption "use_returning" (Validation.readFlag value)).map some
  match label, depth, strict, returning with
  | .ok correlationLabel, .ok maxPayloadDepth, .ok strictEagerFilters, .ok useReturning =>
      .ok { useReturning, maxPayloadDepth, strictEagerFilters, correlationLabel }
  | _, _, _, _ =>
      .error (Validation.faults label ++ Validation.faults depth ++ Validation.faults strict
        ++ Validation.faults returning)

end Config

end RecordGraph
