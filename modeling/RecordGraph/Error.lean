import RecordGraph.Schema.Table
import RecordGraph.Text.Quoted

/-!
Contract: every way an operation can fail, its class and its message.

Owns: `Error`, `ErrorKind` and the wording of messages.
Does not own: the response statuses of routes.
-/

namespace RecordGraph

open RecordGraph.Text

/-- The classes of failures. Failures outside the library's own taxonomy are `foreign`. -/
inductive ErrorKind where
  | general
  | schema
  | syntaxError
  | notAllowed
  | unknownRelation
  | payload
  | cyclicPayload
  | statement
  | uniqueViolation
  | returnContract
  | cancelled
  | unitOfWork
  | sessionManagement
  | foreign
deriving DecidableEq, Repr, Inhabited

/-- The part a table was expected to play. -/
inductive TableRole where
  | entity
  | targetEntity
  | join
  | schema
deriving DecidableEq, Repr, Inhabited

def TableRole.word : TableRole → String
  | .entity => "entity"
  | .targetEntity => "target entity"
  | .join => "join"
  | .schema => "schema"

/-- Failures that no operation raises on its own behalf: a collaborator refused its input, or a
caller gave up. -/
inductive Foreign where
  /-- A list or an object was used as a lookup key. -/
  | unhashableKey
  /-- A value that is no collection was walked through. -/
  | notIterable
  /-- A row or a column lacks the named entry. -/
  | missingEntry (name : String)
  /-- A place lies outside of what it counts. -/
  | missingPosition
  | missingOperation
  /-- An update of no column was asked for. -/
  | emptyUpdate
  /-- An integer exceeds 64 bits. -/
  | integerOverflow
  /-- A number or a value could not be converted. -/
  | badConversion
  /-- A column type does not tell what it holds. -/
  | sealedType
  /-- A boolean column was given something else. -/
  | invalidBinding
  /-- The comparison does not accept its operand. -/
  | invalidComparison
  /-- A statement cannot be put into words. -/
  | unspeakable
  /-- A column of a result has the name of another one. -/
  | ambiguousColumn
  /-- A text holds half of a surrogate pair. -/
  | unencodableText
  /-- A foreign key names a table that does not exist. -/
  | danglingTable
  /-- A foreign key names a column that does not exist. -/
  | danglingColumn
  /-- The caller abandoned its unit of work. -/
  | aborted
  /-- The task was cancelled from outside, which nothing may hold up. -/
  | interrupted
  /-- A collaborator failed for reasons of its own. -/
  | failure (message : String)
deriving DecidableEq, Repr, Inhabited

inductive Error where
  | general (message : String)
  | unknownEntity (name : String)
  | unknownTable (role : TableRole) (name : String)
  | registryFrozen (entity : String)
  | registryOpen
  | alreadyRegistered (entity : String)
  | invalidRelationName (entity name : String)
  | relationShadowsColumn (entity name : String)
  | malformedColumnRef (text : String)
  | misplacedJoinColumn (place : String) (ref : ColumnRef) (expected : String)
  | missingJoinColumn (place : String) (ref : ColumnRef)
  | missingThrough (place : String)
  | splitThrough (place : String) (source target : ColumnRef)
  | unreferenced (place : String) (referencing referenced : ColumnRef)
  | primaryKeyCount (entity : String) (count : Nat)
  | unregisteredTarget (place : String) (target : String)
  | unsupportedOperator (operator : String)
  | unselectedColumn (name : String)
  /-- A value that is no text was to name a column. -/
  | unselectedValue (shown : String)
  | schema (message : String)
  | syntaxError (expression : String) (position : Nat) (reason : String)
  | notAllowed (path : String)
  | unmatchedFilter (path : String)
  | unknownRelation (entity relation : String)
  | expectedObject (entity path kind : String)
  | expectedSingle (path : String)
  | expectedObjects (path : String)
  | unknownColumns (entity : String) (names : List String)
  | payload (message : String)
  | reappears (path : String)
  | tooDeep (limit : Nat) (path : String)
  | nothingToInsert (table : String)
  | unknownInsertColumns (table : String) (names : List String)
  | unevenRows
  | missingConflictColumns (table : String) (names : List String)
  | unsupportedConflict (dialect : String)
  | statement (message : String)
  | uniqueViolation (message : String)
  | missingRow
  | suppressedParent (table : String)
  | missingSource (table column : String) (operation : Nat)
  | returnContract (message : String)
  | cancelledBefore
  | cancelledInFlight
  | cancelled (message : String)
  | noUnitOfWork
  | sessionMissing
  | commitFailed (cause : String)
  | rollbackFailed (cause : String)
  | unitOfWork (message : String)
  | twoSessionSources
  | noSessionSource
  | startFailed (cause : String)
  | closeFailed (cause : String)
  | sessionManagement (message : String)
  | foreign (cause : Foreign)
deriving DecidableEq, Repr, Inhabited

namespace Error

def kind : Error → ErrorKind
  | .general _ => .general
  | .unknownEntity _ | .unknownTable .. | .registryFrozen _ | .registryOpen
  | .alreadyRegistered _ | .invalidRelationName .. | .relationShadowsColumn ..
  | .malformedColumnRef _ | .misplacedJoinColumn .. | .missingJoinColumn ..
  | .missingThrough _ | .splitThrough .. | .unreferenced .. | .primaryKeyCount ..
  | .unregisteredTarget .. | .unsupportedOperator _ | .unselectedColumn _
  | .unselectedValue _ | .schema _ => .schema
  | .syntaxError .. => .syntaxError
  | .notAllowed _ | .unmatchedFilter _ => .notAllowed
  | .unknownRelation .. => .unknownRelation
  | .expectedObject .. | .expectedSingle _ | .expectedObjects _ | .unknownColumns ..
  | .payload _ => .payload
  | .reappears _ | .tooDeep .. => .cyclicPayload
  | .nothingToInsert _ | .unknownInsertColumns .. | .unevenRows | .missingConflictColumns ..
  | .unsupportedConflict _ | .statement _ => .statement
  | .uniqueViolation _ => .uniqueViolation
  | .missingRow | .suppressedParent _ | .missingSource .. | .returnContract _ => .returnContract
  | .cancelledBefore | .cancelledInFlight | .cancelled _ => .cancelled
  | .noUnitOfWork | .sessionMissing | .commitFailed _ | .rollbackFailed _
  | .unitOfWork _ => .unitOfWork
  | .twoSessionSources | .noSessionSource | .startFailed _ | .closeFailed _
  | .sessionManagement _ => .sessionManagement
  | .foreign _ => .foreign

def foreignMessage : Foreign → String
  | .failure message => message
  | .missingEntry name => quote name
  | _ => ""

def message : Error → String
  | .general message | .schema message | .payload message | .statement message
  | .uniqueViolation message | .returnContract message | .cancelled message
  | .unitOfWork message | .sessionManagement message => message
  | .unknownEntity name => s!"Entity {quote name} is not registered"
  | .unknownTable role name => s!"Unknown {role.word} table {quote name}"
  | .registryFrozen entity => s!"Registry is frozen; cannot register {quote entity}"
  | .registryOpen => "Registry is not frozen; call freeze() after registering every entity"
  | .alreadyRegistered entity => s!"Entity {quote entity} is already registered"
  | .invalidRelationName entity name => s!"{entity}: invalid relation name {quote name}"
  | .relationShadowsColumn entity name => s!"{entity}: relation {quote name} shadows a column"
  | .malformedColumnRef text =>
      s!"Join column must be written as 'Table.column': {quote text}"
  | .misplacedJoinColumn place ref expected =>
      s!"{place}: join column {ref.toString} must belong to table {quote expected}"
  | .missingJoinColumn place ref =>
      s!"{place}: table {quote ref.table} has no column {quote ref.column}"
  | .missingThrough place => s!"{place}: ManyToMany relation needs a through table"
  | .splitThrough place source target =>
      s!"{place}: through columns {source.toString} and {target.toString} must share one table"
  | .unreferenced place referencing referenced =>
      s!"{place}: {referencing.toString} does not reference {referenced.toString}"
  | .primaryKeyCount entity count =>
      s!"{entity} must have exactly one primary key column, found {count}"
  | .unregisteredTarget place target => s!"{place} targets unregistered entity {quote target}"
  | .unsupportedOperator operator => s!"Unsupported filter operator {quote operator}"
  | .unselectedColumn name => s!"Query does not select a column named {quote name}"
  | .unselectedValue shown => s!"Query does not select a column named {shown}"
  | .syntaxError expression position reason =>
      s!"Invalid relation expression {quote expression} at position {position}: {reason}"
  | .notAllowed path => s!"Relation path {quote path} is not allowed"
  | .unmatchedFilter path => s!"Eager filter {quote path} matches no relation"
  | .unknownRelation entity relation => s!"{entity} has no relation named {quote relation}"
  | .expectedObject entity path kind =>
      let place := quote (if path.isEmpty then "<root>" else path)
      s!"Expected an object for {entity} at {place}, got {kind}"
  | .expectedSingle path => s!"{quote path} expects a single object"
  | .expectedObjects path => s!"{quote path} expects an object or a list of objects"
  | .unknownColumns entity names => s!"{entity} has no columns named {quoteList names}"
  | .reappears path =>
      s!"Graph payload node reappears as its own descendant at {quote path}"
  | .tooDeep limit path => s!"Graph payload nests deeper than {limit} at {quote path}"
  | .nothingToInsert table => s!"Nothing to insert into {quote table}"
  | .unknownInsertColumns table names =>
      s!"Unknown columns for {quote table}: {quoteList names}"
  | .unevenRows => "Multi-row inserts need the same columns in every row"
  | .missingConflictColumns table names =>
      s!"Conflict columns {quoteList names} do not exist on {quote table}"
  | .unsupportedConflict dialect =>
      s!"Dialect {quote dialect} does not support conflict clauses"
  | .missingRow => "Insert completed without returning its row"
  | .suppressedParent table =>
      s!"Insert into {table} was suppressed but nested rows depend on its key"
  | .missingSource table column operation =>
      s!"Cannot backfill {table}.{column}: operation {operation} returned no row"
  | .cancelledBefore => "Operation cancelled before statement"
  | .cancelledInFlight => "Operation cancelled while statement in flight"
  | .noUnitOfWork => "No UnitOfWork provided or configured."
  | .sessionMissing => "Session not yet created. Ensure __aenter__ was called."
  | .commitFailed cause => s!"Failed to commit transaction: {cause}"
  | .rollbackFailed cause => s!"Failed to rollback transaction: {cause}"
  | .twoSessionSources => "Cannot provide both 'session' and 'session_factory'."
  | .noSessionSource => "Must provide either 'session' or 'session_factory'."
  | .startFailed cause => s!"Failed to initialize UoW: {cause}"
  | .closeFailed cause => s!"Failed to close session: {cause}"
  | .foreign cause => foreignMessage cause

/-- Every failure but an interruption may be caught and reported as another one. -/
def isOrdinary : Error → Bool
  | .foreign .interrupted => false
  | _ => true

/-- The relation path an error is about, for the classes that carry one. -/
def path? : Error → Option String
  | .notAllowed path | .unmatchedFilter path | .reappears path | .tooDeep _ path => some path
  | _ => none

end Error

abbrev Result := Except Error

end RecordGraph
