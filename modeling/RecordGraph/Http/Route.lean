import RecordGraph.Http.Body
import RecordGraph.Http.Parameter
import RecordGraph.Repository
import RecordGraph.Text.Percent
import RecordGraph.Text.Split

/-!
Contract: the routes of entities.

Owns: `Request`, `Mount`, the choice of an endpoint by path and method, the endpoints, and `serve`.
Does not own: the operations of repositories.

A mount puts the routes of one entity under a path:

* `POST /` inserts a graph, `GET /` lists rows;
* `PATCH /key` changes a row, `DELETE /key` removes it;
* `POST /key/relation` inserts a related row, `GET /key/relation` lists the related rows;
* `POST /key/relation/relate` links an existing row.

The form of the body is checked before anything else. Then come the relation path, the parameters
and the keys, in this order, before the database is asked.
-/

namespace RecordGraph.Http

open RecordGraph.Text

structure Request where
  method : String
  /-- The path, with percent escapes. -/
  path : String
  query : List Parameter := []
  body : Body := .absent
deriving Repr, Inhabited

/-- The routes of a repository's entity under a path. -/
structure Mount (σ : Type) where
  path : String
  repository : Repository σ
  insertAllow : AllowList Filter
  eagerAllow : AllowList Filter
  eagerFilters : List (String × Option Filter) := []

/-! ## Endpoints -/

inductive Endpoint where
  | create
  | list
  | patch (key : String)
  | delete (key : String)
  | createRelated (key relation : String)
  | listRelated (key relation : String)
  | relate (key relation : String)
deriving DecidableEq, Repr, Inhabited

/-- The endpoints of a place below a mount, by method. -/
def endpoints : (segments : List String) → List (String × Endpoint)
  | [] => [("POST", .create), ("GET", .list)]
  | [key] => [("PATCH", .patch key), ("DELETE", .delete key)]
  | [key, relation] =>
      [("POST", .createRelated key relation), ("GET", .listRelated key relation)]
  | [key, relation, "relate"] => [("POST", .relate key relation)]
  | _ => []

/-- The segments of a path, each after a slash and not empty. -/
def segments? : List Char → Option (List String)
  | [] => some []
  | '/' :: rest =>
      let segments := splitMarks '/' rest
      if segments.contains [] then none else some (segments.map String.ofList)
  | _ => none

/-! ## Handlers -/

/-- The work of an endpoint. -/
abbrev Handler (σ α : Type) := ExceptT Failure (StateM σ) α

variable {σ : Type}

def ofAction {α : Type} (action : Action σ α) : Handler σ α :=
  action.adapt Failure.failed

def ofResult {α : Type} (result : Result α) : Handler σ α :=
  ofAction (MonadExcept.ofExcept result)

def ofReading {α : Type} (reading : Except Failure α) : Handler σ α :=
  MonadExcept.ofExcept reading

/-- The result of an operation, which has none if a row is missing. -/
def orMissing {α : Type} (what : String) : Option α → Handler σ α
  | some result => pure result
  | none => throw (.rejected (.missing what))

def ofRows (rows : List Record) : Value := .list (rows.map Value.object)

namespace Mount

/-- Mounts the routes of a repository's entity, restricted to allowed relations. -/
def make (path : String) (repository : Repository σ) (insertAllow eagerAllow : AllowSource Filter)
    (eagerFilters : List (String × Option Filter)) : Result (Mount σ) := do
  let insertAllow ← insertAllow.read
  let eagerAllow ← eagerAllow.read
  pure { path, repository, insertAllow, eagerAllow, eagerFilters }

def entity (mount : Mount σ) : Entity := mount.repository.entity

/-- The primary key that a segment of a path stands for. -/
def key (mount : Mount σ) (segment : String) : Handler σ Value :=
  ofReading (readKey mount.entity (.text segment))

def target (mount : Mount σ) (relation : String) : Handler σ Entity :=
  ofResult do
    let found ← mount.repository.registry.resolve mount.entity.name relation
    mount.repository.registry.entity found.target

/-- The related rows of the row that a segment stands for. -/
def related (mount : Mount σ) (segment relation : String) : Handler σ (RelatedQuery σ) := do
  let key ← mount.key segment
  ofResult (RelatedQuery.make mount.repository key relation)

def create (mount : Mount σ) (body : Value) : Handler σ Value :=
  ofAction (mount.repository.insertGraph (Payload.ofValue body) (.list mount.insertAllow)
    none none)

def list (mount : Mount σ) (query : List Parameter) : Handler σ Value := do
  let filter ← ofReading (selectionFilter mount.entity query)
  let eager :=
    match last? query "eager" with
    | some expression => .text expression
    | none => .absent
  let rows ← ofAction (mount.repository.fetch (some filter) eager (.list mount.eagerAllow)
    mount.eagerFilters none)
  pure (ofRows rows)

def patch (mount : Mount σ) (segment : String) (values : Record) : Handler σ Value := do
  let key ← mount.key segment
  let row ← orMissing mount.entity.name (← ofAction (mount.repository.patchById key values))
  pure (.object row)

def delete (mount : Mount σ) (segment : String) : Handler σ Value := do
  let key ← mount.key segment
  let count ← ofAction (mount.repository.deleteById key)
  if count = 0 then throw (.rejected (.missing mount.entity.name)) else pure (.object [])

def createRelated (mount : Mount σ) (segment relation : String) (values : Record) :
    Handler σ Value := do
  ofResult (mount.insertAllow.checkPath relation)
  let query ← mount.related segment relation
  let row ← orMissing mount.entity.name (← ofAction (query.insert values))
  pure (.object row)

def listRelated (mount : Mount σ) (segment relation : String) (parameters : List Parameter) :
    Handler σ Value := do
  ofResult (mount.eagerAllow.checkPath relation)
  let target ← mount.target relation
  let filter ← ofReading (selectionFilter target parameters)
  let query ← mount.related segment relation
  let rows ← orMissing mount.entity.name (← ofAction (query.fetch (some filter)))
  pure (ofRows rows)

def relate (mount : Mount σ) (segment relation : String) (body : Record) : Handler σ Value := do
  ofResult (mount.insertAllow.checkPath relation)
  let target ← mount.target relation
  match body.get? "id" with
  | none => throw (.rejected .missingId)
  | some id => do
      let query ← mount.related segment relation
      let key ← ofReading (readKey target id)
      let row ← orMissing target.name (← ofAction (query.relate key))
      pure (.object row)

/-! ## Service -/

/-- What an endpoint does with a document, or the answer to a body that is none. -/
def onDocument (body : Body) (handle : Value → Except Response (Handler σ Value)) :
    Except Response (Handler σ Value) :=
  match body with
  | .document value => handle value
  | .absent | .malformed => throw .unprocessable
  | .unreadable => throw .unreadable

/-- What an endpoint does with the fields of an object, whose names must be encodable. -/
def onFields (body : Body) (handle : Record → Handler σ Value) :
    Except Response (Handler σ Value) :=
  onDocument body fun
    | .object fields =>
        if fields.any fun field => hasLoneHalf field.1 then throw .unprocessable
        else pure (handle fields)
    | _ => throw .unprocessable

/-- The handler of an endpoint, or the answer to a body of the wrong form. -/
def handler (mount : Mount σ) (request : Request) :
    Endpoint → Except Response (Handler σ Value)
  | .list => pure (mount.list request.query)
  | .delete key => pure (mount.delete key)
  | .listRelated key relation => pure (mount.listRelated key relation request.query)
  | .create => onDocument request.body fun body => pure (mount.create body)
  | .patch key => onFields request.body (mount.patch key)
  | .createRelated key relation => onFields request.body (mount.createRelated key relation)
  | .relate key relation => onFields request.body (mount.relate key relation)

def offers (mount : Mount σ) (path : List Char) : List (String × Mount σ × Endpoint) :=
  let below :=
    if mount.path.toList.isPrefixOf path then segments? (path.drop mount.path.toList.length)
    else none
  ((below.map endpoints).getD []).map fun (method, endpoint) => (method, mount, endpoint)

end Mount

def answer (mount : Mount σ) (endpoint : Endpoint) (request : Request) : StateM σ Response :=
  match mount.handler request endpoint with
  | .error response => pure response
  | .ok handler => do pure (.ofResult (← handler.run))

/-- Answers a request for a path that no mount has. -/
def answerUnknown (mounts : List (Mount σ)) (path : List Char) : Response :=
  let stripped := (path.reverse.dropWhile (· == '/')).reverse
  if stripped ≠ path && mounts.any fun mount => !(mount.offers stripped).isEmpty then .redirect
  else .notFound

/-- Answers a request by the first mount that has its path and method. -/
def serve (mounts : List (Mount σ)) (request : Request) : StateM σ Response :=
  let path := (percentDecode request.path).toList
  let offers := mounts.flatMap (·.offers path)
  match offers.lookup request.method.toUpper with
  | some (mount, endpoint) => answer mount endpoint request
  | none => pure (if offers.isEmpty then answerUnknown mounts path else .methodNotAllowed)

end RecordGraph.Http
