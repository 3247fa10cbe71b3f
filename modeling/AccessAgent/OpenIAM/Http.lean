import AccessAgent.ConnectorSPI

/-! The requests the connector sends and their answers (`authorized_get` of
`app/connectors/openiam/token_client.py`), over an arbitrary world. -/

namespace AccessAgent.OpenIAM
open Semantics

variable {σ : Type}

structure Request where
  path : String
  params : List (String × Json)

structure Response where
  statusCode : Nat
  json : Except Exn Json

def Response.failed (response : Response) : Bool := decide (400 ≤ response.statusCode)

structure TokenClient (σ : Type) where
  authorizedGet : Request → Effect Exn σ Response

/-- A client whose answers are given for each request. -/
def answering (answer : Request → Response) : TokenClient σ where
  authorizedGet request := pure (answer request)

def userGetPath : String := "/webconsole/rest/api/user/admin/get/"

def userGet (subjectSub : String) : Request := ⟨userGetPath ++ subjectSub,[]⟩

def usersSearch (loginId : String) : Request :=
  ⟨"/webconsole/rest/api/users/search",[("from",.int 0),("size",.int 1),("searchTerm",.str loginId)]⟩

def dashboardSearch (name : Json) : Request :=
  ⟨"/webconsole/rest/api/managedsys-dashboard/search",[("name",name),("from",.int 0),("size",.int 10)]⟩

def auditlogSearch (subjectSub : String) (fromDate toDate : Int) (actions : List String) (size : Int) :
    Request :=
  ⟨"/webconsole/rest/api/auditlog/search",[("userId",.str subjectSub),("fromDate",.int fromDate),
    ("toDate",.int toDate),("actions[]",.arr (actions.map .str)),("from",.int 0),("size",.int size),
    ("offset",.int 0)]⟩

/-- A request and what it was answered with. -/
structure Exchange where
  request : Request
  response : Response

structure Logged (σ : Type) where
  world : σ
  exchanges : List Exchange

instance [Clock σ] : Clock (Logged σ) where
  now logged := ((Clock.now logged.world).1,{logged with world := (Clock.now logged.world).2})

def entryOf (request : Request) : Except Exn Response → List Exchange
  | .ok response => [⟨request,response⟩]
  | .error _ => []

/-- The same client, with its answered requests on record. -/
def TokenClient.logged (client : TokenClient σ) : TokenClient (Logged σ) where
  authorizedGet request := ⟨fun logged =>
    let outcome := (client.authorizedGet request).exec logged.world
    (outcome.1,⟨outcome.2,logged.exchanges ++ entryOf request outcome.1⟩)⟩

end AccessAgent.OpenIAM
