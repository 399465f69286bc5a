import DeviceHttp.Handler

/-!
# Routes

A route names a path and possibly a method. Of a list of routes, the first one that accepts a
request answers it. A request without a route is answered with 404.
-/

namespace DeviceHttp

/-- A row of the route table. -/
structure Route where
  path : String
  /-- The only method that is accepted, `none` if every method will do. -/
  method : Option String
  handler : Handler

namespace Route

/-- Whether path and method of a request are those of the route. -/
def accepts (route : Route) (request : Request) : Bool :=
  request.path == route.path && route.method.all (· == request.method)

theorem accepts_iff {route : Route} {request : Request} :
    route.accepts request = true ↔
      request.path = route.path ∧
        ∀ method, route.method = some method → method = request.method := by
  cases route with
  | mk path method handler => cases method <;> simp [accepts]

/-- A route for GET. -/
def get (path : String) (handler : Handler) : Route := ⟨path, some "GET", handler⟩

/-- A route for POST. -/
def post (path : String) (handler : Handler) : Route := ⟨path, some "POST", handler⟩

/-- A route for every method. -/
def any (path : String) (handler : Handler) : Route := ⟨path, none, handler⟩

end Route

/-- A route table, searched in order. -/
abbrev RouteTable := List Route

/-- How a request was answered. -/
inductive Routing where
  /-- By the handler of a route. -/
  | handled
  /-- With 404. -/
  | notFound
deriving DecidableEq, Repr

namespace RouteTable

/-- The first route that accepts a request. -/
def find? (routes : RouteTable) (request : Request) : Option Route :=
  List.find? (·.accepts request) routes

/-- How the answering of a request ended. -/
structure Ending where
  outcome : Except Error Routing
  exchange : Exchange
  shutdown : Bool

/-- What a handler has achieved. One that succeeds without a response is an error. -/
def handled (ending : Reply.Ending) : Except Error Routing :=
  match ending.outcome with
  | .error e => .error e
  | .ok () => if ending.exchange.answered then .ok .handled else .error .unanswered

/-- Answers a request. -/
def answer (routes : RouteTable) (x : Exchange) (shutdown : Bool) (request : Request) : Ending :=
  match find? routes request with
  | none =>
    let (outcome, x) := x.send .notFound
    ⟨outcome.map fun () => .notFound, x, shutdown⟩
  | some route =>
    let ending := (route.handler request).run x shutdown
    ⟨handled ending, ending.exchange, ending.shutdown⟩

end RouteTable

end DeviceHttp
