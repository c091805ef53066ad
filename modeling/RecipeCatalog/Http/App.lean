import RecipeCatalog.Http.Rest
import RecipeCatalog.Graph.Endpoint

/-!
# Routing

Each route is a path pattern with one method. A request goes to the first route whose pattern
and method it matches. A path that some route's pattern matches, under another method, is
answered `405` with the method of the first such route; a path that matches no pattern but
would with its trailing slashes removed (or one added) is redirected there with `307`; any other
path is answered `404`. A pattern's end also matches before a final line feed.

Main definitions: `Address`, `Address.ofPath?`, `routes`, `App.handle`.
-/

namespace RecipeCatalog

namespace Http

/-- What a path addresses. -/
inductive Address where
  | health
  | recipes
  | recipe (id : String)
  | recipeFile (id : String)
  | graphql
  deriving DecidableEq, Repr

/-- The kind of target a route serves. -/
inductive Place where
  | health
  | recipes
  | recipe
  | recipeFile
  | graphql
  deriving DecidableEq, Repr

namespace Address

/-- The kind of a target. -/
def place : Address → Place
  | health => .health
  | recipes => .recipes
  | recipe _ => .recipe
  | recipeFile _ => .recipeFile
  | graphql => .graphql

/-- The path without one final line feed. -/
def trimmed (path : String) : String :=
  if path.endsWith "\n" then String.ofList path.toList.dropLast else path

/-- Whether a path is a fixed path, also with a final line feed. -/
def isPath (path fixed : String) : Bool := path == fixed || path == fixed ++ "\n"

/-- The target a path addresses. -/
def ofPath? (path : String) : Option Address :=
  if isPath path "/api/v1/health" then some .health
  else if isPath path "/api/v1/recipes" then some .recipes
  else if isPath path "/graphql" then some .graphql
  else
    let pre := "/api/v1/recipes/".toList
    let cs := path.toList
    if cs.take pre.length != pre then none
    else
      let rest := cs.drop pre.length
      let id := rest.takeWhile (· != '/')
      let after := String.ofList (rest.drop id.length)
      if id.isEmpty then none
      else if after.isEmpty then some (.recipe (String.ofList id))
      else if isPath after "/file" then some (.recipeFile (String.ofList id))
      else none

end Address

/-- The routes, in order: the place and the method each serves. -/
def routes : List (Place × String) :=
  [(.health, "GET"), (.recipes, "GET"), (.recipe, "GET"), (.recipes, "POST"), (.recipe, "PUT"),
   (.recipe, "DELETE"), (.recipeFile, "PUT"), (.recipeFile, "GET"), (.graphql, "GET"),
   (.graphql, "POST")]

namespace App

/-- The path to try when a path matches no route. -/
def otherPath (path : String) : String :=
  if path.endsWith "/" then String.ofList ((path.toList.reverse.dropWhile (· == '/')).reverse)
  else path ++ "/"

/-- Answers a request on a route, for a service configured with the token table `T`. -/
def serve (T : TokenTable) (s : Store) (r : Request) : Address → Response × Store
  | .health => (Rest.health, s)
  | .recipes => if r.method == "GET" then (Rest.list s r, s) else Rest.create T s r
  | .recipe id =>
    if r.method == "GET" then (Rest.fetch s r id, s)
    else if r.method == "PUT" then Rest.replace T s r id
    else Rest.remove T s r id
  | .recipeFile id => if r.method == "PUT" then Rest.upload T s r id else (Rest.download s id, s)
  | .graphql => Graph.serve T s r

/-- Answers a request, for a service configured with the token table `T`. -/
def handle (T : TokenTable) (s : Store) (r : Request) : Response × Store :=
  match Address.ofPath? r.path with
  | some t =>
    if routes.contains (t.place, r.method) then serve T s r t
    else
      let allowed := ((routes.find? (·.1 == t.place)).map (·.2)).getD ""
      (Response.detail 405 "Method Not Allowed" [("allow", allowed)], s)
  | none =>
    let other := otherPath r.path
    if r.path != "/" && (Address.ofPath? other).isSome then
      let query := if r.query.isEmpty then "" else "?" ++ r.query
      (Response.empty 307 [("location", Rest.origin r ++ other ++ query)], s)
    else (Response.detail 404 "Not Found" [], s)

end App

end Http

end RecipeCatalog
