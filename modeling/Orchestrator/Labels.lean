import Orchestrator.Container

/-!
The labels of a deployment's containers: the owner's mark, and for a deployment with host names the
rules by which the reverse proxy routes to it.
-/
namespace Orchestrator.Deployment

/-- The certificate resolver of routers that serve TLS. -/
def certificateResolver : String := "letsencrypt"

/-- The rule that matches any of a list of host names. -/
def hostRule (hosts : List String) : String :=
  " || ".intercalate (hosts.map fun host => "Host(\x60" ++ host ++ "\x60)")

/-- The prefix of the labels of a deployment's router. -/
def routerPrefix (name : String) : String := "traefik.http.routers." ++ name

/-- The name of a deployment's rate-limiting middleware. -/
def middlewareName (name : String) : String := name ++ "-ratelimit"

/-- The prefix of the labels of a deployment's rate-limiting middleware. -/
def middlewarePrefix (name : String) : String :=
  "traefik.http.middlewares." ++ middlewareName name ++ ".ratelimit"

/-- The labels that say how requests come in. -/
def entryLabels (d : Deployment) : List (String × String) :=
  if d.secure then [
    (routerPrefix d.name ++ ".entrypoints", "websecure"),
    (routerPrefix d.name ++ ".tls", "true"),
    (routerPrefix d.name ++ ".tls.certresolver", certificateResolver)]
  else [(routerPrefix d.name ++ ".entrypoints", "web")]

/-- The label that says which port requests go to: the lowest one exposed. -/
def serviceLabels (d : Deployment) : List (String × String) :=
  match d.ports.keys with
  | [] => []
  | port :: _ => [("traefik.http.services." ++ d.name ++ ".loadbalancer.server.port",
      String.ofList (Text.decimal port.toNat))]

/-- The labels that limit the rate of requests. -/
def limitLabels (d : Deployment) : List (String × String) :=
  if d.rateLimit then [
    (middlewarePrefix d.name ++ ".average", "100"),
    (middlewarePrefix d.name ++ ".burst", "50"),
    (routerPrefix d.name ++ ".middlewares", middlewareName d.name)]
  else []

/-- The labels for the reverse proxy; a deployment without host names has none. -/
def proxyLabels (d : Deployment) (network : String) : SortedMap String String :=
  if d.aliases.isEmpty then ∅
  else
    .ofList ([
      ("traefik.enable", "true"),
      ("traefik.docker.network", network),
      (routerPrefix d.name ++ ".rule", hostRule d.aliases)]
      ++ d.entryLabels ++ d.serviceLabels ++ d.limitLabels)

/-- All labels of a deployment's containers. -/
def containerLabels (d : Deployment) (network : String) : SortedMap String String :=
  (SortedMap.ofList [(Container.ownerLabel, d.name)]).insertAll (d.proxyLabels network).entries

end Orchestrator.Deployment
