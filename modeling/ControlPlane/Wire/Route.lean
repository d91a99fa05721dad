import ControlPlane.Wire.Shared

/-! The wire form of route tables. -/

namespace ControlPlane.Wire

open Proto

/-- The requests that a route takes: by path template and by verb.

The way in which paths match is a choice that begins at field 1, so it goes first. -/
def routeMatch (r : Route) : Message :=
  message 15 (extension "envoy.path.match.uri_template"
      (typeUrl "envoy.extensions.path.match.uri_template.v3.UriTemplateMatchConfig")
      (text 1 r.pathTemplate)) ++
    message 6 (text 1 ":method" ++ message 13 (textAlways 1 r.method.text))

/-- Where a route leads. -/
def routeAction (r : Route) : Message :=
  textAlways 1 r.cluster ++
    (match r.backendHost with
      | some host => textAlways 6 host
      | none => []) ++
    message 8 (duration r.timeout) ++
    (match r.backendTemplate with
      | some template =>
        message 41 (extension "envoy.path.rewrite.uri_template"
          (typeUrl "envoy.extensions.path.rewrite.uri_template.v3.UriTemplateRewriteConfig")
          (text 1 template))
      | none => [])

/-- A route. -/
def route (r : Route) : Message :=
  message 1 (routeMatch r) ++ message 2 (routeAction r) ++ text 14 r.name

/-- A route table. -/
def routeTable (table : RouteTable) : Message :=
  text 1 table.name ++
    message 2 (text 1 table.host.name ++ table.host.domains.flatMap (textAlways 2) ++
      table.host.routes.flatMap fun r => message 3 (route r))

end ControlPlane.Wire
