import GatewayFlow.Attributes

/-!
# Catalog

What a freshly placed node starts from: the default attributes of its kind, and for a plugin that
the catalog lists the configuration of that plugin.
-/
namespace GatewayFlow

/-- A plugin that the palette offers, with its category and its usual configuration. -/
structure CatalogPlugin where
  name : String
  category : String
  config : Config
deriving Repr

namespace Catalog

open Value (text int bool list record texts)

def noItems : Value := .list []

def trafficControl : List CatalogPlugin :=
  let category := "Traffic Control"
  [ ⟨"rate-limiting", category, [("minute", int 5), ("hour", int 100), ("policy", text "local")]⟩,
    ⟨"response-ratelimiting", category,
      [("limits", record [("video", record [("minute", int 10)])])]⟩,
    ⟨"request-size-limiting", category, [("allowed_payload_size", int 128)]⟩ ]

def authentication : List CatalogPlugin :=
  let category := "Authentication"
  [ ⟨"key-auth", category, [("key_names", texts ["apikey"]), ("hide_credentials", bool false)]⟩,
    ⟨"basic-auth", category, [("hide_credentials", bool false)]⟩,
    ⟨"jwt", category, [("uri_param_names", texts ["jwt"]), ("claims_to_verify", texts ["exp"])]⟩,
    ⟨"oauth2", category,
      [("scopes", texts ["email", "profile"]), ("mandatory_scope", bool false),
        ("enable_authorization_code", bool true)]⟩,
    ⟨"hmac-auth", category, [("hide_credentials", bool false), ("clock_skew", int 300)]⟩ ]

def security : List CatalogPlugin :=
  let category := "Security"
  let lists : Config := [("allow", noItems), ("deny", noItems)]
  [ ⟨"acl", category, lists⟩,
    ⟨"ip-restriction", category, lists⟩,
    ⟨"bot-detection", category, lists⟩,
    ⟨"cors", category,
      [("origins", texts ["*"]), ("methods", texts ["GET", "POST", "PUT", "PATCH", "DELETE"]),
        ("headers", texts ["Accept", "Content-Type", "Authorization"]),
        ("exposed_headers", noItems), ("credentials", bool true), ("max_age", int 3600)]⟩ ]

def transformations : List CatalogPlugin :=
  let category := "Transformations"
  let request := record [("headers", noItems), ("querystring", noItems), ("body", noItems)]
  let response := record [("headers", noItems), ("json", noItems)]
  [ ⟨"request-transformer", category,
      [("add", request), ("remove", request), ("replace", request)]⟩,
    ⟨"response-transformer", category,
      [("add", response), ("remove", response), ("replace", response)]⟩,
    ⟨"correlation-id", category,
      [("header_name", text "X-Correlation-ID"), ("generator", text "uuid"),
        ("echo_downstream", bool false)]⟩ ]

def logging : List CatalogPlugin :=
  let category := "Logging"
  [ ⟨"file-log", category, [("path", text "/tmp/file.log")]⟩,
    ⟨"http-log", category,
      [("http_endpoint", text "http://localhost:8080/logs"), ("method", text "POST"),
        ("timeout", int 10000), ("keepalive", int 60000)]⟩,
    ⟨"tcp-log", category,
      [("host", text "127.0.0.1"), ("port", int 9999), ("timeout", int 10000),
        ("keepalive", int 60000)]⟩,
    ⟨"udp-log", category,
      [("host", text "127.0.0.1"), ("port", int 9999), ("timeout", int 10000)]⟩,
    ⟨"syslog", category, [("facility", text "user"), ("severity", text "info")]⟩ ]

def analytics : List CatalogPlugin :=
  let category := "Analytics"
  [ ⟨"prometheus", category, []⟩,
    ⟨"zipkin", category,
      [("http_endpoint", text "http://localhost:9411/api/v2/spans"),
        ("sample_ratio", .float (.ofDecimal false 1 (-3)))]⟩,
    ⟨"datadog", category, [("host", text "localhost"), ("port", int 8125)]⟩,
    ⟨"statsd", category, [("host", text "localhost"), ("port", int 8125)]⟩ ]

def serverless : List CatalogPlugin :=
  let category := "Serverless"
  [ ⟨"aws-lambda", category, [("aws_region", text "us-east-1"), ("function_name", text "")]⟩,
    ⟨"pre-function", category, [("access", noItems)]⟩,
    ⟨"post-function", category, [("access", noItems)]⟩ ]

def caching : List CatalogPlugin :=
  [ ⟨"proxy-cache", "Caching",
      [("response_code", list [int 200, int 301, int 404]),
        ("request_method", texts ["GET", "HEAD"]),
        ("content_type", texts ["text/plain", "application/json"]), ("cache_ttl", int 300),
        ("strategy", text "memory")]⟩ ]

def misc : List CatalogPlugin :=
  [ ⟨"request-termination", "Misc",
      [("status_code", int 503), ("message", text "Service temporarily unavailable")]⟩ ]

/-- Every listed plugin, category by category. -/
def plugins : List CatalogPlugin :=
  trafficControl ++ authentication ++ security ++ transformations ++ logging ++ analytics ++
    serverless ++ caching ++ misc

def plugin? (name : String) : Option CatalogPlugin :=
  plugins.find? fun plugin => plugin.name == name

/-- The configuration of a listed plugin; any other name has an empty one. -/
def configOf (name : String) : Config :=
  ((plugin? name).map CatalogPlugin.config).getD []

/-- The names of the plugins in a category, in order. -/
def namesIn (category : String) : List String :=
  (plugins.filter fun plugin => plugin.category == category).map CatalogPlugin.name

/-- The plugin that a plugin node stands for unless it is named otherwise. -/
def defaultPlugin : String := "rate-limiting"

/-- The default attributes of a kind. A plugin's name may be given; it decides the configuration. -/
def defaults (kind : Kind) (pluginName : Value) : Entries :=
  let named (fields : List (String × Value)) : Entries :=
    fields.map fun field => (.text field.1, field.2)
  match kind with
  | .service => named [("name", text ""), ("protocol", text "http"), ("host", text ""),
      ("port", int 80), ("path", text ""), ("retries", int 5), ("connect_timeout", int 60000),
      ("write_timeout", int 60000), ("read_timeout", int 60000)]
  | .route => named [("name", text ""), ("protocols", texts ["http", "https"]),
      ("methods", noItems), ("hosts", noItems), ("paths", noItems), ("strip_path", bool true),
      ("preserve_host", bool false)]
  | .plugin =>
    let name := if pluginName.isVoid then text defaultPlugin else pluginName
    let config := match name with
      | .text s => configOf s
      | _ => []
    named [("name", name), ("enabled", bool true), ("config", config.toValue)]
  | .consumer => named [("username", text ""), ("custom_id", text "")]
  | .upstream => named [("name", text ""), ("algorithm", text "round-robin"), ("slots", int 10000)]
  | .target => named [("target", text ""), ("weight", int 100)]
  | .certificate => named [("cert", text ""), ("key", text "")]
  | .sni => named [("name", text "")]

end Catalog
end GatewayFlow
