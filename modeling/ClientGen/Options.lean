import ClientGen.Text.Search

/-! What a build can be told beside the document. -/

namespace ClientGen

/-- What kind of client is made. -/
inductive Target
  | browserClient
  | serverClient
  | reactiveClient
  /-- The user brings the template. -/
  | custom
  deriving DecidableEq

def Target.names : List (String × Target) :=
  [("browser_client", .browserClient), ("server_client", .serverClient),
    ("reactive_client", .reactiveClient), ("custom", .custom)]

def Target.text : Target → String
  | .browserClient => "browser_client"
  | .serverClient => "server_client"
  | .reactiveClient => "reactive_client"
  | .custom => "custom"

structure Endpoint where
  protocol : String := ""
  host : String := ""
  deriving DecidableEq

/-- Protocol, `//` and host, with a colon between them whether or not the protocol ends in one. -/
def Endpoint.url (endpoint : Endpoint) : String :=
  let protocol := String.ofList (Text.dropEndAll ['/', '/'] endpoint.protocol.toList)
  if [':'].isSuffixOf protocol.toList then protocol ++ "//" ++ endpoint.host
  else protocol ++ "://" ++ endpoint.host

structure Options where
  className : String := "Api"
  moduleName : String := "api"
  /-- Takes the place of the scheme and the host that the document declares. -/
  hostOverride : Option String := none
  /-- Takes the place of both the override and the document. -/
  customEndpoint : Option Endpoint := none
  target : Target := .browserClient
  es6 : Bool := false
  imports : List String := []
  deriving DecidableEq

def Options.isNode (options : Options) : Bool :=
  options.target = .serverClient || options.target = .reactiveClient

def Options.isES6 (options : Options) : Bool :=
  options.es6 || options.target = .reactiveClient

end ClientGen
