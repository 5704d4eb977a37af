/-
# Messages to the server

The frames a client sends: requests with an id, notifications without one,
replies to requests of the server, and the parameters of each call.
-/
import Sidecar.Json.Basic

namespace Sidecar.Message

/-- The code of a reply to an unknown method. -/
def methodNotFoundCode : Int := -32601

/-- The parameters of a message, which may have none. -/
def paramsMember (params : Option Json) : List (String × Json) :=
  (params.map fun p => ("params", p)).toList

def request (id : Nat) (method : String) (params : Option Json) : Json :=
  Json.object ([("jsonrpc", .str "2.0"), ("id", .nat id), ("method", .str method)] ++
    paramsMember params)

def notification (method : String) (params : Option Json) : Json :=
  Json.object ([("jsonrpc", .str "2.0"), ("method", .str method)] ++ paramsMember params)

/-- The reply to a request with a method nobody knows. -/
def methodNotFound (id : Json) (method : String) : Json :=
  Json.object [("jsonrpc", .str "2.0"), ("id", id),
    ("error", Json.object [("code", .int methodNotFoundCode),
      ("message", .str ("Method not found: " ++ method))])]

/-- The reply to a request that succeeded. -/
def result (id value : Json) : Json :=
  Json.object [("jsonrpc", .str "2.0"), ("id", id), ("result", value)]

def dynamic : Json := Json.object [("dynamicRegistration", .bool true)]

/-- What the client can do. A capability is only announced by the server if the client claims
that it may be registered later. -/
def capabilities : Json :=
  Json.object [
    ("textDocument", Json.object [
      ("synchronization", Json.object [("dynamicRegistration", .bool true),
        ("willSave", .bool false), ("willSaveWaitUntil", .bool false), ("didSave", .bool true)]),
      ("completion", dynamic), ("definition", dynamic), ("references", dynamic),
      ("rename", dynamic), ("formatting", dynamic),
      ("publishDiagnostics", Json.object [("relatedInformation", .bool false)])]),
    ("workspace", Json.object [("executeCommand", dynamic),
      ("didChangeConfiguration", Json.object [("dynamicRegistration", .bool false)])])]

/-- The version the client gives for itself. -/
def clientVersion : String := "0.0.0"

def initializeParams (processId : Nat) (root : Option String) : Json :=
  Json.object [
    ("processId", .nat processId),
    ("clientInfo", Json.object [("name", .str "yls"), ("version", .str clientVersion)]),
    ("rootUri", Json.optStr root),
    ("capabilities", capabilities),
    ("workspaceFolders", root.elim .null fun uri =>
      .arr [Json.object [("uri", .str uri), ("name", .str "workspace")]])]

/-- The parameters of a call about a document. -/
def documentParams (members : List (String × Json)) : Json :=
  Json.object [("textDocument", Json.object members)]

def openParams (uri language : String) (version : Int32) (text : String) : Json :=
  documentParams [("uri", .str uri), ("languageId", .str language),
    ("version", .int version.toInt), ("text", .str text)]

/-- A change of the whole text. -/
def changeParams (uri : String) (version : Int32) (text : String) : Json :=
  Json.object [("textDocument", Json.object [("uri", .str uri), ("version", .int version.toInt)]),
    ("contentChanges", .arr [Json.object [("text", .str text)]])]

def uriParams (uri : String) : Json := documentParams [("uri", .str uri)]

/-- Settings under the section the server reads. -/
def configurationParams (settings : Json) : Json :=
  Json.object [("settings", Json.object [("yara", settings)])]

def commandParams (command : String) (arguments : List Json) : Json :=
  Json.object [("command", .str command), ("arguments", .arr arguments)]

/-- The command that compiles the current rule. -/
def compileRule : String := "yara.CompileRule"

/-- The command that compiles all rules. -/
def compileAllRules : String := "yara.CompileAllRules"

end Sidecar.Message
