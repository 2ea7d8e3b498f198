/-
Messages between a runner and a provider: requests, responses and the
errors that responses carry, each a record with a text form of one line.
An absent result, error or data is left out in writing; `null` in one of
their places reads as absent.

Reading a response straight from its text differs from reading it from a
value: a field that is written twice is a fault there, while a value has
forgotten all but the last; and members that are no fields are gone past,
so that they matter by their form alone.
-/
import ProviderLink.Json.Reading
import ProviderLink.Json.Selected

namespace ProviderLink.Rpc

/-- What pairs a response with its request. -/
inductive RequestId
  | text (s : String)
  | number (n : Int64)
  | null
  deriving DecidableEq, Repr

/-- The error of a response. -/
structure Error where
  code : Int32
  message : String
  data : Option Json
  deriving DecidableEq

/-- A request. -/
structure Request where
  jsonrpc : String
  id : RequestId
  method : String
  params : Json
  deriving DecidableEq

/-- A response: a result or an error. -/
structure Response where
  jsonrpc : String
  id : RequestId
  result : Option Json
  error : Option Error
  deriving DecidableEq

/-- The version that every message carries. -/
def version : String := "2.0"

-- ============================================================= writing

/-- The member of a field that may be absent. -/
def memberIf (name : String) : Option Json → List (String × Json)
  | some v => [(name, v)]
  | none => []

/-- The value of an id. -/
def RequestId.toJson : RequestId → Json
  | text s => .string s
  | number n => .number (.ofInt64 n)
  | null => .null

/-- The record of an error. -/
def Error.toJson (e : Error) : Json :=
  .object ([("code", .number (.ofInt32 e.code)), ("message", .string e.message)] ++
    memberIf "data" e.data)

/-- The record of a request. -/
def Request.toJson (r : Request) : Json :=
  .object [("jsonrpc", .string r.jsonrpc), ("id", r.id.toJson), ("method", .string r.method),
    ("params", r.params)]

/-- The record of a response. -/
def Response.toJson (r : Response) : Json :=
  .object ([("jsonrpc", .string r.jsonrpc), ("id", r.id.toJson)] ++ memberIf "result" r.result ++
    memberIf "error" (r.error.map Error.toJson))

/-- The line of a request. -/
def Request.text (r : Request) : String := r.toJson.text

/-- The line of a response. -/
def Response.text (r : Response) : String := r.toJson.text

-- ============================================================= reading

/-- Reads an id: a string, a signed 64-bit integer or `null`. -/
def RequestId.read : Json.Reader RequestId
  | .string s => .ok (text s)
  | .null => .ok null
  | .number (.int i _) =>
    if -0x8000000000000000 ≤ i ∧ i < 0x8000000000000000 then .ok (number (Int64.ofInt i))
    else .error (.noVariant "RequestId")
  | _ => .error (.noVariant "RequestId")

def Error.fields : Json.Fields Error :=
  (Json.Fields.pure Error.mk)
    |>.field "code" Json.readInt32
    |>.field "message" Json.readString
    |>.optional "data" Json.readAny? none

def Error.read : Json.Reader Error := Error.fields.read "JsonRpcError" false

def Request.fields : Json.Fields Request :=
  (Json.Fields.pure Request.mk)
    |>.field "jsonrpc" Json.readString
    |>.field "id" RequestId.read
    |>.field "method" Json.readString
    |>.optional "params" Except.ok .null

def Request.read : Json.Reader Request := Request.fields.read "JsonRpcRequestEnvelope" false

def Response.fields : Json.Fields Response :=
  (Json.Fields.pure Response.mk)
    |>.field "jsonrpc" Json.readString
    |>.field "id" RequestId.read
    |>.optional "result" Json.readAny? none
    |>.optional "error" (Json.readOption Error.read) none

def Response.read : Json.Reader Response := Response.fields.read "JsonRpcResponseEnvelope" false

-- ================================================== reading from a text

/-- Whether some field is written twice among the members of a record. -/
def repeatsField (names : List String) (members : List (String × Json)) : Bool :=
  names.any fun name => 1 < ((Dict.keys members).filter (· == name)).length

/-- Whether a field of an error is written twice. -/
def errorRepeats : Json → Bool
  | .object members => repeatsField Error.fields.names members
  | _ => false

/-- Whether a field of a response, or of the error in it, is written twice. -/
def responseRepeats : Json → Bool
  | .object members =>
    repeatsField Response.fields.names members ||
      ((Dict.get? "error" members).map errorRepeats).getD false
  | .array items => ((items[3]?).map errorRepeats).getD false
  | _ => false

/-- The fields of the error of a response, as written. -/
def Error.select? (ls : List Json.Lexeme) : Option Json :=
  Json.selectFields (Json.maxDepth - 1) Error.fields.names
    (fun _ => Json.ofLexemes? (Json.maxDepth - 2)) ls

/-- The fields of a response, as written. -/
def Response.select? (ls : List Json.Lexeme) : Option Json :=
  Json.selectFields Json.maxDepth Response.fields.names
    (fun name =>
      if name = "error" then Error.select? else Json.ofLexemes? (Json.maxDepth - 1)) ls

def Response.ofText? (line : String) : Option Response := do
  let ls ← Json.lexemes line.toList
  if !Json.isForm ls then none
  let written ← Response.select? ls
  if responseRepeats written then none
  (Response.read written.canonical).toOption

end ProviderLink.Rpc
