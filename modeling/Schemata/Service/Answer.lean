import Schemata.Service.Standalone
import Schemata.Service.Workspace.Scenario
import Schemata.Json.Parse

/-!
Answering a request: the operation named by `op` runs, and what it cannot read becomes a
request error in the answer. A line of text is answered by a line: text that is not JSON is
answered with a request error that names the first fault and its place.
-/

namespace Schemata

/-- The answer to a request that was read, or to the request error that stopped it. -/
def settle (result : Reading Json) : Json :=
  match result with
  | .ok answer => answer
  | .error e => e.toJson

/-- The answer to one request. -/
def answer (req : Json) : Json :=
  settle do
    match ← req.needStr "op" with
    | "parse" => answerParse req
    | "type_info" => answerTypeInfo req
    | "type_debug" => answerTypeDebug req
    | "value_info" => answerValueInfo req
    | "eq_ignore_case" => answerEqIgnoreCase req
    | "collection_format" => answerCollectionFormat req
    | "interval" => answerInterval req
    | "string_length" => answerStringLength req
    | "message" => answerMessage req
    | "error" => answerError req
    | "erased" => answerErased req
    | "world" => answerWorld req
    | op => throw (.unknownOp op)

/-- The answer to a request written as one line of JSON text, as one line of JSON text. -/
def respond (line : String) : String :=
  match Json.parse line with
  | .ok req => (answer req).render
  | .error e => (RequestError.invalid ("bad json: " ++ e.message line)).toJson.render

end Schemata
