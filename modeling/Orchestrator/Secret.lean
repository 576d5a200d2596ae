import Orchestrator.Json.Decode
import Orchestrator.Naming

/-!
Secrets: a value under a key, to be handed to containers under an alias. The value stays out of
everything that is shown.
-/
namespace Orchestrator

/-- A secret of a deployment. -/
structure Secret where
  key : String
  value : String
  aliasText : String
  deriving DecidableEq

namespace Secret

/-- What is shown in place of a value. -/
def redactedValue : String := "[REDACTED]"

/-- The secret with a value under a key, if the key is one. -/
def new (key value : String) : Except ValidationError Secret :=
  match validateKey key with
  | .error e => .error e
  | .ok () => .ok ⟨key, value, aliasFor key⟩

/-- The secret with its value hidden. -/
def redacted (s : Secret) : Secret := { s with value := redactedValue }

/-- The environment variable that holds the value in a container. -/
def envName (s : Secret) : String := variableName s.aliasText

/-- A secret as it is logged. -/
def summary (s : Secret) : String :=
  "Secret \x7b key: " ++ Text.quoted s.key ++ ", value: " ++ Text.quoted redactedValue
    ++ ", alias: " ++ Text.quoted s.aliasText ++ " \x7d"

open Orchestrator.Json

/-- The JSON form. -/
def toJson (s : Secret) : Json :=
  Json.record [("key", Json.text s.key), ("value", Json.text s.value),
    ("alias", Json.text s.aliasText)]

/-- Reads the JSON form. -/
def ofJson (j : Json) : Decoded Secret := do
  let given ← asRecord .direct
    [required "key" asText, required "value" asText, required "alias" asText] j
  return ⟨← given.get "key" asText, ← given.get "value" asText, ← given.get "alias" asText⟩

end Secret

end Orchestrator
