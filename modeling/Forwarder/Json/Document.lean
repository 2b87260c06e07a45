import Forwarder.Failure
import Forwarder.Json.Decode
import Forwarder.Json.Reader

/-!
# JSON documents

Reading data from a text: the text has to be JSON, and the value has to have the form that the
reader of the data asks for.
-/

namespace Forwarder.Json

/-- Reads data from a text. -/
def ofDocument {α : Type} (reader : Reader α) (text : String) : Except Failure α :=
  match (parse? text).bind reader.run with
  | some data => .ok data
  | none => .error (.serialization "malformed document")

end Forwarder.Json
