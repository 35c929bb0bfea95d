import ClusterHarness.Json.Access
import ClusterHarness.Json.Literal

/-!
Errors of responses: a failed request, and a response that carries deprecation warnings.
-/

namespace ClusterHarness

/-- A failed request: the document of the response, its status and its text, as far as there are any. -/
structure HttpError where
  body : Json
  code : Option Int
  text : Option Text

namespace HttpError

/-- A body that counts as false is an empty object. -/
def make (body : Json) (code : Option Int) (text : Option Text) : HttpError :=
  ⟨if body.truthy then body else .obj [], code, text⟩

def ofText (code : Option Int) (text : Text) : HttpError := make .null code (some text)

/-- A response with warnings, one a line. -/
def ofWarnings (warnings : List Text) (code : Option Int) : HttpError :=
  make .null code (some (Text.join [10] warnings))

def message (e : HttpError) : Text :=
  "HTTP error response_code=" ++ (e.code.map Text.ofInt).getD "None" ++ "\nresponse_text="
    ++ (e.text.map Text.quoted).getD "None"

/-- The type of the error that the body describes; a body that is no object describes none. -/
def errorType (e : HttpError) : Except ShapeError Json :=
  match e.body with
  | .obj fields =>
    let error := (Fields.get? "error" fields).getD .null
    if error.truthy then error.member "type" else .ok .null
  | _ => .ok .null

end HttpError

end ClusterHarness
