import RequestHub.Http.Headers
import RequestHub.Http.Status
import RequestHub.Json.Printer

/-!
# Responses

A response has a status, header fields, a body and trailers.  A target makes it, and from then on it
is attached to the request, where later steps may change it.
-/

namespace RequestHub

/-- What a request is answered with. -/
structure Response where
  status : Status
  headers : Headers
  trailers : Headers
  body : Bytes
deriving DecidableEq, Repr

namespace Response

/-- A response with a status and nothing else. -/
def ofStatus (status : Status) : Response :=
  { status, headers := [], trailers := [], body := [] }

instance : Inhabited Response := ⟨ofStatus .ok⟩

/-- The response with one more value of a header field. -/
def withHeader (response : Response) (name : String) (value : Bytes) : Response :=
  { response with headers := response.headers.append name value }

/-- The media type of JSON. -/
def jsonType : Bytes :=
  Bytes.ofString "application/json"

/-- A response whose body is the text of a JSON value. -/
def ofJson (status : Status) (value : Json) : Response :=
  { status
    headers := Headers.set [] "content-type" jsonType
    trailers := []
    body := Bytes.ofString value.render }

end Response

end RequestHub
