import RequestHub.Plugin

/-!
# The pass-through target

The simplest target sends back what it is sent: the response has the header fields, the trailers and the
body of the request.
-/

namespace RequestHub.PassThrough

/-- The name of the target's type. -/
def typeName : String := "noop"

/-- The response with everything that a request carries. -/
def reflect (request : Request) : Response :=
  { status := .ok
    headers := request.headers
    trailers := request.trailers
    body := request.body }

/-- The target that sends back what it is sent. -/
def target : Target where
  run _ := do return some (reflect (← Work.request))

end RequestHub.PassThrough
