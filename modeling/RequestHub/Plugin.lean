import RequestHub.Request
import RequestHub.Work

/-!
# Plugins

What a hub does with a request is done by plugins.  A task works on the request, and on the response if
one is attached; a target answers the request.  A plugin is made from a configuration, which is a JSON
value; one that is left out counts as an empty object.
-/

namespace RequestHub

/-- A plugin that works on a request. -/
structure Task where
  name : String
  run : Context → Work Request Unit

instance : Inhabited Task := ⟨⟨"", fun _ => pure ()⟩⟩

/-- A plugin that answers a request. -/
structure Target where
  run : Context → Work Request (Option Response)

instance : Inhabited Target := ⟨⟨fun _ => pure none⟩⟩

namespace Plugin

/-- The configuration of a plugin, read by a decoder. -/
def configuration {α : Type} (plugin : String) (decoder : Decoder α) (config : Json) :
    Except Failure α :=
  let value := if config.isNull then .object [] else config
  (decoder.ofValue value).mapError fun cause => .invalidPluginConfig plugin cause.message

end Plugin

namespace Work

/-- The request that the work is about. -/
def request : Work Request Request :=
  subject

/-- Changes the response, if one is attached. -/
def modifyResponse (change : Response → Response) : Work Request Unit :=
  modify fun request => { request with response := request.response.map change }

end Work

end RequestHub
