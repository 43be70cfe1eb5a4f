import RequestHub.Request
import RequestHub.Text.Blank

/-!
# Log templates

A template is a text with placeholders: two opening braces, a text without braces, and two closing
braces.  `Template.pieces` takes a template apart from left to right, once; what is put in the place of
a placeholder is never looked at again.  A placeholder that names no known field makes the template
fail, and the first such placeholder is told.
-/

namespace RequestHub.Log

/-- A part of a template. -/
inductive Piece where
  /-- A character that stands for itself. -/
  | plain (char : Char)
  /-- A placeholder for a field. -/
  | field (name : String)
deriving DecidableEq, Inhabited, Repr

namespace Template

/-- Whether a character is no brace. -/
def isPlain (char : Char) : Bool :=
  char ≠ '\x7b' && char ≠ '\x7d'

/-- The text up to two closing braces and what follows them, if no other brace comes before. -/
def closing? (chars : List Char) : Option (List Char × List Char) :=
  match chars.dropWhile isPlain with
  | '\x7d' :: '\x7d' :: rest => some (chars.takeWhile isPlain, rest)
  | _ => none

theorem closing?_eq_some {chars name rest : List Char} (found : closing? chars = some (name, rest)) :
    chars = name ++ '\x7d' :: '\x7d' :: rest := by
  simp only [closing?] at found
  split at found
  · rename_i tail dropped
    obtain ⟨rfl, rfl⟩ := Prod.mk.injEq .. ▸ Option.some.inj found
    rw [← dropped, List.takeWhile_append_dropWhile]
  · contradiction

/-- The placeholder at the front of some characters, trimmed of blanks, and what follows it. -/
def placeholder? : List Char → Option (String × List Char)
  | '\x7b' :: '\x7b' :: chars =>
      (closing? chars).map fun (name, rest) =>
        (String.ofList (Text.trimBy Text.isBlank name), rest)
  | _ => none

theorem length_lt_of_placeholder? {chars rest : List Char} {name : String}
    (found : placeholder? chars = some (name, rest)) : rest.length < chars.length := by
  unfold placeholder? at found
  split at found
  · rename_i inner
    obtain ⟨⟨written, after⟩, closed, same⟩ := Option.map_eq_some_iff.1 found
    obtain ⟨-, rfl⟩ := Prod.mk.injEq .. ▸ same
    rw [closing?_eq_some closed]
    simp only [List.length_cons, List.length_append]
    omega
  · contradiction

/-- The parts of a template, from left to right. -/
def pieces : List Char → List Piece
  | [] => []
  | char :: chars =>
      match _ : placeholder? (char :: chars) with
      | some (name, rest) => .field name :: pieces rest
      | none => .plain char :: pieces chars
termination_by chars => chars.length
decreasing_by
  · exact length_lt_of_placeholder? ‹_›
  · simp

/-! ## Fields of a request -/

/-- The fields with a fixed name, by the text that stands for them. -/
def fixedField? (request : Request) : String → Option String
  | "Request.Body" => some (Bytes.decodeLossy request.body)
  | "Request.Method" => some request.method.name
  | "Request.URL.Path" => some request.uri.path
  | "Request.ID" => some request.id.text
  | "Request.APIName" => some request.route.api
  | "Request.ServiceName" => some request.route.service
  | "Response.StatusCode" =>
      some ((request.response.map fun response => toString response.status.code).getD "")
  | "Response.Body" =>
      some ((request.response.map fun response => Bytes.decodeLossy response.body).getD "")
  | _ => none

/-- What the name of a field begins with that stands for a header field. -/
def headerLead : List Char := "Request.Header.".toList

/-- The text of a field that stands for a header field. -/
def headerField? (request : Request) (field : String) : Option String :=
  match Text.dropLead? headerLead field.toList with
  | some (char :: name) =>
      some (((Headers.name? (String.ofList (char :: name))).bind request.headers.text?).getD "")
  | _ => none

/-- The text of a field of a request. -/
def resolve (request : Request) (field : String) : Except PluginFault String :=
  match (fixedField? request field).orElse fun _ => headerField? request field with
  | some text => .ok text
  | none => .error (.unknownTemplate field)

/-! ## Expansion -/

/-- The characters that stand for the parts of a template. -/
def expandPieces (request : Request) : List Piece → Except PluginFault (List Char)
  | [] => .ok []
  | .plain char :: rest => do return char :: (← expandPieces request rest)
  | .field name :: rest => do
      let text ← resolve request name
      return text.toList ++ (← expandPieces request rest)

/-- The text that a template stands for. -/
def expand (request : Request) (template : String) : Except PluginFault String :=
  (expandPieces request (pieces template.toList)).map String.ofList

/-- A list of pairs with a value under a name, at the place that the name has if it is there. -/
def put (name value : String) : List (String × String) → List (String × String)
  | [] => [(name, value)]
  | (other, held) :: pairs =>
      if other = name then (name, value) :: pairs else (other, held) :: put name value pairs

/-- The texts of some templates by name: the last of a name counts, at the place of the first. -/
def render (request : Request) (fields : List (String × String)) :
    Except PluginFault (List (String × String)) :=
  fields.foldlM
    (fun pairs (name, template) => do return put name (← expand request template) pairs) []

end Template

end RequestHub.Log
