import RequestHub.Text.Case

/-!
# Request methods

A hub knows nine methods.  They are read without regard to case and written in capital letters.  A
request may name any other token as well, which a hub then refuses.
-/

namespace RequestHub

/-- A method that a hub supports, in the order in which methods are listed. -/
inductive Method where
  | get
  | post
  | put
  | delete
  | head
  | options
  | patch
  | trace
  | connect
deriving DecidableEq, Inhabited, Repr

namespace Method

/-- Every supported method, in order. -/
def all : List Method :=
  [get, post, put, delete, head, options, patch, trace, connect]

/-- The name of a method. -/
def name : Method → String
  | .get => "GET"
  | .post => "POST"
  | .put => "PUT"
  | .delete => "DELETE"
  | .head => "HEAD"
  | .options => "OPTIONS"
  | .patch => "PATCH"
  | .trace => "TRACE"
  | .connect => "CONNECT"

/-- The place of a method in the list of methods. -/
def rank : Method → Nat
  | .get => 0
  | .post => 1
  | .put => 2
  | .delete => 3
  | .head => 4
  | .options => 5
  | .patch => 6
  | .trace => 7
  | .connect => 8

/-- The method that a text names, in letters of either case. -/
def ofString? (text : String) : Option Method :=
  all.find? fun method => Text.sameIgnoringAsciiCase method.name text

/-- Methods in the order in which they are listed. -/
def sort (methods : List Method) : List Method :=
  methods.mergeSort fun left right => left.rank ≤ right.rank

/-- Whether a character may stand in a token of the protocol. -/
def isTokenChar (char : Char) : Bool :=
  char.isAlphanum || "!#$%&'*+-.^_`|~".toList.contains char

/-- Whether a text can be the method of a request at all. -/
def isToken (text : String) : Bool :=
  !text.isEmpty && text.toList.all isTokenChar

theorem mem_all (method : Method) : method ∈ all := by
  cases method <;> simp [all]

end Method

end RequestHub
