import RequestHub.Text.Case
import RequestHub.Text.Split
import RequestHub.Text.Utf8

/-!
# Request targets

The target of a request is a path with an optional query, an absolute address, or an authority alone.
`Uri.ofBytes?` takes it apart and refuses bytes that no target may hold; a fragment is dropped.  The
parts keep their own spelling, except that the two schemes of the web are written in small letters.
-/

namespace RequestHub

/-- A request target in its parts. -/
structure Uri where
  scheme : Option String
  authority : String
  /-- The path as it was written; an absolute address may leave it out. -/
  rawPath : String
  query : Option String
deriving DecidableEq, Inhabited, Repr

namespace Uri

/-- The path of the target; an absolute address without one has the root. -/
def path (uri : Uri) : String :=
  if uri.rawPath.isEmpty then
    if uri.scheme.isSome || uri.query.isSome then "/" else ""
  else uri.rawPath

/-- The authority of the target, if it has one. -/
def authority? (uri : Uri) : Option String :=
  if uri.authority.isEmpty then none else some uri.authority

/-- The written form of a target. -/
def text (uri : Uri) : String :=
  (match uri.scheme with
    | some scheme => scheme ++ "://"
    | none => "") ++
  uri.authority ++ uri.path ++
  (match uri.query with
    | some query => "?" ++ query
    | none => "")

/-! ## Bytes of the parts -/

/-- Whether a byte may stand in a path. -/
def isPathByte (byte : UInt8) : Bool :=
  byte == 0x21 || (0x24 ≤ byte && byte ≤ 0x3B) || byte == 0x3D || (0x40 ≤ byte && byte ≤ 0x5F) ||
    (0x61 ≤ byte && byte ≤ 0x7A) || byte == 0x7C || (0x7E ≤ byte && byte != 0x7F) || byte == 0x22 ||
    byte == 0x7B || byte == 0x7D

/-- Whether a byte may stand in a query. -/
def isQueryByte (byte : UInt8) : Bool :=
  byte == 0x21 || (0x24 ≤ byte && byte ≤ 0x3B) || byte == 0x3D || (0x3F ≤ byte && byte != 0x7F)

/-- Whether a byte may stand in an authority, a percent sign apart. -/
def isAuthorityByte (byte : UInt8) : Bool :=
  let char := Char.ofNat byte.toNat
  byte < 0x80 && (char.isAlphanum || "!#$&'()*+,-./:;=?@[]_~".toList.contains char)

/-- Whether a byte may stand in a scheme. -/
def isSchemeByte (byte : UInt8) : Bool :=
  let char := Char.ofNat byte.toNat
  byte < 0x80 && (char.isAlphanum || char == '+' || char == '-' || char == '.')

/-! ## Reading -/

/-- A path and query without the fragment behind them, if their bytes may stand there. -/
def pathAndQuery? (bytes : Bytes) : Option (String × Option String) := do
  let whole := bytes.takeWhile (· != 0x23)
  match Text.cutOnce 0x3F whole with
  | (path, none) =>
      if path.all isPathByte then return (← Bytes.decode? path, none) else none
  | (path, some query) =>
      if path.all isPathByte && query.all isQueryByte then
        return (← Bytes.decode? path, some (← Bytes.decode? query))
      else none

/-- What is known of an authority while its bytes are passed. -/
structure Progress where
  colons : Nat := 0
  opened : Bool := false
  closed : Bool := false
  percent : Bool := false
  endsWithAt : Bool := false

/-- The length of an authority at the front of some bytes, if it is well formed. -/
def authorityLength? (progress : Progress) (length : Nat) : Bytes → Option Nat
  | [] => finish progress length
  | byte :: rest =>
      if byte == 0x2F || byte == 0x3F || byte == 0x23 then finish progress length
      else if byte == 0x3A then
        if progress.colons ≥ 8 then finish { progress with endsWithAt := false } (length + 1 + rest.length)
        else
          authorityLength? { progress with colons := progress.colons + 1, endsWithAt := false }
            (length + 1) rest
      else if byte == 0x5B then
        if progress.percent || progress.opened then none
        else authorityLength? { progress with opened := true, endsWithAt := false } (length + 1) rest
      else if byte == 0x5D then
        if !progress.opened || progress.closed then none
        else
          authorityLength?
            { progress with closed := true, colons := 0, percent := false, endsWithAt := false }
            (length + 1) rest
      else if byte == 0x40 then
        authorityLength? { progress with colons := 0, percent := false, endsWithAt := true }
          (length + 1) rest
      else if byte == 0x25 then
        authorityLength? { progress with percent := true, endsWithAt := false } (length + 1) rest
      else if isAuthorityByte byte then
        authorityLength? { progress with endsWithAt := false } (length + 1) rest
      else none
where
  /-- Decides on an authority whose end has been reached. -/
  finish (progress : Progress) (length : Nat) : Option Nat :=
    if progress.opened != progress.closed || progress.colons > 1 || progress.endsWithAt ||
        progress.percent then none
    else some length

/-- The scheme in front of an absolute address, and the bytes behind its mark. -/
def scheme? (bytes : Bytes) : Except Unit (Option (String × Bytes)) :=
  let word := bytes.takeWhile isSchemeByte
  match bytes.drop word.length with
  | 0x3A :: 0x2F :: 0x2F :: rest =>
      let written := String.ofList (word.map fun byte => Char.ofNat byte.toNat)
      let small := Text.lowerAscii written
      if small = "http" || small = "https" then .ok (some (small, rest))
      else if bytes.length ≤ 3 then .ok none
      else if word.length > 64 then .error ()
      else .ok (some (written, rest))
  | _ => .ok none

/-- The text of bytes of the ASCII range. -/
def asciiText (bytes : Bytes) : String :=
  String.ofList (bytes.map fun byte => Char.ofNat byte.toNat)

/-- The target that is an authority alone. -/
def ofAuthority? (bytes : Bytes) : Option Uri := do
  let length ← authorityLength? {} 0 bytes
  if length = bytes.length then return ⟨none, asciiText bytes, "", none⟩ else none

/-- The target that bytes spell, if they spell one. -/
def ofBytes? (bytes : Bytes) : Option Uri :=
  if bytes.length > 65534 then none
  else
    match bytes with
    | [] => none
    | [0x2A] => some ⟨none, "", "*", none⟩
    | 0x2F :: _ => do
        let (path, query) ← pathAndQuery? bytes
        return ⟨none, "", path, query⟩
    | _ =>
        match scheme? bytes with
        | .error _ => none
        | .ok none => ofAuthority? bytes
        | .ok (some (scheme, rest)) => do
            let length ← authorityLength? {} 0 rest
            if length = 0 then none
            else do
              let (path, query) ← pathAndQuery? (rest.drop length)
              return ⟨some scheme, asciiText (rest.take length), path, query⟩

/-- The target that a text spells, if it spells one. -/
def ofString? (text : String) : Option Uri :=
  ofBytes? (Bytes.ofString text)

end Uri

end RequestHub
