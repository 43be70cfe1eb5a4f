import RequestHub.Decimal.Power
import RequestHub.Http.Address
import RequestHub.Text.Blank
import RequestHub.Text.Case
import RequestHub.Text.Percent
import RequestHub.Text.Punycode

/-!
# Addresses of remote hubs

An address on the web names a scheme and, for the schemes of the web, a host, a port, a path, a query
and a fragment.  `Url.ofString?` reads an address as it was typed and gives it its usual form: scheme
and host in small letters, no port where the scheme implies it, no dots among the segments of the
path, and a percent sign for every byte that may not stand where it was found.
-/

namespace RequestHub

/-- An address in its usual form; every part is kept as it is written. -/
structure Url where
  scheme : String
  host : Option String
  port : Option Nat
  path : String
  query : Option String
  fragment : Option String
deriving DecidableEq, Inhabited, Repr

namespace Url

/-- The written form of an address. -/
def text (url : Url) : String :=
  url.scheme ++ ":" ++
  (match url.host with
    | some host =>
        "//" ++ host ++
        (match url.port with
          | some port => ":" ++ toString port
          | none => "")
    | none => "") ++
  url.path ++
  (match url.query with
    | some query => "?" ++ query
    | none => "") ++
  (match url.fragment with
    | some fragment => "#" ++ fragment
    | none => "")

/-- The schemes of the web, and the ports that they imply. -/
def webPorts : List (String × Nat) :=
  [("http", 80), ("https", 443), ("ws", 80), ("wss", 443), ("ftp", 21)]

/-- Whether requests can be sent to addresses of a scheme. -/
def isPostable (url : Url) : Bool :=
  url.scheme = "http" || url.scheme = "https"

/-! ## Percent signs -/

/-- The hexadecimal digit of a value, as a capital letter from ten on. -/
def capitalDigit (value : Nat) : Char :=
  if value < 10 then Char.ofNat (value + 0x30) else Char.ofNat (value - 10 + 0x41)

/-- The text of bytes, with percent signs for those that some test marks and those beyond ASCII. -/
def escape (mark : Char → Bool) (text : List Char) : String :=
  String.ofList ((Bytes.ofString (String.ofList text)).flatMap fun byte =>
    let char := Char.ofNat byte.toNat
    if byte < 0x20 || 0x7E < byte || mark char then
      ['%', capitalDigit (byte.toNat / 16), capitalDigit (byte.toNat % 16)]
    else [char])

/-- The characters that no fragment holds as they are. -/
def isMarkedInFragment (char : Char) : Bool :=
  " \"<>`".toList.contains char

/-- The characters that no path holds as they are. -/
def isMarkedInPath (char : Char) : Bool :=
  isMarkedInFragment char || "#?\x7b\x7d".toList.contains char

/-- The characters that no query of an address of the web holds as they are. -/
def isMarkedInQuery (char : Char) : Bool :=
  " \"#<>'".toList.contains char

/-! ## Hosts -/

/-- The number that a part of a numeric host spells, in decimal, octal or hexadecimal digits. -/
def hostNumber? (part : List Char) : Option Nat :=
  match part with
  | '0' :: 'x' :: digits => if digits.isEmpty then some 0 else Decimal.natural? 16 digits
  | ['0'] => some 0
  | '0' :: digits => Decimal.natural? 8 digits
  | digits => Decimal.natural? 10 digits

/-- The parts of a host between points, without an empty last one. -/
def hostParts (host : List Char) : List (List Char) :=
  let parts := Text.cut '.' host
  if 1 < parts.length && parts.getLast? = some [] then parts.dropLast else parts

/-- Whether a host has to be read as a number because its last part looks like one. -/
def isNumeric (host : List Char) : Bool :=
  match (hostParts host).getLast? with
  | some part => (!part.isEmpty && part.all Char.isDigit) ||
      (part.take 2 = ['0', 'x'] && (hostNumber? part).isSome)
  | none => false

/-- The four bytes of a numeric host, whose last part fills all bytes that are left. -/
def numericHost? (host : List Char) : Option String := do
  let numbers ← (hostParts host).mapM hostNumber?
  let last ← numbers.getLast?
  let lead := numbers.dropLast
  if 3 < lead.length || lead.any (255 < ·) || Nat.pow 256 (4 - lead.length) ≤ last then none
  else
    let value := lead.zipIdx.foldl (fun sum (number, place) => sum + number * Nat.pow 256 (3 - place)) last
    return SocketAddress.fourText
      [value / twoTo 24, value / twoTo 16 % 256, value / twoTo 8 % 256, value % 256]

/-- Whether a character may not stand in a host name. -/
def isForbiddenInName (char : Char) : Bool :=
  char.toNat ≤ 0x20 || char.toNat = 0x7F || "#%/:<>?@[\\]^`\x7b|\x7d".toList.contains char

/-- The written form of a host name of the web. -/
def webHost? (host : List Char) : Option String :=
  let plain := Bytes.decodeLossy (Text.Percent.decodeBytes (Bytes.ofString (String.ofList host)))
  let labels := Text.cut '.' (Text.lower plain).toList
  let name := ['.'].intercalate (labels.map Text.Punycode.label)
  if name.isEmpty || name.any isForbiddenInName then none
  else if isNumeric name then numericHost? name
  else some (String.ofList name)

/-- Whether a character may not stand in a host of another scheme. -/
def isForbiddenInHost (char : Char) : Bool :=
  char.toNat = 0 || "\t\n\r #/:<>?@[\\]^|".toList.contains char

/-- The written form of a host between brackets. -/
def bracketed? (host : List Char) : Option String :=
  match host.getLast? with
  | some ']' =>
      match SocketAddress.six? host.dropLast with
      | some (groups, []) =>
          let (start, length) := SocketAddress.longestRun groups
          let shown :=
            if length > 1 then
              SocketAddress.groupsText (groups.take start) ++ "::" ++
                SocketAddress.groupsText (groups.drop (start + length))
            else SocketAddress.groupsText groups
          some ("[" ++ shown ++ "]")
      | _ => none
  | _ => none

/-- The written form of a host. -/
def host? (web : Bool) (host : List Char) : Option String :=
  match host with
  | '[' :: rest => bracketed? rest
  | _ =>
      if web then webHost? host
      else if host.any isForbiddenInHost then none
      else some (escape (fun _ => false) host)

/-! ## Parts of an address -/

/-- The part behind the last of some characters, if there is one. -/
def behindLast (char : Char) (chars : List Char) : List Char :=
  (chars.reverse.takeWhile (· ≠ char)).reverse

/-- The host of an authority and what is written behind its colon. -/
def hostAndPort (authority : List Char) : List Char × Option (List Char) :=
  match authority with
  | '[' :: _ =>
      let host := authority.takeWhile (· ≠ ']') ++ [']']
      match authority.drop host.length with
      | ':' :: port => (host, some port)
      | [] => (host, none)
      | _ => (authority, none)
  | _ => Text.cutOnce ':' authority

/-- The port that is written behind a colon; an empty one and the usual one are left out. -/
def port? (scheme : String) (digits : List Char) : Option (Option Nat) :=
  if digits.isEmpty then some none
  else if !digits.all Char.isDigit then none
  else do
    let port ← Decimal.natural? 10 digits
    if 65535 < port then none
    else return if webPorts.lookup scheme = some port then none else some port

/-- Whether a segment stands for the place where it is. -/
def isDot (segment : String) : Bool :=
  ["." , "%2e"].contains (Text.lowerAscii segment)

/-- Whether a segment stands for the place above. -/
def isTwoDots (segment : String) : Bool :=
  ["..", ".%2e", "%2e.", "%2e%2e"].contains (Text.lowerAscii segment)

/-- The segments of a path, given those before it, without any that are dots. -/
def withoutDots (before : List String) : List String → List String
  | [] => before
  | [last] =>
      if isTwoDots last then before.dropLast ++ [""]
      else if isDot last then before ++ [""]
      else before ++ [last]
  | segment :: segments =>
      if isTwoDots segment then withoutDots before.dropLast segments
      else if isDot segment then withoutDots before segments
      else withoutDots (before ++ [segment]) segments

/-- The written form of a path that begins at the root. -/
def rootedPath (web : Bool) (path : List Char) : String :=
  let slashed := if web then path.map fun char => if char = '\\' then '/' else char else path
  let segments := Text.cut '/' (if slashed.head? = some '/' then slashed.drop 1 else slashed)
  "/" ++ String.intercalate "/" (withoutDots [] (segments.map (escape isMarkedInPath)))

/-- The scheme in front of an address, in small letters, and what follows its colon. -/
def scheme? (chars : List Char) : Option (String × List Char) :=
  let word := chars.takeWhile fun char =>
    char.isAlphanum || char = '+' || char = '-' || char = '.'
  match chars.drop word.length with
  | ':' :: rest =>
      if (word.head?.map Char.isAlpha).getD false then
        some (Text.lowerAscii (String.ofList word), rest)
      else none
  | _ => none

/-- Reads the authority of an address and its path. -/
def withAuthority? (web : Bool) (url : Url) (rest : List Char) : Option Url := do
  let ends (char : Char) : Bool := char = '/' || (web && char = '\\')
  let authority := rest.takeWhile fun char => !ends char
  let path := rest.drop authority.length
  let (host, port) := hostAndPort (behindLast '@' authority)
  let port ← (port.map (port? url.scheme)).getD (some none)
  let host ← if host.isEmpty && !web then some none else (host? web host).map some
  return { url with
    host := if host.isNone then some "" else host
    port
    path := if path.isEmpty && !web then "" else rootedPath web path }

/-- The address that a text spells, if it spells one on its own. -/
def ofString? (text : String) : Option Url := do
  let isMargin (char : Char) : Bool := char.toNat ≤ 0x20
  let isBreak (char : Char) : Bool := char = '\t' || char = '\n' || char = '\r'
  let chars := (Text.trimBy isMargin text.toList).filter fun char => !isBreak char
  let (scheme, rest) ← scheme? chars
  let (rest, fragment) := Text.cutOnce '#' rest
  let (rest, query) := Text.cutOnce '?' rest
  let web := (webPorts.lookup scheme).isSome
  let url : Url :=
    { scheme
      host := none
      port := none
      path := ""
      query := query.map (escape (fun char => isMarkedInQuery char && (web || char ≠ '\'')))
      fragment := fragment.map (escape isMarkedInFragment) }
  if web then withAuthority? web url (rest.dropWhile fun char => char = '/' || char = '\\')
  else
    match rest with
    | '/' :: '/' :: rest => withAuthority? web url rest
    | '/' :: _ => return { url with path := rootedPath web rest }
    | _ => return { url with path := escape (fun _ => false) rest }

/-- Whether an address names a host. -/
def hasHost (url : Url) : Bool :=
  url.host.any fun host => !host.isEmpty

end Url

end RequestHub
