/-!
# Tokens of a YAML document

A document is cut into tokens: marks of structure, names of anchors, and scalars.  Two things about a
document are not written in it and are found here.  Indentation opens and closes block collections,
so a stack of columns is kept.  A key without a mark shows only by the colon behind it, so the place
of each possible key is kept until a colon comes or the line ends, and the mark is then put in front
of it.

`Token.ofChars?` gives all tokens of a document, or nothing if some character cannot begin or
continue one.
-/

namespace RequestHub.Yaml

/-- A tag as it is written: the handle that stands for a prefix, and the rest. -/
structure Tag where
  handle : String
  suffix : String
deriving DecidableEq, Repr

/-- A token of a document. -/
inductive Token where
  | version (major minor : Nat)
  | tagPrefix (handle replacement : String)
  | documentStart
  | documentEnd
  | blockSequence
  | blockMapping
  | blockEnd
  | flowSequence
  | flowSequenceEnd
  | flowMapping
  | flowMappingEnd
  | blockEntry
  | flowEntry
  | key
  | value
  | alias (name : String)
  | anchor (name : String)
  | tag (tag : Tag)
  | scalar (text : String) (plain literal : Bool)
deriving DecidableEq, Repr, Inhabited

/-- A place in the document. -/
structure Place where
  index : Nat := 0
  line : Nat := 0
  column : Nat := 0
deriving DecidableEq, Repr

/-- A token that becomes a key if a colon follows it in time. -/
structure Candidate where
  required : Bool
  number : Nat
  place : Place
deriving DecidableEq, Repr

/-- What has been read, and what is needed to read on. -/
structure Scanner where
  rest : List Char
  place : Place := {}
  tokens : Array Token := #[]
  /-- The columns of the open block collections, innermost first. -/
  columns : List Int := []
  column : Int := -1
  /-- One possible key for each open flow collection, innermost first, and one for the block. -/
  candidates : List (Option Candidate) := [none]
  keyAllowed : Bool := true
deriving Repr

/-- A step of reading, which fails on characters that cannot stand where they are. -/
abbrev Scan (α : Type) := StateT Scanner Option α

namespace Scan

/-! ## Characters -/

/-- Whether a character ends a line. -/
def isBreak (char : Char) : Bool :=
  char == '\n' || char == '\r' || char == '\u0085' || char == '\u2028' || char == '\u2029'

/-- Whether a character is a space or a tab. -/
def isBlank (char : Char) : Bool :=
  char == ' ' || char == '\t'

/-- Whether a character may stand in the name of an anchor or a directive. -/
def isName (char : Char) : Bool :=
  char.isAlphanum || char == '_' || char == '-'

/-- Whether a character may stand in a document at all. -/
def isAllowed (char : Char) : Bool :=
  let number := char.toNat
  number == 0x09 || number == 0x0A || number == 0x0D || (0x20 ≤ number && number ≤ 0x7E) ||
    number == 0x85 || (0xA0 ≤ number && number ≤ 0xD7FF) ||
    (0xE000 ≤ number && number ≤ 0xFFFD) || 0x10000 ≤ number

/-- Whether the rest of a line or document begins here, or a blank. -/
def endsWord : List Char → Bool
  | [] => true
  | char :: _ => isBlank char || isBreak char

/-- Whether a line ends here. -/
def endsLine : List Char → Bool
  | [] => true
  | char :: _ => isBreak char

/-- The characters not read yet. -/
def rest : Scan (List Char) := do
  return (← get).rest

/-- The column of the next character. -/
def column : Scan Nat := do
  return (← get).place.column

/-- Whether a flow collection is open. -/
def inFlow : Scan Bool := do
  return (← get).candidates.length > 1

/-- Fails. -/
def refuse {α : Type} : Scan α := fun _ => none

/-- Passes one character of a line. -/
def skip : Scan Unit :=
  modify fun scanner =>
    { scanner with
      rest := scanner.rest.drop 1
      place := { scanner.place with
        index := scanner.place.index + 1
        column := scanner.place.column + 1 } }

/-- Passes the end of a line, and gives the break that it stands for. -/
def readBreak : Scan (List Char) := do
  let advance (count : Nat) : Scan Unit :=
    modify fun scanner =>
      { scanner with
        rest := scanner.rest.drop count
        place := ⟨scanner.place.index + count, scanner.place.line + 1, 0⟩ }
  match ← rest with
  | '\r' :: '\n' :: _ => do advance 2; return ['\n']
  | char :: _ =>
      if isBreak char then do
        advance 1
        return [if char = '\u2028' || char = '\u2029' then char else '\n']
      else return []
  | [] => return []

/-- Passes the characters at the front that satisfy a test, and gives them. -/
def takeWhile (test : Char → Bool) : Scan (List Char) := do
  let taken := (← rest).takeWhile test
  modify fun scanner =>
    { scanner with
      rest := scanner.rest.drop taken.length
      place := { scanner.place with
        index := scanner.place.index + taken.length
        column := scanner.place.column + taken.length } }
  return taken

/-- Passes a comment, if there is one. -/
def skipComment : Scan Unit := do
  match ← rest with
  | '#' :: _ => let _ ← takeWhile fun char => !isBreak char
  | _ => return ()

/-- Whether a mark between documents stands at the cursor. -/
def atDocumentMark : Scan Bool := do
  if (← column) ≠ 0 then return false
  else
    match ← rest with
    | '-' :: '-' :: '-' :: after => return endsWord after
    | '.' :: '.' :: '.' :: after => return endsWord after
    | _ => return false

/-! ## Keys and indentation -/

/-- Adds a token. -/
def emit (token : Token) : Scan Unit :=
  modify fun scanner => { scanner with tokens := scanner.tokens.push token }

/-- Puts a token in front of an earlier one. -/
def emitAt (number : Nat) (token : Token) : Scan Unit :=
  modify fun scanner =>
    { scanner with
      tokens := (scanner.tokens.extract 0 number).push token ++
        scanner.tokens.extract number scanner.tokens.size }

/-- Says whether a key may begin at the next token. -/
def allowKey (allowed : Bool) : Scan Unit :=
  modify fun scanner => { scanner with keyAllowed := allowed }

/-- Gives up the innermost possible key; one that had to be a key is missing its colon. -/
def dropCandidate : Scan Unit := do
  match (← get).candidates with
  | some candidate :: others =>
      if candidate.required then refuse
      else modify fun scanner => { scanner with candidates := none :: others }
  | _ => return ()

/-- Notes that the next token may be a key. -/
def noteCandidate : Scan Unit := do
  let scanner ← get
  if scanner.keyAllowed then
    let required := !(← inFlow) && scanner.column == scanner.place.column
    dropCandidate
    modify fun scanner =>
      { scanner with
        candidates :=
          some ⟨required, scanner.tokens.size, scanner.place⟩ :: scanner.candidates.drop 1 }

/-- Whether a possible key is too far away to be one still. -/
def isStale (here : Place) (candidate : Candidate) : Bool :=
  candidate.place.line < here.line || candidate.place.index + 1024 < here.index

/-- Gives up the possible keys that are too far away. -/
def dropStale : Scan Unit := do
  let scanner ← get
  let stale := scanner.candidates.filterMap fun (candidate : Option Candidate) =>
    candidate.filter (isStale scanner.place)
  if stale.any (·.required) then refuse
  else
    set { scanner with
      candidates := scanner.candidates.map fun (candidate : Option Candidate) =>
        candidate.filter fun key => !isStale scanner.place key }

/-- Opens a block collection at a column, unless one is open there already. -/
def openBlock (column : Nat) (number : Option Nat) (token : Token) : Scan Unit := do
  let scanner ← get
  if !(← inFlow) && scanner.column < column then
    set { scanner with columns := scanner.column :: scanner.columns, column := column }
    match number with
    | some number => emitAt number token
    | none => emit token

/-- Closes the block collections that are further right than a column. -/
def closeBlocks (column : Int) : Scan Unit := do
  if !(← inFlow) then
    let scanner ← get
    let all := scanner.column :: scanner.columns
    let closed := (all.takeWhile fun open' => open' > column).length
    let remaining := all.drop closed
    set { scanner with
      column := remaining.headD (-1)
      columns := remaining.drop 1
      tokens := scanner.tokens ++ Array.replicate closed Token.blockEnd }

/-! ## Blanks between tokens -/

/-- Passes blanks, comments and ends of lines; `fuel` exceeds the number of lines. -/
def skipBetween : (fuel : Nat) → Scan Unit
  | 0 => return ()
  | fuel + 1 => do
      let tabs := (← inFlow) || !(← get).keyAllowed
      let _ ← takeWhile fun char => char = ' ' || (tabs && char = '\t')
      skipComment
      match ← rest with
      | char :: _ =>
          if isBreak char then do
            let _ ← readBreak
            if !(← inFlow) then allowKey true
            skipBetween fuel
          else return ()
      | [] => return ()

/-! ## Directives, anchors and tags -/

/-- Whether a character may stand in a tag; inside angle brackets more may. -/
def isTagChar (verbatim : Bool) (char : Char) : Bool :=
  isName char || ";/?:@&=+$.%!~*'()".toList.contains char ||
    (verbatim && ",[]".toList.contains char)

/-- The value of a hexadecimal digit. -/
def hexDigit? (char : Char) : Option Nat :=
  if char.isDigit then some (char.toNat - '0'.toNat)
  else if 'a' ≤ char && char ≤ 'f' then some (char.toNat - 'a'.toNat + 10)
  else if 'A' ≤ char && char ≤ 'F' then some (char.toNat - 'A'.toNat + 10)
  else none

/-- Replaces the escapes of a tag that stand for characters of the ASCII range. -/
def unescapeTag : List Char → Option (List Char)
  | [] => some []
  | '%' :: high :: low :: more => do
      let number := (← hexDigit? high) * 16 + (← hexDigit? low)
      if number < 0x80 then return Char.ofNat number :: (← unescapeTag more) else none
  | '%' :: _ => none
  | char :: more => do return char :: (← unescapeTag more)

/-- Reads the characters of a tag behind those read already. -/
def readTagChars (verbatim : Bool) (before : List Char) : Scan (List Char) := do
  let taken ← takeWhile (isTagChar verbatim)
  let chars ← (unescapeTag taken : Option (List Char))
  if before.isEmpty && chars.isEmpty then refuse else return before.drop 1 ++ chars

/-- Reads the handle of a tag: an exclamation mark, a name, and perhaps a second mark. -/
def readHandle (directive : Bool) : Scan (List Char) := do
  match ← rest with
  | '!' :: _ => do
      skip
      let name ← takeWhile isName
      match ← rest with
      | '!' :: _ => do
          skip
          return '!' :: name ++ ['!']
      | _ =>
          if directive && !name.isEmpty then refuse else return '!' :: name
  | _ => refuse

/-- Reads a tag. -/
def readTag : Scan Tag := do
  let tag ←
    match ← rest with
    | '!' :: '<' :: _ => do
        skip; skip
        let suffix ← readTagChars true []
        match ← rest with
        | '>' :: _ => do
            skip
            pure (⟨"", String.ofList suffix⟩ : Tag)
        | _ => refuse
    | _ => do
        let handle ← readHandle false
        if handle.length ≥ 2 && handle.getLast? = some '!' then do
          let suffix ← readTagChars false []
          pure ⟨String.ofList handle, String.ofList suffix⟩
        else do
          let suffix ← readTagChars false handle
          if suffix.isEmpty then pure ⟨"", "!"⟩ else pure ⟨"!", String.ofList suffix⟩
  let after ← rest
  if endsWord after || ((← inFlow) && after.head? = some ',') then return tag else refuse

/-- Reads the name of an anchor behind its mark. -/
def readAnchor : Scan String := do
  skip
  let name ← takeWhile isName
  let after ← rest
  if name.isEmpty then refuse
  else if endsWord after || (after.head?.any fun char => "?:,]\x7d%@`".toList.contains char) then
    return String.ofList name
  else refuse

/-- Reads a number of a directive. -/
def readVersionNumber : Scan Nat := do
  let digits ← takeWhile Char.isDigit
  if digits.isEmpty || digits.length > 9 then refuse
  else return digits.foldl (fun value digit => value * 10 + (digit.toNat - '0'.toNat)) 0

/-- Reads a directive behind its mark, up to the end of its line. -/
def readDirective : Scan Token := do
  skip
  let name ← takeWhile isName
  if name.isEmpty || !endsWord (← rest) then refuse
  let _ ← takeWhile isBlank
  let token ←
    if name = "YAML".toList then do
      let major ← readVersionNumber
      match ← rest with
      | '.' :: _ => do
          skip
          let minor ← readVersionNumber
          pure (Token.version major minor)
      | _ => refuse
    else if name = "TAG".toList then do
      let handle ← readHandle true
      if (← rest).head?.all fun char => !isBlank char then refuse
      let _ ← takeWhile isBlank
      let replacement ← readTagChars true []
      if !endsWord (← rest) then refuse
      pure (Token.tagPrefix (String.ofList handle) (String.ofList replacement))
    else refuse
  let _ ← takeWhile isBlank
  skipComment
  if !endsLine (← rest) then refuse
  let _ ← readBreak
  return token

/-! ## Scalars -/

/-- Line breaks gathered between two parts of a scalar. -/
structure Gap where
  blanks : List Char := []
  first : List Char := []
  others : List Char := []
  broken : Bool := false

/-- What a gap between two parts of a folded scalar stands for. -/
def Gap.fold (gap : Gap) : List Char :=
  if gap.broken then
    if gap.first = ['\n'] then if gap.others.isEmpty then [' '] else gap.others
    else gap.first ++ gap.others
  else gap.blanks

/-- Gathers the blanks and breaks behind a part of a scalar; `least` is the least column of a tab. -/
def readGap (least : Nat) (gap : Gap) : (fuel : Nat) → Scan Gap
  | 0 => return gap
  | fuel + 1 => do
      match ← rest with
      | char :: _ =>
          if isBlank char then do
            if gap.broken && char = '\t' && (← column) < least then refuse
            skip
            readGap least
              (if gap.broken then gap else { gap with blanks := gap.blanks ++ [char] }) fuel
          else if isBreak char then do
            let read ← readBreak
            readGap least
              (if gap.broken then { gap with others := gap.others ++ read }
                else { gap with blanks := [], first := read, broken := true }) fuel
          else return gap
      | [] => return gap

/-- The characters of a plain scalar up to a blank or to what ends it. -/
def readPlainWord (flow : Bool) : List Char → Scan (List Char)
  | [] => return []
  | char :: after => do
      let flowMarks := ",[]\x7b\x7d".toList
      if isBlank char || isBreak char then return []
      else if flow && char = ':' &&
          (after.head?.any fun next => next = '?' || flowMarks.contains next) then refuse
      else if char = ':' && endsWord after then return []
      else if flow && flowMarks.contains char then return []
      else do
        skip
        return char :: (← readPlainWord flow after)

/-- Reads the parts of a plain scalar; `least` is the least column of its later lines. -/
def readPlainParts (least : Nat) (text : List Char) (gap : Gap) :
    (fuel : Nat) → Scan (List Char × Bool)
  | 0 => return (text, gap.broken)
  | fuel + 1 => do
      if ← atDocumentMark then return (text, gap.broken)
      else if (← rest).head? = some '#' then return (text, gap.broken)
      else do
        let word ← readPlainWord (← inFlow) (← rest)
        let (text, gap) :=
          if word.isEmpty then (text, gap) else (text ++ gap.fold ++ word, ({} : Gap))
        match ← rest with
        | char :: _ =>
            if isBlank char || isBreak char then do
              let gap ← readGap least gap fuel
              if !(← inFlow) && (← column) < least then return (text, gap.broken)
              else if (← rest).isEmpty then return (text, gap.broken)
              else readPlainParts least text gap fuel
            else return (text, gap.broken)
        | [] => return (text, gap.broken)

/-- Reads a plain scalar. -/
def readPlain : Scan Token := do
  let scanner ← get
  let (text, broken) ←
    readPlainParts (scanner.column + 1).toNat [] {} (scanner.rest.length + 1)
  if broken then allowKey true
  return .scalar (String.ofList text) true false

/-- The character that an escape by letter stands for. -/
def escaped? (letter : Char) : Option Char :=
  match letter with
  | '0' => some '\x00'
  | 'a' => some '\x07'
  | 'b' => some '\x08'
  | 't' | '\t' => some '\t'
  | 'n' => some '\n'
  | 'v' => some '\x0b'
  | 'f' => some '\x0c'
  | 'r' => some '\r'
  | 'e' => some '\x1b'
  | ' ' => some ' '
  | '"' => some '"'
  | '\'' => some '\''
  | '/' => some '/'
  | '\\' => some '\\'
  | 'N' => some '\u0085'
  | '_' => some '\u00A0'
  | 'L' => some '\u2028'
  | 'P' => some '\u2029'
  | _ => none

/-- The number of digits of an escape by number. -/
def escapeLength? (letter : Char) : Option Nat :=
  match letter with
  | 'x' => some 2
  | 'u' => some 4
  | 'U' => some 8
  | _ => none

/-- Reads an escape behind its backslash. -/
def readEscape : Scan Char := do
  match ← rest with
  | [] => refuse
  | letter :: after => do
      skip
      match escapeLength? letter with
      | none => (escaped? letter : Option Char)
      | some length => do
          let digits := after.take length
          if digits.length < length then refuse
          let value ← (digits.foldl
            (fun value digit => do return (← value) * 16 + (← hexDigit? digit)) (some 0) :
              Option Nat)
          for _ in digits do skip
          if value.isValidChar then return Char.ofNat value else refuse

/-- Reads the characters of a quoted scalar up to a blank or its end; `true` if a line is joined. -/
def readQuotedWord (single : Bool) : (fuel : Nat) → Scan (List Char × Bool)
  | 0 => return ([], false)
  | fuel + 1 => do
      match ← rest with
      | [] => return ([], false)
      | char :: after =>
          if isBlank char || isBreak char then return ([], false)
          else if single && char = '\'' then
            if after.head? = some '\'' then do
              skip; skip
              let (more, joined) ← readQuotedWord single fuel
              return ('\'' :: more, joined)
            else return ([], false)
          else if !single && char = '"' then return ([], false)
          else if !single && char = '\\' then do
            skip
            if after.head?.any isBreak then do
              let _ ← readBreak
              return ([], true)
            else do
              let escape ← readEscape
              let (more, joined) ← readQuotedWord single fuel
              return (escape :: more, joined)
          else do
            skip
            let (more, joined) ← readQuotedWord single fuel
            return (char :: more, joined)

/-- Reads the parts of a quoted scalar up to its closing quote. -/
def readQuotedParts (single : Bool) (text : List Char) : (fuel : Nat) → Scan (List Char)
  | 0 => refuse
  | fuel + 1 => do
      if ← atDocumentMark then refuse
      if (← rest).isEmpty then refuse
      let (word, joined) ← readQuotedWord single (fuel + 1)
      let text := text ++ word
      let quote := if single then '\'' else '"'
      if !joined && (← rest).head? = some quote then do
        skip
        return text
      else do
        let gap ← readGap 0 { broken := joined } (fuel + 1)
        let between :=
          if gap.broken then
            if gap.first = ['\n'] then if gap.others.isEmpty then [' '] else gap.others
            else gap.first ++ gap.others
          else gap.blanks
        let text := text ++ between
        if (← rest).head? = some quote then do
          skip
          return text
        else readQuotedParts single text fuel

/-- Reads a quoted scalar. -/
def readQuoted (single : Bool) : Scan Token := do
  let fuel := (← rest).length + 1
  skip
  let text ← readQuotedParts single [] fuel
  return .scalar (String.ofList text) false false

/-- What happens to the line breaks at the end of a block scalar. -/
inductive Chomping where
  | strip
  | clip
  | keep
deriving DecidableEq

/-- Passes the empty lines of a block scalar, and finds its indentation if it is not known. -/
def readBlockBreaks (indent greatest : Nat) (breaks : List Char) :
    (fuel : Nat) → Scan (List Char × Nat)
  | 0 => return (breaks, greatest)
  | fuel + 1 => do
      let here ← column
      let wanted := indent - here
      let spaces := (← rest).takeWhile (· = ' ')
      for _ in (if indent = 0 then spaces else spaces.take wanted) do skip
      let here ← column
      let greatest := max greatest here
      match ← rest with
      | char :: _ =>
          if char = '\t' && (indent = 0 || here < indent) then refuse
          else if isBreak char then do
            let read ← readBreak
            readBlockBreaks indent greatest (breaks ++ read) fuel
          else return (breaks, greatest)
      | [] => return (breaks, greatest)

/-- Reads the empty lines of a block scalar; the answer holds its indentation. -/
def readBlockLead (indent : Nat) (fuel : Nat) : Scan (List Char × Nat) := do
  let (breaks, greatest) ← readBlockBreaks indent 0 [] fuel
  if indent = 0 then
    let outer := ((← get).column + 1).toNat
    return (breaks, max (max greatest outer) 1)
  else return (breaks, indent)

/-- Reads the lines of a block scalar and ends it as the chomping says. -/
def readBlockLines (literal : Bool) (chomping : Chomping) (indent : Nat)
    (text leadingBreak trailing : List Char) (leadingBlank : Bool) :
    (fuel : Nat) → Scan (List Char)
  | 0 => return text
  | fuel + 1 => do
      let here ← column
      let ahead ← rest
      if here = indent && !ahead.isEmpty then do
        let blank := ahead.head?.any isBlank
        let between :=
          if !literal && leadingBreak = ['\n'] && !leadingBlank && !blank then
            if trailing.isEmpty then [' '] else []
          else leadingBreak
        let line ← takeWhile fun char => !isBreak char
        let text := text ++ between ++ trailing ++ line
        let leadingBreak ← readBreak
        let (trailing, _) ← readBlockBreaks indent 0 [] (ahead.length + 1)
        readBlockLines literal chomping indent text leadingBreak trailing blank fuel
      else
        return match chomping with
          | .strip => text
          | .clip => text ++ leadingBreak
          | .keep => text ++ leadingBreak ++ trailing

/-- Reads the indicators behind the mark of a block scalar. -/
def readBlockIndicators : Scan (Chomping × Option Nat) := do
  let chomping? (char : Char) : Option Chomping :=
    if char = '+' then some .keep else if char = '-' then some .strip else none
  match ← rest with
  | first :: after =>
      match chomping? first with
      | some chomping => do
          skip
          match after with
          | digit :: _ =>
              if digit.isDigit then do
                skip
                if digit = '0' then refuse
                else return (chomping, some (digit.toNat - '0'.toNat))
              else return (chomping, none)
          | [] => return (chomping, none)
      | none =>
          if first.isDigit then do
            skip
            if first = '0' then refuse
            let increment := some (first.toNat - '0'.toNat)
            match after.head?.bind chomping? with
            | some chomping => do skip; return (chomping, increment)
            | none => return (.clip, increment)
          else return (.clip, none)
  | [] => return (.clip, none)

/-- Reads a block scalar. -/
def readBlock (literal : Bool) : Scan Token := do
  let fuel := (← rest).length + 1
  skip
  let (chomping, increment) ← readBlockIndicators
  let _ ← takeWhile isBlank
  skipComment
  if !endsLine (← rest) then refuse
  let _ ← readBreak
  let outer := (← get).column
  let indent :=
    match increment with
    | none => 0
    | some increment => (if 0 ≤ outer then outer.toNat else 0) + increment
  let (trailing, indent) ← readBlockLead indent fuel
  let text ← readBlockLines literal chomping indent [] [] trailing false fuel
  return .scalar (String.ofList text) false literal

/-! ## Tokens -/

/-- Whether a plain scalar may begin here. -/
def beginsPlain (flow : Bool) (char : Char) (after : List Char) : Bool :=
  !(isBlank char || "-?:,[]\x7b\x7d#&*!|>'\"%@`".toList.contains char) ||
    (char = '-' && !(after.head?.any isBlank)) ||
    (!flow && (char = '?' || char = ':') && !endsWord after)

/-- Opens a flow collection. -/
def openFlow (token : Token) : Scan Unit := do
  noteCandidate
  modify fun scanner => { scanner with candidates := none :: scanner.candidates }
  allowKey true
  skip
  emit token

/-- Closes a flow collection. -/
def closeFlow (token : Token) : Scan Unit := do
  dropCandidate
  modify fun scanner =>
    { scanner with
      candidates :=
        match scanner.candidates with
        | _ :: outer :: others => outer :: others
        | same => same }
  allowKey false
  skip
  emit token

/-- Takes the colon that may turn an earlier token into a key. -/
def readValueMark : Scan Unit := do
  match (← get).candidates with
  | some candidate :: others => do
      emitAt candidate.number .key
      openBlock candidate.place.column (some candidate.number) .blockMapping
      modify fun scanner => { scanner with candidates := none :: others }
      allowKey false
  | _ => do
      let flow ← inFlow
      if !flow then do
        if !(← get).keyAllowed then refuse
        openBlock (← column) none .blockMapping
      allowKey !flow
  skip
  emit .value

/-- Takes one token; `false` at the end of the document. -/
def readToken : Scan Bool := do
  skipBetween ((← rest).length + 1)
  dropStale
  closeBlocks (← column)
  let flow ← inFlow
  match ← rest with
  | [] => do
      closeBlocks (-1)
      dropCandidate
      return false
  | char :: after => do
      if (← column) = 0 && char = '%' then do
        closeBlocks (-1); dropCandidate; allowKey false
        emit (← readDirective)
      else if ← atDocumentMark then do
        closeBlocks (-1); dropCandidate; allowKey false
        skip; skip; skip
        emit (if char = '-' then .documentStart else .documentEnd)
      else if char = '[' then openFlow .flowSequence
      else if char = '\x7b' then openFlow .flowMapping
      else if char = ']' then closeFlow .flowSequenceEnd
      else if char = '\x7d' then closeFlow .flowMappingEnd
      else if char = ',' then do
        dropCandidate; allowKey true; skip
        emit .flowEntry
      else if char = '-' && endsWord after then do
        if !flow then do
          if !(← get).keyAllowed then refuse
          openBlock (← column) none .blockSequence
        dropCandidate; allowKey true; skip
        emit .blockEntry
      else if char = '?' && (flow || endsWord after) then do
        if !flow then do
          if !(← get).keyAllowed then refuse
          openBlock (← column) none .blockMapping
        dropCandidate; allowKey !flow; skip
        emit .key
      else if char = ':' && (flow || endsWord after) then readValueMark
      else if char = '*' then do
        noteCandidate; allowKey false
        emit (.alias (← readAnchor))
      else if char = '&' then do
        noteCandidate; allowKey false
        emit (.anchor (← readAnchor))
      else if char = '!' then do
        noteCandidate; allowKey false
        emit (.tag (← readTag))
      else if (char = '|' || char = '>') && !flow then do
        dropCandidate; allowKey true
        emit (← readBlock (char = '|'))
      else if char = '\'' || char = '"' then do
        noteCandidate; allowKey false
        emit (← readQuoted (char = '\''))
      else if beginsPlain flow char after then do
        noteCandidate; allowKey false
        emit (← readPlain)
      else refuse
      return true

/-- Takes all tokens; `fuel` exceeds their number. -/
def readAll : (fuel : Nat) → Scan Unit
  | 0 => return ()
  | fuel + 1 => do
      if ← readToken then readAll fuel else return ()

end Scan

/-- The tokens of a document. -/
def Token.ofChars? (chars : List Char) : Option (List Token) := do
  let body := if chars.head? = some '\uFEFF' then chars.drop 1 else chars
  if body.all Scan.isAllowed then do
    let (_, scanner) ← (Scan.readAll (body.length + 2)).run { rest := body }
    return scanner.tokens.toList
  else none

end RequestHub.Yaml
