import ProxyLog.Yaml.Folding

/-!
# Tokens of a configuration text

Indentation is made explicit: a block opens where a line is indented further than the block around
it, and closes where one is indented less. That something is a key shows only at the colon behind
it, so the place of what may be one is remembered, and the key mark is put in there later.

* `Token`: scalars, marks, and the openings and ends of blocks.
* `Scan`: the state of the reader of tokens; `Scan.step` reads one.
* `tokens? cs`: the tokens of a text; none if it has a fault.
-/

set_option autoImplicit false

namespace ProxyLog.Yaml

/-! ## Tokens and places -/

/-- The smallest parts of a document. -/
inductive Token
  | directive
  | documentStart
  | documentEnd
  | blockSequence
  | blockMapping
  | blockEnd
  | flowSequence
  | flowSequenceEnd
  | flowMapping
  | flowMappingEnd
  | entry
  | comma
  | key
  | value
  | plain (text : String)
  | quoted (text : String)
  deriving DecidableEq, Repr

/-- Where in the text something stands. -/
structure Place where
  index : Nat
  line : Nat
  column : Nat
  deriving DecidableEq, Repr

def Place.origin : Place := ⟨0, 0, 0⟩

/-- The place behind a character. A byte order mark takes no column. -/
def Place.past (p : Place) (c : Char) : Place :=
  if isBreak c then ⟨p.index + 1, p.line + 1, 0⟩
  else ⟨p.index + 1, p.line, if c = '\uFEFF' then p.column else p.column + 1⟩

/-- A token that is a key if a colon follows. -/
structure Candidate where
  /-- The number of tokens in front of it. -/
  position : Nat
  place : Place
  /-- It stands where only a key can stand. -/
  required : Bool

/-! ## State -/

/-- The state of the reader of tokens. -/
structure Scan where
  rest : List Char
  place : Place
  tokens : Array Token
  /-- The columns of the open blocks, innermost first. -/
  indents : List Nat
  /-- What may be a key between the innermost brackets. -/
  candidate : Option Candidate
  /-- What may be a key around each pair of open brackets, innermost first. -/
  outer : List (Option Candidate)
  /-- A key may stand here. -/
  keyAllowed : Bool

namespace Scan

/-- In front of a text. -/
def start (cs : List Char) : Scan := ⟨cs, .origin, #[], [], none, [], true⟩

def inFlow (s : Scan) : Bool := !s.outer.isEmpty

/-- Goes on to a later part of the text. -/
def moveTo (s : Scan) (rest : List Char) : Scan :=
  { s with rest := rest, place := (s.rest.take (s.rest.length - rest.length)).foldl Place.past s.place }

/-- Passes some characters. -/
def skip (s : Scan) (n : Nat) : Scan := s.moveTo (s.rest.drop n)

def emit (s : Scan) (t : Token) : Scan := { s with tokens := s.tokens.push t }

/-- Says whether a key may follow. -/
def allowKey (s : Scan) (allowed : Bool) : Scan := { s with keyAllowed := allowed }

/-! ## Keys -/

/-- Gives up what may have been a key. -/
def dropCandidate (s : Scan) : Option Scan :=
  if s.candidate.any (·.required) then none else some { s with candidate := none }

/-- Remembers the next token as one that may be a key. -/
def propose (s : Scan) : Option Scan :=
  if s.keyAllowed then do
    let required := !s.inFlow && s.indents.head? == some s.place.column
    let s ← s.dropCandidate
    pure { s with candidate := some ⟨s.tokens.size, s.place, required⟩ }
  else pure s

/-- What may have been a key is none any more: its line is over, or it is too long. -/
def isStale (p : Place) (c : Candidate) : Bool := c.place.line != p.line || c.place.index + 1024 < p.index

/-- Gives up everything that can be a key no more. -/
def dropStale (s : Scan) : Option Scan :=
  let stale := (s.candidate :: s.outer).filterMap (·.filter (isStale s.place))
  if stale.any (·.required) then none
  else
    let keep := fun (c : Option Candidate) => c.filter (!isStale s.place ·)
    some { s with candidate := keep s.candidate, outer := s.outer.map keep }

/-! ## Blocks -/

/-- Closes the innermost blocks whose columns belong to a class, unless brackets are open. -/
def closeBlocks (s : Scan) (p : Nat → Bool) : Scan :=
  if s.inFlow then s
  else
    { s with
      tokens := s.tokens ++ (s.indents.takeWhile p).map fun _ => Token.blockEnd
      indents := s.indents.dropWhile p }

/-- A column lies further in than every open block. -/
def isDeeper (s : Scan) (column : Nat) : Bool := s.indents.head?.all (· < column)

/-- Opens a block at the present column if that lies further in. -/
def openBlock (s : Scan) (t : Token) : Scan :=
  if s.isDeeper s.place.column then { s.emit t with indents := s.place.column :: s.indents } else s

/-! ## Marks -/

/-- Adds the token of a mark and passes it. -/
def mark (s : Scan) (t : Token) (width : Nat) : Scan := (s.emit t).skip width

/-- A mark that starts or ends a document, or a directive, closes all blocks. -/
def endDocument (s : Scan) : Option Scan := do
  let s ← (s.closeBlocks fun _ => true).dropCandidate
  pure (s.allowKey false)

def openFlow (s : Scan) (t : Token) : Option Scan := do
  let s ← s.propose
  pure (({ s with candidate := none, outer := s.candidate :: s.outer }.allowKey true).mark t 1)

def closeFlow (s : Scan) (t : Token) : Option Scan :=
  match s.outer with
  | [] => none
  | candidate :: outer => some (({ s with candidate := candidate, outer := outer }.allowKey false).mark t 1)

def comma (s : Scan) : Option Scan := do
  let s ← s.dropCandidate
  pure ((s.allowKey true).mark .comma 1)

/-- A hyphen in front of an entry of a sequence. -/
def entry (s : Scan) : Option Scan := do
  if !s.inFlow && !s.keyAllowed then none
  let s := if s.inFlow then s else s.openBlock .blockSequence
  let s ← (s.allowKey true).dropCandidate
  pure (s.mark .entry 1)

/-- A question mark in front of a key. -/
def key (s : Scan) : Option Scan := do
  if !s.inFlow && !s.keyAllowed then none
  let s := if s.inFlow then s else s.openBlock .blockMapping
  let s ← (s.allowKey !s.inFlow).dropCandidate
  pure (s.mark .key 1)

/-- A colon behind the key that was remembered: the key mark goes in front of it, and so does the
opening of a mapping if the key stands further in than the block around it. -/
def valueOf (s : Scan) (c : Candidate) : Scan :=
  let opens := !s.inFlow && s.isDeeper c.place.column
  let marks := if opens then #[Token.blockMapping, .key] else #[.key]
  { s with
    tokens := s.tokens.extract 0 c.position ++ marks ++ s.tokens.extract c.position s.tokens.size
    indents := if opens then c.place.column :: s.indents else s.indents
    candidate := none
    keyAllowed := false }

/-- A colon in front of a value. -/
def value (s : Scan) : Option Scan :=
  match s.candidate with
  | some c => some ((s.valueOf c).mark .value 1)
  | none => do
    if !s.inFlow && !s.keyAllowed then none
    let s := if s.inFlow then s else s.openBlock .blockMapping
    pure ((s.allowKey !s.inFlow).mark .value 1)

/-! ## Scalars and directives -/

/-- Adds a scalar. -/
def scalar (s : Scan) (t : String → Token) (w : Written) : Scan :=
  ((s.emit (t (String.ofList w.text))).moveTo w.rest).allowKey w.lineEnded

/-- The column from which the lines of a scalar in the innermost block may start. -/
def scalarIndent (s : Scan) : Nat := s.indents.head?.elim 0 (· + 1)

/-- A scalar without quotes. -/
def plain (s : Scan) : Option Scan := do
  let s ← s.propose
  pure (s.scalar .plain (plainScalar s.inFlow s.scalarIndent s.rest))

/-- A scalar with quotes. -/
def quoted (s : Scan) (read : List Char → Option Written) : Option Scan := do
  let s ← s.propose
  pure (s.scalar .quoted (← read (s.rest.drop 1)))

/-- A directive. Only that for the version is known, which has to be 1 point something; directives
of other names are passed over. -/
def directive (s : Scan) : Option Scan := do
  let s ← s.endDocument
  let line := (s.rest.takeWhile (!isBreak ·)).drop 1
  let isNameChar := fun (c : Char) => c.isAlphanum || c == '-' || c == '_'
  let name := line.takeWhile isNameChar
  let rest := line.dropWhile isNameChar
  if name.isEmpty || !(rest.head?.all (· == ' ')) || name == "TAG".toList then none
  if name == "YAML".toList then
    let version := rest.dropWhile (· == ' ')
    let minor := (version.drop 2).takeWhile Text.isAsciiDigit
    let tail := ((version.drop 2).dropWhile Text.isAsciiDigit)
    if version.take 2 != ['1', '.'] || minor.isEmpty || !(tail.head?.all (· == ' ')) ||
        !((tail.dropWhile (· == ' ')).head?.all (· == '#')) then none
  pure (s.mark .directive (line.length + 1))

/-! ## Reading -/

/-- Passes spaces, comments and line breaks. `breaks` says that a line break was passed. -/
def passGap (inComment breaks : Bool) : List Char → Bool × List Char
  | [] => (breaks, [])
  | c :: rest =>
    if isBreak c then passGap false true rest
    else if inComment then passGap true breaks rest
    else if c = ' ' then passGap false breaks rest
    else if c = '#' then passGap true breaks rest
    else (breaks, c :: rest)

/-- The text from the next token on. A byte order mark at the very start is passed over; a key may
stand on a new line unless brackets are open. -/
def toNextToken (s : Scan) : Scan :=
  let s := if s.place.index = 0 && s.rest.head? == some '\uFEFF' then s.skip 1 else s
  let (breaks, rest) := passGap false false s.rest
  let s := s.moveTo rest
  if breaks && !s.inFlow then s.allowKey true else s

/-- A plain scalar can start with this text. -/
def startsPlain (inFlow : Bool) : List Char → Bool
  | [] => false
  | c :: rest =>
    !(isGap c || "-?:,[]\x7b\x7d#&*!|>'\"%@\x60".toList.contains c) ||
      (!atGap rest && (c == '-' || (!inFlow && (c == '?' || c == ':'))))

/-- Reads the token that the text starts with. Anchors, aliases, tags and block scalars are not
part of the notation. -/
def token (s : Scan) : Option Scan :=
  let atStart := s.place.column == 0
  match s.rest with
  | [] => none
  | c :: rest =>
    if c = '%' && atStart then s.directive
    else if c = '-' && atStart && atDocumentMark s.rest then s.endDocument.map (·.mark .documentStart 3)
    else if c = '.' && atStart && atDocumentMark s.rest then s.endDocument.map (·.mark .documentEnd 3)
    else if c = '[' then s.openFlow .flowSequence
    else if c = '\x7b' then s.openFlow .flowMapping
    else if c = ']' then s.closeFlow .flowSequenceEnd
    else if c = '\x7d' then s.closeFlow .flowMappingEnd
    else if c = ',' then s.comma
    else if c = '-' && atGap rest then s.entry
    else if c = '?' && (s.inFlow || atGap rest) then s.key
    else if c = ':' && (s.inFlow || atGap rest) then s.value
    else if c = '\'' then s.quoted singleQuoted
    else if c = '"' then s.quoted doubleQuoted
    else if startsPlain s.inFlow s.rest then s.plain
    else none

/-- Reads the next token and closes the blocks that end in front of it. -/
def step (s : Scan) : Option Scan := do
  let s ← s.toNextToken.dropStale
  let column := s.place.column
  let s := s.closeBlocks (column < ·)
  if s.rest.isEmpty then s.endDocument else s.token

/-- Reads tokens to the end of the text. Each takes a character at least, so that `fuel` need not
exceed their number. -/
def run (s : Scan) : Nat → Option Scan
  | 0 => none
  | fuel + 1 => do
    let s ← s.step
    if s.rest.isEmpty then s.step else s.run fuel

end Scan

def tokens? (cs : List Char) : Option (List Token) :=
  ((Scan.start cs).run (cs.length + 1)).map (·.tokens.toList)

end ProxyLog.Yaml
