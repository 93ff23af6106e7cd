import ProxyLog.Number.Digits

/-!
# Scalars as they are written

A scalar may go on over several lines. Between two of its parts one line break counts as a space,
and of several the first is dropped.

* `isBreak`, `isGap`: the characters that end a line, and those that end a word.
* `atDocumentMark cs`: a line that starts with `---` or `...`.
* `plainScalar inFlow indent cs`: a scalar without quotes.
* `singleQuoted cs`, `doubleQuoted cs`: a scalar with quotes, from behind its opening quote.
-/

set_option autoImplicit false

namespace ProxyLog.Yaml

/-! ## Characters -/

/-- The characters that end a line, once carriage returns are joined with line feeds. -/
def isBreak (c : Char) : Bool := c == '\n' || c == '\u0085' || c == '\u2028' || c == '\u2029'

/-- The characters that end a word. -/
def isGap (c : Char) : Bool := c == ' ' || c == '\t' || isBreak c

/-- A word ends here: the text does, or a gap follows. -/
def atGap (cs : List Char) : Bool := cs.head?.all isGap

/-- A line break as it counts in a scalar. -/
def breakChar (c : Char) : Char := if c = '\u0085' then '\n' else c

/-- The text starts with three hyphens or three full stops and a gap. -/
def atDocumentMark : List Char → Bool
  | '-' :: '-' :: '-' :: rest | '.' :: '.' :: '.' :: rest => atGap rest
  | _ => false

/-! ## Line folding -/

/-- What stands at the start of a line inside a scalar. -/
inductive NextLine
  /-- A document mark. -/
  | mark (rest : List Char)
  /-- Further line breaks, then content in some column. -/
  | content (breaks : List Char) (column : Nat) (rest : List Char)

/-- Passes padding and empty lines; `breaks` are the line breaks so far, last first. -/
def lineContent (isPad : Char → Bool) (breaks : List Char) (column : Nat) : List Char → NextLine
  | [] => .content breaks.reverse column []
  | c :: rest =>
    if isBreak c then
      if atDocumentMark rest then .mark rest
      else lineContent isPad (breakChar c :: breaks) 0 rest
    else if isPad c then lineContent isPad breaks (column + 1) rest
    else .content breaks.reverse column (c :: rest)

/-- What stands behind a line break. -/
def nextLine (isPad : Char → Bool) (rest : List Char) : NextLine :=
  if atDocumentMark rest then .mark rest else lineContent isPad [] 0 rest

/-- What a line break and those after it count for. -/
def foldedBreaks (first : Char) (more : List Char) : List Char :=
  if breakChar first ≠ '\n' then first :: more else if more.isEmpty then [' '] else more

/-! ## Plain scalars -/

/-- A scalar that was read. -/
structure Written where
  text : List Char
  rest : List Char
  /-- A line break was passed behind the scalar. -/
  lineEnded : Bool

/-- A plain scalar ends in front of this text: a gap, a colon that is followed by one, or inside
brackets one of the marks that have a meaning there. -/
def endsPlain (inFlow : Bool) : List Char → Bool
  | [] => true
  | c :: rest =>
    isGap c || (c == ':' && (atGap rest || (inFlow && rest.head?.any (",[]\x7b\x7d".toList.contains ·)))) ||
      (inFlow && ",?[]\x7b\x7d".toList.contains c)

/-- The part of a plain scalar up to the next gap, and what follows. -/
def plainPart (inFlow : Bool) : List Char → List Char × List Char
  | [] => ([], [])
  | c :: rest =>
    if endsPlain inFlow (c :: rest) then ([], c :: rest)
    else
      let (part, rest) := plainPart inFlow rest
      (c :: part, rest)

/-- What stands between a part of a plain scalar and the next one. -/
inductive PlainGap
  /-- The scalar ends, in front of a mark or of a line that does not belong to it. -/
  | stop (rest : List Char) (lineEnded : Bool)
  /-- The scalar may go on behind this gap. -/
  | go (gap rest : List Char) (lineEnded : Bool)

/-- Reads the gap behind a part of a plain scalar, whose lines are indented by `indent` at least
unless it stands inside brackets. -/
def plainGap (inFlow : Bool) (indent : Nat) (cs : List Char) : PlainGap :=
  let spaces := cs.takeWhile (· == ' ')
  match cs.dropWhile (· == ' ') with
  | [] => .stop [] false
  | c :: rest =>
    if isBreak c then
      match nextLine (· == ' ') rest with
      | .mark rest => .stop rest true
      | .content breaks column rest =>
        if rest.head? = some '#' || (!inFlow && column < indent) then .stop rest true
        else .go (foldedBreaks c breaks) rest true
    else if spaces.isEmpty || c == '#' then .stop (c :: rest) false
    else .go spaces (c :: rest) false

/-- Reads on in a plain scalar: `out` was read, and `gap` stands behind it. Each round takes a
character at least, so that `fuel` need not exceed their number. -/
def plainParts (inFlow : Bool) (indent : Nat) (out gap : List Char) (lineEnded : Bool) (cs : List Char) :
    Nat → Written
  | 0 => ⟨out, cs, lineEnded⟩
  | fuel + 1 =>
    match plainPart inFlow cs with
    | ([], rest) => ⟨out, rest, lineEnded⟩
    | (part, rest) =>
      let out := out ++ gap ++ part
      match plainGap inFlow indent rest with
      | .stop rest lineEnded => ⟨out, rest, lineEnded⟩
      | .go gap rest lineEnded => plainParts inFlow indent out gap lineEnded rest fuel

/-- A plain scalar and what follows it. -/
def plainScalar (inFlow : Bool) (indent : Nat) (cs : List Char) : Written :=
  plainParts inFlow indent [] [] false cs cs.length

/-! ## Quoted scalars -/

/-- Spaces and tabulators pad the lines of a quoted scalar. -/
def isPadding (c : Char) : Bool := c == ' ' || c == '\t'

/-- The gap at the start of a quoted text, if one stands there that does not end the scalar. -/
def quotedGap? (cs : List Char) : Option (List Char × List Char) :=
  match cs.dropWhile isPadding with
  | [] => none
  | c :: rest =>
    if isBreak c then
      match nextLine isPadding rest with
      | .mark _ => none
      | .content breaks _ rest => some (foldedBreaks c breaks, rest)
    else some (cs.takeWhile isPadding, c :: rest)

/-- Reads a scalar in single quotes, in which two quotes stand for one. -/
def singleQuotedFrom (out : List Char) (cs : List Char) : Nat → Option Written
  | 0 => none
  | fuel + 1 =>
    match cs with
    | [] => none
    | '\'' :: '\'' :: rest => singleQuotedFrom ('\'' :: out) rest fuel
    | '\'' :: rest => some ⟨out.reverse, rest, false⟩
    | c :: rest =>
      if isGap c then do
        let (gap, rest) ← quotedGap? (c :: rest)
        singleQuotedFrom (gap.reverse ++ out) rest fuel
      else singleQuotedFrom (c :: out) rest fuel

/-- A scalar in single quotes, from behind the first. -/
def singleQuoted (cs : List Char) : Option Written := singleQuotedFrom [] cs (cs.length + 1)

/-- The characters that an escape of one letter stands for. -/
def escapeOf? : Char → Option Char
  | '0' => some '\x00'
  | 'a' => some '\x07'
  | 'b' => some '\x08'
  | 't' | '\t' => some '\t'
  | 'n' => some '\n'
  | 'v' => some '\x0b'
  | 'f' => some '\x0c'
  | 'r' => some '\r'
  | 'e' => some '\x1b'
  | ' ' => some ' '
  | '"' => some '"'
  | '\\' => some '\\'
  | '/' => some '/'
  | 'N' => some '\u0085'
  | '_' => some '\u00a0'
  | 'L' => some '\u2028'
  | 'P' => some '\u2029'
  | _ => none

/-- The number of hexadecimal digits behind an escape letter. -/
def escapeWidth? : Char → Option Nat
  | 'x' => some 2
  | 'u' => some 4
  | 'U' => some 8
  | _ => none

/-- The character of a code point. -/
def charOf? (n : Nat) : Option Char := if h : n.isValidChar then some (Char.ofNatAux n h) else none

/-- What an escape stands for, from behind its backslash, and what follows it. An escaped line
break counts for nothing, and those after it for themselves. -/
def escape? : List Char → Option (List Char × List Char)
  | [] => none
  | c :: rest =>
    match escapeOf? c, escapeWidth? c with
    | some d, _ => some ([d], rest)
    | none, some width => do
      let digits := rest.take width
      let values ← digits.mapM Text.hexValue?
      if values.length < width then none
      let d ← charOf? (values.foldl (fun n v => 16 * n + v) 0)
      pure ([d], rest.drop width)
    | none, none =>
      if isBreak c then
        match nextLine isPadding rest with
        | .mark _ => none
        | .content breaks _ rest => some (breaks, rest)
      else none

/-- Reads a scalar in double quotes. -/
def doubleQuotedFrom (out : List Char) (cs : List Char) : Nat → Option Written
  | 0 => none
  | fuel + 1 =>
    match cs with
    | [] => none
    | '"' :: rest => some ⟨out.reverse, rest, false⟩
    | '\\' :: rest => do
      let (chars, rest) ← escape? rest
      doubleQuotedFrom (chars.reverse ++ out) rest fuel
    | c :: rest =>
      if isGap c then do
        let (gap, rest) ← quotedGap? (c :: rest)
        doubleQuotedFrom (gap.reverse ++ out) rest fuel
      else doubleQuotedFrom (c :: out) rest fuel

/-- A scalar in double quotes, from behind the first. -/
def doubleQuoted (cs : List Char) : Option Written := doubleQuotedFrom [] cs (cs.length + 1)

end ProxyLog.Yaml
