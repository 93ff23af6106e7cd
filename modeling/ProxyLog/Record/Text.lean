import ProxyLog.Net.Query
import ProxyLog.Record.Basic

/-!
# The text of a record

* `sizeText n`: a number of octets in the largest unit that is not greater, with three decimal
  places; none when the number of units is too large for a double.
* `Record.text r`: a readable line for a record. Families without a form of their own show tag and
  value.
* `Net.Url.canonicalQuery u`: the query of a URL in canonical form.
-/

set_option autoImplicit false

namespace ProxyLog

/-! ## Sizes -/

/-- A size that cannot be shown. -/
inductive SizeFault
  | tooLarge
  deriving DecidableEq, Repr

def SizeFault.message : SizeFault → String
  | tooLarge => "integer division result too large for a float"

/-- The units of size, largest first. -/
def sizeUnits : List (Nat × String) :=
  [(Nat.pow 1024 5, "PB"), (Nat.pow 1024 4, "TB"), (Nat.pow 1024 3, "GB"), (Nat.pow 1024 2, "MB"),
    (1024, "KB")]

def sizeText (octets : Int) : Except SizeFault String :=
  match sizeUnits.find? fun (factor, _) => decide ((factor : Int) ≤ octets) with
  | none => .ok s!"{octets}B"
  | some (factor, unit) =>
    match Number.Binary64.ofQuotient false octets.toNat factor with
    | .finite negative mantissa exponent => .ok (Number.fixedText 3 negative mantissa exponent ++ unit)
    | _ => .error .tooLarge

/-! ## Parts of records -/

/-- The query of a URL in canonical form. -/
def Net.Url.canonicalQuery (u : Net.Url) : String := Query.canonical u.query

/-- The sizes of the headers, the body and the whole of what went one way. -/
def flowText (header body total : Int) : Except SizeFault String := do
  let header ← sizeText header
  let body ← sizeText body
  let total ← sizeText total
  pure s!"hdr {header}, body {body}, total {total}"

def Traffic.text (t : Traffic) : Except SizeFault String := do
  let sent ← flowText t.headerSent t.bodySent t.totalSent
  let received ← flowText t.headerReceived t.bodyReceived t.totalReceived
  pure s!"Tx({sent}) | Rx({received})"

def LifetimeDates.text (d : LifetimeDates) : String :=
  s!", Age {d.age.timestamp}, Date {d.date.timestamp}" ++
    s!", Expires {d.expires.timestamp}, Max-Age {d.maxAge.text}"

/-- The text of a lifetime; the dates count only when the response itself was the source. -/
def Lifetime.text (l : Lifetime) : String :=
  let times := s!"TTL {l.ttl.text}, Grace {l.grace.text}, Keep {l.keep.text}"
  let dates :=
    match l.dates with
    | some d => if l.source = "RFC" then d.text else ""
    | none => ""
  s!"{l.source} | {times}, Reference {l.reference.timestamp}" ++ dates ++ " | " ++ l.status

def Hit.text (h : Hit) : String :=
  let part (label : String) : Option Duration → String
    | some d => s!" | {label}: {d.text}"
    | none => ""
  s!"{h.object} | TTL: {h.ttl.text}" ++ part "Grace" h.grace ++ part "Keep" h.keep

/-- The word for a letter, or the letter itself. -/
def wordFor (table : List (String × String)) (letter : String) : String :=
  (table.lookup letter).getD letter

def GzipRun.text (g : GzipRun) : Except SizeFault String := do
  let action := wordFor [("G", "Gzip"), ("U", "Gunzip"), ("u", "Gunzip-test")] g.action
  let stage := wordFor [("F", "Fetch"), ("D", "Deliver")] g.stage
  let object := wordFor [("E", "ESI"), ("-", "Plain")] g.object
  let input ← sizeText g.inputOctets
  let output ← sizeText g.outputOctets
  pure (s!"{action} on {stage} for {object} object | {input} input | {output} output" ++
    s!" | {g.firstBit} {g.lastBit} {g.bitLength}")

/-! ## Records -/

/-- Tag and value, without blanks at the end. -/
def Record.plainText (r : Record) : String :=
  String.ofList (Text.trimEnd (r.tag ++ " " ++ r.value).toList)

/-- The readable text of a record. -/
def Record.text (r : Record) : Except SizeFault String :=
  match r.payload with
  | .traffic octets => octets.text
  | .timing point =>
    .ok s!"{point.label} | Elapsed: {point.sinceLast.text} | Total: {point.sinceStart.text}"
  | .sessionOpen s =>
    .ok (s!"{s.remote.text}:{s.remotePort} {s.socket} {s.localEnd.text}:{s.localPort}" ++
      s!" ({s.start.text}) {s.descriptor}")
  | .sessionClose s => .ok s!"{s.reason} {s.duration.text}"
  | .backendOpen b => .ok s!"{b.name} ({b.remote.text}:{b.remotePort}) {b.reason}"
  | .hit hit => .ok hit.text
  | .lifetime lifetime => .ok lifetime.text
  | .length octets => sizeText octets
  | .gzip run => run.text
  | .vclLog message => .ok (if message.key = "" then message.text else s!"{message.key}: {message.text}")
  | _ => .ok r.plainText

end ProxyLog
