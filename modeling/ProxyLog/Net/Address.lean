import ProxyLog.Text.Digit
import ProxyLog.Text.Quoted
import ProxyLog.Number.Decimal

/-!
# Network addresses

* `pieces sep cs`: the parts of a text between separators, at least one.
* `Address`: an address of four octets, or of eight groups of 16 bits with an optional scope.
* `Address.ofText? s`: the address that a text writes; octets have no leading zeros, and one `::`
  stands for at least one zero group.
* `Address.text a`: the canonical text; the longest run of at least two zero groups, the first of
  equals, becomes `::`.
-/

set_option autoImplicit false

namespace ProxyLog.Net

/-! ## Parts between separators -/

/-- The parts of a text between separators. -/
def pieces (sep : Char) : List Char → List (List Char)
  | [] => [[]]
  | c :: cs =>
    if c = sep then [] :: pieces sep cs
    else (pieces sep cs).modifyHead (c :: ·)

/-- The text in front of the first separator, and what follows it if there is one. -/
def cutFirst (sep : Char) : List Char → List Char × Option (List Char)
  | [] => ([], none)
  | c :: cs =>
    if c = sep then ([], some cs)
    else ((c :: (cutFirst sep cs).1), (cutFirst sep cs).2)

/-! ## Addresses -/

/-- A network address. -/
inductive Address
  | v4 (octets : List Nat)
  | v6 (groups : List Nat) (scope : Option String)
  deriving DecidableEq, Repr

def Address.version : Address → Nat
  | .v4 _ => 4
  | .v6 _ _ => 6

/-- A decimal octet: up to three digits, no leading zero, at most 255. -/
def octet? (cs : List Char) : Option Nat :=
  if cs.isEmpty || !cs.all Text.isAsciiDigit || cs.length > 3 then none
  else if cs.length > 1 && cs.head? == some '0' then none
  else
    let n := Number.digitsValue cs
    if n ≤ 255 then some n else none

/-- Four octets between full stops. -/
def octets? (cs : List Char) : Option (List Nat) :=
  let parts := pieces '.' cs
  if parts.length = 4 then parts.mapM octet? else none

/-- A group: one to four hexadecimal digits. -/
def group? (cs : List Char) : Option Nat :=
  if cs.isEmpty || cs.length > 4 then none
  else (cs.mapM Text.hexValue?).map fun ds => ds.foldl (fun n d => 16 * n + d) 0

/-- The parts before and after an empty inner part, if there is just one, or `none` if there is
none; more than one is a fault. -/
inductive Gap
  | absent
  | one (before after : List (List Char))
  | several

/-- The empty part among the inner parts of an address. -/
def findGap (parts : List (List Char)) : Gap :=
  let inner := (parts.drop 1).dropLast
  match inner.findIdx? List.isEmpty with
  | none => .absent
  | some i =>
    if (inner.drop (i + 1)).any List.isEmpty then .several
    else .one (parts.take (i + 1)) (parts.drop (i + 2))

/-- An end of the address beside the gap; a lone empty part there belongs to the gap. -/
def besideGap (parts : List (List Char)) : List (List Char) :=
  if parts = [[]] then [] else parts

/-- The groups of parts between colons, none of them written as octets. -/
def groupsOf? (parts : List (List Char)) : Option (List Nat) :=
  match findGap parts with
  | .several => none
  | .absent => if parts.length = 8 then parts.mapM group? else none
  | .one before after => do
    let high ← (besideGap before).mapM group?
    let low ← (besideGap after).mapM group?
    if high.length + low.length < 8 then
      some (high ++ List.replicate (8 - high.length - low.length) 0 ++ low)
    else none

def hexText (n : Nat) : List Char := Nat.toDigits 16 n

/-- The parts with a last part of four octets taken as two groups. -/
def withoutOctets? (parts : List (List Char)) : Option (List (List Char)) :=
  match parts.getLast? with
  | some last =>
    if '.' ∈ last then
      match octets? last with
      | some [a, b, c, d] => some (parts.dropLast ++ [hexText (256 * a + b), hexText (256 * c + d)])
      | _ => none
    else some parts
  | none => none

/-- An address of eight groups, with a scope after a percent sign. -/
def groupsAddress? (cs : List Char) : Option Address := do
  let (body, scope) := cutFirst '%' cs
  match scope with
  | some [] => none
  | some zone => if '%' ∈ zone then none
  | none => pure ()
  let parts := pieces ':' body
  if parts.length < 3 then none
  let parts ← withoutOctets? parts
  if parts.length > 9 then none
  let groups ← groupsOf? parts
  some (.v6 groups (scope.map String.ofList))

/-- The address that a text writes. -/
def Address.ofText? (s : String) : Option Address :=
  let cs := s.toList
  if '/' ∈ cs then none
  else match octets? cs with
    | some octets => some (.v4 octets)
    | none => groupsAddress? cs

/-! ## Canonical text -/

/-- The length of the run of zeros at the start. -/
def zeroRun (groups : List Nat) : Nat := (groups.takeWhile (· == 0)).length

/-- Where the longest run of zeros starts, and its length; the first of equals. -/
def longestRun (groups : List Nat) : Nat × Nat :=
  (List.range groups.length).foldl
    (fun best i =>
      let n := zeroRun (groups.drop i)
      if n > best.2 then (i, n) else best)
    (0, 0)

/-- Groups between colons. -/
def groupsText (groups : List Nat) : String :=
  ":".intercalate (groups.map fun g => String.ofList (hexText g))

/-- The canonical text of an address. -/
def Address.text : Address → String
  | .v4 octets => ".".intercalate (octets.map toString)
  | .v6 groups scope =>
    let (start, size) := longestRun groups
    let body :=
      if size > 1 then groupsText (groups.take start) ++ "::" ++ groupsText (groups.drop (start + size))
      else groupsText groups
    match scope with
    | some zone => body ++ "%" ++ zone
    | none => body

end ProxyLog.Net
