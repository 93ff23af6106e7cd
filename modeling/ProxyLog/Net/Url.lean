import ProxyLog.Net.Address
import ProxyLog.Text.Case
import ProxyLog.Text.Span

/-!
# Split URLs

* `Url`: the five parts of a URL; a part that is absent is empty.
* `Url.ofText? s`: cuts a URL into its parts. Control characters and spaces in front are dropped,
  and tabs and line ends anywhere. Only brackets that hold an address of version 6 or later may
  stand in the authority, and no character that turns into a delimiter when it is normalised.
-/

set_option autoImplicit false

namespace ProxyLog.Net

structure Url where
  scheme : String
  authority : String
  path : String
  query : String
  fragment : String
  deriving DecidableEq, Repr

/-! ## Scheme -/

def isSchemeChar (c : Char) : Bool := c.isAlphanum || c == '+' || c == '-' || c == '.'

/-- The scheme in lower case, and what follows its colon. -/
def takeScheme (cs : List Char) : List Char × List Char :=
  match cutFirst ':' cs with
  | (c :: name, some rest) =>
    if c.isAlpha && name.all isSchemeChar then ((c :: name).map Text.asciiLower, rest) else ([], cs)
  | _ => ([], cs)

/-! ## Authority -/

/-- The characters beyond ASCII whose compatibility form holds `/`, `?`, `#`, `@` or `:`. -/
def delimiterLookalikes : List (Nat × Nat) := [
  (0x2047, 0x2049), (0x2100, 0x2101), (0x2105, 0x2106), (0x2a74, 0x2a74), (0xfe13, 0xfe13),
  (0xfe16, 0xfe16), (0xfe55, 0xfe56), (0xfe5f, 0xfe5f), (0xfe6b, 0xfe6b), (0xff03, 0xff03),
  (0xff0f, 0xff0f), (0xff1a, 0xff1a), (0xff1f, 0xff20)]

/-- The text of a future address version: `v`, hexadecimal digits, a full stop and something. -/
def isFutureAddress : List Char → Bool
  | 'v' :: cs =>
    let rest := cs.dropWhile fun c => (Text.hexValue? c).isSome
    rest.length < cs.length && rest.head? == some '.' && rest.length > 1
  | _ => false

/-- What may stand between brackets. -/
def isBracketHost (cs : List Char) : Bool :=
  if cs.head? == some 'v' then isFutureAddress cs
  else match Address.ofText? (String.ofList cs) with
    | some address => address.version == 6
    | none => false

/-- The text behind the last at sign. -/
def afterUser (cs : List Char) : List Char := (pieces '@' cs).getLastD []

/-- An authority with brackets names its host by an address, behind which there is nothing or a colon. -/
def bracketsFit (authority : List Char) : Bool :=
  let host := afterUser authority
  match cutFirst '[' host with
  | (before, some bracketed) =>
    let (address, behind) := cutFirst ']' bracketed
    before.isEmpty && (behind.getD []).head?.all (· == ':') && isBracketHost address
  | (_, none) => isBracketHost (cutFirst ':' host).1

/-- The authority is one that a URL may have. -/
def isAuthority (cs : List Char) : Bool :=
  ((cs.contains '[') == (cs.contains ']')) && (!cs.contains '[' || bracketsFit cs) &&
    !cs.any fun c => Text.inSpans delimiterLookalikes c.toNat

/-- The character ends the authority. -/
def endsAuthority (c : Char) : Bool := c == '/' || c == '?' || c == '#'

/-- The authority after two slashes, and what follows it. -/
def takeAuthority : List Char → List Char × List Char
  | '/' :: '/' :: cs => (cs.takeWhile fun c => !endsAuthority c, cs.dropWhile fun c => !endsAuthority c)
  | cs => ([], cs)

/-! ## The whole -/

/-- The text of a URL without what is dropped before it is cut. -/
def cleanUrl (cs : List Char) : List Char :=
  (cs.dropWhile fun c => c.toNat ≤ 0x20).filter fun c => !(c == '\t' || c == '\r' || c == '\n')

def Url.ofText? (s : String) : Option Url :=
  let (scheme, afterScheme) := takeScheme (cleanUrl s.toList)
  let (authority, afterAuthority) := takeAuthority afterScheme
  if isAuthority authority then
    let (beforeFragment, fragment) := cutFirst '#' afterAuthority
    let (path, query) := cutFirst '?' beforeFragment
    some
      { scheme := String.ofList scheme
        authority := String.ofList authority
        path := String.ofList path
        query := String.ofList (query.getD [])
        fragment := String.ofList (fragment.getD []) }
  else none

end ProxyLog.Net
