import ProxyLog.Text.Case
import ProxyLog.Record.Basic

/-!
# Header names

* `isTokenName cs`: the text is a header token; a line feed at its very end is let through.
* `canonicalName name`: the name with each hyphen-separated part capitalised; a name that is no
  token stays as it is.
* `SameName a b`: the names are spellings of one name.
* `isProxyManaged name`: the proxy changes this header of a client request on its own account.
* `HeaderLine.isManaged h`: the header line is such a header of a client request.
-/

set_option autoImplicit false

namespace ProxyLog

/-! ## Tokens -/

/-- The characters that a token may have besides letters and digits. -/
def tokenMarks : List Char :=
  ['!', '#', '$', '%', '&', '\'', '*', '+', '-', '.', '^', '_', '\x60', '|', '~']

def isTokenChar (c : Char) : Bool := c.isAlphanum || tokenMarks.contains c

/-- The text without one line feed at its end. -/
def dropFinalFeed (cs : List Char) : List Char :=
  if cs.getLast? = some '\n' then cs.dropLast else cs

/-- The text is a header token. -/
def isTokenName (cs : List Char) : Bool :=
  !(dropFinalFeed cs).isEmpty && (dropFinalFeed cs).all isTokenChar

/-! ## Canonical form -/

/-- Upper case at the start and after each hyphen, lower case elsewhere. -/
def recase (start : Bool) : List Char → List Char
  | [] => []
  | c :: cs => (if start then Text.asciiUpper c else Text.asciiLower c) :: recase (c == '-') cs

/-- The canonical form of a header name, as characters. -/
def canonicalChars (cs : List Char) : List Char := if isTokenName cs then recase true cs else cs

def canonicalName (name : String) : String := String.ofList (canonicalChars name.toList)

/-- Two spellings of one name: the same text, or tokens that differ at most in the case of letters. -/
def SameName (a b : String) : Prop :=
  a = b ∨ (isTokenName a.toList ∧ isTokenName b.toList ∧
    a.toList.map Text.asciiLower = b.toList.map Text.asciiLower)

instance (a b : String) : Decidable (SameName a b) := by unfold SameName; infer_instance

/-- The one header that never has more than one value. -/
def hostName : String := "Host"

/-! ## Headers that the proxy manages -/

/-- The headers of a client request that the proxy changes before any processing. -/
def proxyManaged : List String := [
  "Via", "X-Forwarded-For", "X-Varnish", "Age", "Connection", "Keep-Alive", "Proxy-Authenticate",
  "Proxy-Authorization", "Te", "Trailer", "Transfer-Encoding", "Upgrade"]

def isProxyManaged (name : String) : Bool := proxyManaged.contains (canonicalName name)

/-- The line is about a managed header of a client request. -/
def HeaderLine.isManaged (h : HeaderLine) : Bool := h.direction == .request && isProxyManaged h.name

end ProxyLog
