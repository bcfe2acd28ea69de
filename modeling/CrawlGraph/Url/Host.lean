import CrawlGraph.Domain.Name
import CrawlGraph.Url.Address
import CrawlGraph.Url.Percent

/-!
# Hosts

The host of a web URL is a domain name in its ASCII form or a numeric address. A name that ends in
a number has to be an IPv4 address.
-/

namespace CrawlGraph.Url

/-- The host of a web URL. -/
inductive Host where
  | domain (name : List Char)
  | ipv4 (address : Nat)
  | ipv6 (pieces : List Nat)
  deriving DecidableEq, Repr

namespace Host

/-- The text between square brackets that enclose all of it. -/
def insideBrackets? (cs : List Char) : Option (List Char) :=
  match cs with
  | '[' :: rest => if rest.getLast? = some ']' then some rest.dropLast else none
  | _ => none

/-- The host of an ASCII name, which is not empty. -/
def ofAscii? (name : List Char) : Option Host :=
  if name = [] then none
  else if endsInNumber name then (ipv4? name).map ipv4
  else some (domain name)

/-- The host that a text names. -/
def ofText? (cs : List Char) : Option Host :=
  if cs.head? = some '[' then (insideBrackets? cs).bind fun inside => (ipv6? inside).map ipv6
  else (percentDecode? cs).bind fun decoded => (Domain.ascii? decoded).bind ofAscii?

/-- The text of a host. -/
def text : Host → List Char
  | domain name => name
  | ipv4 address => ipv4Text address
  | ipv6 pieces => '[' :: ipv6Text pieces ++ [']']

/-- The characters that end a URL or a part of it, and so cannot stand in any host. -/
def isForbiddenOpaque (c : Char) : Bool :=
  "\x00\t\n\r #/:<>?@[\\]^|".toList.contains c

/-- Whether a text may be the host of a URL with a scheme of its own rules: an address in
    brackets, or any text without the characters that delimit the parts of a URL. -/
def isOpaque (cs : List Char) : Bool :=
  if cs.head? = some '[' then ((insideBrackets? cs).bind ipv6?).isSome
  else cs ≠ [] && cs.all fun c => !isForbiddenOpaque c

end Host

end CrawlGraph.Url
