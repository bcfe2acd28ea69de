import CrawlGraph.Text.Blank
import CrawlGraph.Url.Web

/-!
# Reading a URL

Crawl results name pages loosely: with or without a scheme, in any spelling that a browser would
take. `normalUrl?` gives the one text under which a page is kept.

1. `clean` takes out what every URL ignores, and `splitScheme?` parts the scheme from the rest.
2. `Reading.of` says what a text is: a web URL, another URL with a host, or neither. Of a URL that
   is no web URL it matters only whether it names a host.
3. `normalUrl?`: a web URL has its own text, another URL with a host is not kept, and all else is
   read again after `http://`.
-/

namespace CrawlGraph.Url

open CrawlGraph.Text

/-! ## 1. The text of a URL and its scheme -/

/-- The text without control characters and spaces at its ends, and without tabs and line breaks
    anywhere. -/
def clean (cs : List Char) : List Char :=
  (trimBy (· ≤ ' ') cs).filter fun c => !(c = '\t' || c = '\n' || c = '\r')

/-- Whether the character may stand in a scheme after its first one. -/
def isSchemeChar (c : Char) : Bool := c.isAlphanum || c = '+' || c = '-' || c = '.'

/-- The scheme in small letters, and what follows its colon. -/
def splitScheme? (cs : List Char) : Option (List Char × List Char) :=
  match cs.span isSchemeChar with
  | (first :: scheme, ':' :: rest) =>
    if first.isAlpha then some ((first :: scheme).map Char.toLower, rest) else none
  | _ => none

/-- How a scheme is read. -/
inductive Scheme where
  | web (secure : Bool)
  /-- A scheme with hosts as the web has them, and its usual port. -/
  | hosted (usualPort : Nat)
  | file
  | other
  deriving DecidableEq, Repr

/-- How the scheme with a name is read. -/
def Scheme.ofName (name : List Char) : Scheme :=
  if name = "http".toList then .web false
  else if name = "https".toList then .web true
  else if name = "ftp".toList then .hosted 21
  else if name = "ws".toList then .hosted 80
  else if name = "wss".toList then .hosted 443
  else if name = "file".toList then .file
  else .other

/-! ## 2. What a text is -/

/-- What a text is as a URL. -/
inductive Reading where
  | web (url : WebUrl)
  /-- A URL of another scheme that names a host. -/
  | hosted
  /-- No URL, or one without a host. -/
  | unhosted
  deriving DecidableEq, Repr

/-- Whether a URL whose scheme shares the rules of the web names a host, that is, is a URL. -/
def hasWebHost (usualPort : Nat) (cs : List Char) : Bool :=
  let authority := (cs.dropWhile isSlash).takeWhile fun c => !endsAuthority true c
  let (_, host, port) := authorityParts authority
  (Host.ofText? host).isSome && (port? (some usualPort) (port.getD [])).isSome

/-- Whether a URL of a file names a host: some machine other than the own one, and no drive before
    the other segments of the path. -/
def hasFileHost (cs : List Char) : Bool :=
  match cs with
  | a :: b :: rest =>
    let (hostText, rest) := rest.span fun c => !endsAuthority true c
    isSlash a && isSlash b && hostText ≠ [] && !isDrive hostText &&
      (match Host.ofText? hostText with
        | none => false
        | some host => host ≠ .domain "localhost".toList) &&
      !meetsDrive [] (segmentsOf (rest.takeWhile fun c => c ≠ '?' && c ≠ '#'))
  | _ => false

/-- Whether a URL of any other scheme names a host. -/
def hasOpaqueHost (cs : List Char) : Bool :=
  match cs with
  | '/' :: '/' :: rest =>
    let (_, host, port) := authorityParts (rest.takeWhile fun c => !endsAuthority false c)
    Host.isOpaque host && (port? none ((port.getD []).takeWhile (· ≠ '\\'))).isSome
  | _ => false

/-- What a clean text is as a URL. -/
def Reading.ofClean (cs : List Char) : Reading :=
  let hostedIf (b : Bool) : Reading := if b then .hosted else .unhosted
  match splitScheme? cs with
  | none => .unhosted
  | some (name, rest) =>
    match Scheme.ofName name with
    | .web secure =>
      match WebUrl.ofRest? secure rest with
      | some url => .web url
      | none => .unhosted
    | .hosted usualPort => hostedIf (hasWebHost usualPort rest)
    | .file => hostedIf (hasFileHost rest)
    | .other => hostedIf (hasOpaqueHost rest)

/-- What a text is as a URL. -/
def Reading.of (cs : List Char) : Reading := .ofClean (clean cs)

/-! ## 3. The normal form -/

/-- The text of a web URL, unless the text is none. -/
def webText? (cs : List Char) : Option (List Char) :=
  match Reading.of cs with
  | .web url => some url.text
  | _ => none

/-- The text under which the page that a text names is kept, if it names one. -/
def normalForm? (cs : List Char) : Option (List Char) :=
  match Reading.of cs with
  | .web url => some url.text
  | .hosted => none
  | .unhosted => webText? ("http://".toList ++ cs)

/-- The text under which the page that a text names is kept, if it names one. -/
def normalUrl? (s : String) : Option String := (normalForm? s.toList).map String.ofList

end CrawlGraph.Url
