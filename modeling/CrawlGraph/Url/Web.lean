import CrawlGraph.Url.Host
import CrawlGraph.Url.Path

/-!
# Web URLs

A URL of the schemes `http` and `https`, in parts. The parts are kept as they are written: what a
part escapes is escaped already, a port is there only if it is not the usual one of the scheme,
and the path is resolved. So `WebUrl.text` only has to put them together.

1. `WebUrl` and its text.
2. Reading the text after the scheme: the authority (user, host and port), then path, query and
   fragment. `WebUrl.ofRest?` puts it together.
-/

namespace CrawlGraph.Url

open CrawlGraph.Text

/-! ## 1. The parts and their text -/

/-- A URL of the web. -/
structure WebUrl where
  secure : Bool
  user : List Char
  password : List Char
  host : Host
  port : Option Nat
  path : List (List Char)
  query : Option (List Char)
  fragment : Option (List Char)
  deriving DecidableEq, Repr

/-- The text of a user name and a password; nothing is written for two empty ones. -/
def userInfoText (user password : List Char) : List Char :=
  if user = [] ∧ password = [] then []
  else user ++ (if password = [] then [] else ':' :: password) ++ ['@']

/-- The scheme and the marks after it. -/
def webPrefix (secure : Bool) : List Char :=
  if secure then "https://".toList else "http://".toList

/-- A part after the mark that begins it, or nothing. -/
def partText (mark : Char) (part : Option (List Char)) : List Char :=
  match part with
  | some cs => mark :: cs
  | none => []

/-- The text of a web URL. -/
def WebUrl.text (u : WebUrl) : List Char :=
  webPrefix u.secure ++ userInfoText u.user u.password ++ u.host.text ++
    partText ':' (u.port.map decimal) ++ pathText u.path ++ partText '?' u.query ++
    partText '#' u.fragment

/-! ## 2. The authority -/

/-- Whether the character ends the authority. In a URL of a common scheme a backslash does too. -/
def endsAuthority (isCommon : Bool) (c : Char) : Bool :=
  c = '/' || c = '?' || c = '#' || (isCommon && c = '\\')

/-- A text cut at its last `@`. -/
def splitAt? : List Char → Option (List Char × List Char)
  | [] => none
  | c :: cs =>
    match splitAt? cs with
    | some (before, after) => some (c :: before, after)
    | none => if c = '@' then some ([], cs) else none

/-- The user name and the password of the text before the last `@`, as they are written. -/
def userInfoOf (cs : List Char) : List Char × List Char :=
  let (user, rest) := cs.span (· ≠ ':')
  (percentEncode escapedInUserInfo user, percentEncode escapedInUserInfo (rest.drop 1))

/-- The host and what follows its colon; colons between square brackets belong to the host. -/
def splitPort (inBrackets : Bool) : List Char → List Char × Option (List Char)
  | [] => ([], none)
  | c :: cs =>
    if c = ':' ∧ inBrackets = false then ([], some cs)
    else
      let inBrackets := if c = '[' then true else if c = ']' then false else inBrackets
      (c :: (splitPort inBrackets cs).1, (splitPort inBrackets cs).2)

/-- The authority of a URL in three parts: the text of user and password, the text of the host,
    and the text of the port. -/
def authorityParts (cs : List Char) : List Char × List Char × Option (List Char) :=
  match splitAt? cs with
  | some (userInfo, rest) => (userInfo, splitPort false rest)
  | none => ([], splitPort false cs)

/-- The port that is kept for a text of digits: none for no digits and for the usual port of the
    scheme. There is no port above 65535. -/
def port? (usual : Option Nat) (digits : List Char) : Option (Option Nat) :=
  if digits = [] then some none
  else (decimalValue? digits).bind fun n =>
    if 65535 < n then none else some (if some n = usual then none else some n)

/-! ## 3. The whole -/

/-- The text up to a fragment, and the fragment. -/
def splitMark (mark : Char) (cs : List Char) : List Char × Option (List Char) :=
  match cs.span (· ≠ mark) with
  | (before, _ :: after) => (before, some after)
  | (before, []) => (before, none)

/-- The port that is not written for a scheme. -/
def usualPort (secure : Bool) : Nat := if secure then 443 else 80

/-- The web URL of the text after the scheme and its colon. -/
def WebUrl.ofRest? (secure : Bool) (cs : List Char) : Option WebUrl := do
  let (authority, rest) := (cs.dropWhile isSlash).span fun c => !endsAuthority true c
  let (userInfo, hostText, portText) := authorityParts authority
  let host ← Host.ofText? hostText
  let port ← port? (usualPort secure) (portText.getD [])
  let (user, password) := userInfoOf userInfo
  let (rest, fragment) := splitMark '#' rest
  let (path, query) := splitMark '?' rest
  pure {
    secure, user, password, host, port
    path := resolve (segmentsOf path)
    query := query.map (percentEncode escapedInQuery)
    fragment := fragment.map (percentEncode escapedInFragment) }

end CrawlGraph.Url
