import LedgerFlow.Codec.Utf8
import LedgerFlow.Host.Name
import LedgerFlow.Host.Numeric
import LedgerFlow.Number.Literal
import LedgerFlow.Text.Lower

/-!
# Web addresses

The address that requests go to, in normal form: scheme and host in lower case, a host in any script
as it travels, no port that the scheme implies, no dot segments in the path, and characters that an
address cannot hold as percent-encoded bytes.  An address without a scheme or a host is only a path.
-/

namespace LedgerFlow

/-- The parts of an address in normal form. -/
structure Address where
  scheme : String
  /-- A name and perhaps a password for the host. -/
  user : String
  host : String
  port : Option Int
  path : String
  query : Option String
  fragment : Option String
  deriving DecidableEq, Repr, Inhabited

/-- An address as it is written, cut into its parts. -/
structure WrittenAddress where
  scheme : List Char
  user : List Char
  host : List Char
  port : List Char
  path : List Char
  query : Option (List Char)
  fragment : Option (List Char)

namespace WrittenAddress

/-- Letters. -/
def isLetter (c : Char) : Bool := ('a' ≤ c && c ≤ 'z') || ('A' ≤ c && c ≤ 'Z')

/-- The scheme of an address and what follows its colon.  A colon at the head follows an empty
scheme. -/
def splitScheme (cs : List Char) : List Char × List Char :=
  let (name, rest) := cs.span fun c => isLetter c || Host.isDecimal c || "+.-".toList.contains c
  match rest with
  | ':' :: after => if name.head?.all isLetter then (name, after) else ([], cs)
  | _ => ([], cs)

/-- The part before the first of some characters, and the rest. -/
def upTo (stops : List Char) (cs : List Char) : List Char × List Char :=
  cs.span fun c => !stops.contains c

/-- The part before the last character of a kind, and the part after it. -/
def splitLast (c : Char) (cs : List Char) : Option (List Char × List Char) :=
  if cs.contains c then
    let after := (cs.reverse.takeWhile (· != c)).reverse
    some (cs.take (cs.length - after.length - 1), after)
  else none

/-- The host and the port of an authority without user information.  A host in brackets ends at the
last bracket, any other host at the first colon. -/
def hostAndPort (cs : List Char) : List Char × List Char :=
  let (host, rest) := match cs.head? == some '[', splitLast ']' cs with
    | true, some (before, after) => (before ++ [']'], after)
    | _, _ => upTo [':'] cs
  (host, if rest.head? == some ':' then rest.drop 1 else rest)

/-- What follows a mark at the head of a text. -/
def after? (mark : Char) : List Char → Option (List Char)
  | c :: rest => if c == mark then some rest else none
  | [] => none

/-- Cuts an address into its parts. -/
def ofChars (cs : List Char) : WrittenAddress :=
  let (scheme, rest) := splitScheme cs
  let (authority, rest) := match rest with
    | '/' :: '/' :: rest => upTo ['/', '?', '#'] rest
    | rest => ([], rest)
  let (path, rest) := upTo ['?', '#'] rest
  let (query, rest) := upTo ['#'] rest
  let (user, place) := (splitLast '@' authority).getD ([], authority)
  let (host, port) := hostAndPort place
  { scheme, user, host, port, path, query := after? '?' query, fragment := after? '#' rest }

end WrittenAddress

namespace Address

/-- Characters that are never encoded. -/
def isPlain (c : Char) : Bool :=
  WrittenAddress.isLetter c || Host.isDecimal c || "-._~".toList.contains c

/-- Visible ASCII characters other than some. -/
def visibleExcept (others : String) (c : Char) : Bool :=
  0x20 < c.toNat && c.toNat < 0x7F && !others.toList.contains c

/-- Characters that stay in a path. -/
def staysInPath : Char → Bool := visibleExcept "\"#<>?`\x7b\x7d"

/-- Characters that stay in a query. -/
def staysInQuery : Char → Bool := visibleExcept "\"#<>"

/-- Characters that stay in a fragment. -/
def staysInFragment : Char → Bool := visibleExcept "\"<>`"

/-- Characters that stay in user information. -/
def staysInUser : Char → Bool := visibleExcept "\"#<>?`\x7b\x7d/;=@[\\]^|"

/-- Characters that stay in a host. -/
def staysInHost (c : Char) : Bool := "!$&'()*+,;=\"`\x7b\x7d%|\\".toList.contains c

/-- One byte, percent-encoded. -/
def percent (b : UInt8) : List Char :=
  '%' :: (Text.hexDigits 2 b.toNat).map fun c => if 'a' ≤ c then Char.ofNat (c.toNat - 32) else c

/-- Text with every character encoded that cannot stay.  Encoded bytes stay as they are. -/
def escape (stays : Char → Bool) : List Char → List Char
  | [] => []
  | '%' :: a :: b :: rest =>
    if (Hex.digit? a).isSome && (Hex.digit? b).isSome then '%' :: a :: b :: escape stays rest
    else
      let first := if stays '%' then ['%'] else percent 0x25
      first ++ escape stays (a :: b :: rest)
  | c :: rest =>
    let first := if isPlain c || stays c then [c] else (Utf8.encode (String.singleton c)).flatMap percent
    first ++ escape stays rest

/-- The segments of a path, each dot segment carried out. -/
def withoutDots (segments : List (List Char)) : List (List Char) :=
  segments.foldl (fun out segment =>
    if segment == ['.'] then out
    else if segment == ['.', '.'] then (if out.isEmpty || out == [[]] then out else out.dropLast)
    else out ++ [segment]) []

/-- A path without dot segments. -/
def normalPath (cs : List Char) : List Char :=
  Text.joinWith '/' (withoutDots (Text.piecesAt (· == '/') cs))

/-- The port that a scheme implies; schemes are known in lower case. -/
def impliedPort (scheme : List Char) : Option Int :=
  match String.ofList scheme with
  | "http" | "ws" => some 80
  | "https" | "wss" => some 443
  | "ftp" => some 21
  | _ => none

/-- The port that is written behind a host; nothing if it is no number. -/
def port? (scheme port : List Char) : Option (Option Int) :=
  if port.isEmpty then some none
  else (Number.integer? port).map fun n => if impliedPort scheme == some n then none else some n

/-- The normal form of a host; nothing for what only looks like a numeric host, and for a name in
another script that cannot travel. -/
def host? (cs : List Char) : Option (List Char) :=
  if Host.looksNumeric cs then (if Host.isFourNumbers cs then some cs else none)
  else if cs.head? == some '[' && cs.getLast? == some ']' && 1 < cs.length then
    let inside := cs.tail.dropLast
    if Host.isEightGroups inside then some inside else none
  else
    let small := (Text.lower (String.ofList cs)).toList
    if cs.all fun c => c.toNat < 0x80 then some (escape staysInHost small)
    else (Host.toAscii small).toOption

/-- The longest address. -/
def maxLength : Nat := 65536

/-- Whether a text can be an address at all. -/
def isWritable (s : String) : Bool :=
  s.length ≤ maxLength && s.toList.all fun c => 0x20 ≤ c.toNat && c.toNat ≠ 0x7F

/-- Whether a path can be one: without a scheme and a host it starts neither with two slashes nor
with a colon. -/
def pathFits (onHost : Bool) (path : List Char) : Bool :=
  onHost || !(['/', '/'].isPrefixOf path || path.head? == some ':')

/-- The normal form of a written address. -/
def ofWritten? (w : WrittenAddress) : Option Address := do
  let host ← host? w.host
  let port ← port? w.scheme w.port
  let onHost := !w.scheme.isEmpty || !w.user.isEmpty || !host.isEmpty || port.isSome
  let path := if onHost then normalPath w.path else w.path
  if pathFits onHost w.path then
    pure {
      scheme := Text.lowerAscii (String.ofList w.scheme)
      user := String.ofList (escape staysInUser w.user)
      host := String.ofList host
      port
      path := String.ofList (escape staysInPath path)
      query := w.query.map fun q => String.ofList (escape staysInQuery q)
      fragment := w.fragment.map fun f => String.ofList (escape staysInFragment f) }
  else none

/-- Whether an address names a host and how to speak to it. -/
def isAbsolute (a : Address) : Bool := !a.scheme.isEmpty && !a.host.isEmpty

/-- An address on no host in particular: a path from the root, and a query. -/
def onNoHost (a : Address) : Address where
  scheme := ""
  user := ""
  host := ""
  port := none
  path := String.ofList ('/' :: a.path.toList.dropWhile (· == '/'))
  query := a.query
  fragment := none

/-- Reads an address; a bad host, a bad port, a bad path or a control character makes it invalid. -/
def parse? (s : String) : Option Address := do
  if isWritable s then
    let a ← ofWritten? (.ofChars s.toList)
    if a.isAbsolute then pure a
    else
      let b := a.onNoHost
      if b.path.length ≤ maxLength && b.query.all (·.length ≤ maxLength) then pure b else none
  else none

/-- The host with its port.  Brackets keep the colons of a host apart from that of the port. -/
def place (a : Address) : String :=
  (if a.host.toList.contains ':' then "[" ++ a.host ++ "]" else a.host)
    ++ a.port.elim "" fun n => ":" ++ toString n

/-- An address as text. -/
def text (a : Address) : String :=
  (if a.isAbsolute then
    a.scheme ++ "://" ++ (if a.user.isEmpty then "" else a.user ++ "@") ++ a.place
  else "") ++ a.path ++ a.query.elim "" ("?" ++ ·) ++ a.fragment.elim "" ("#" ++ ·)

/-- Whether replies from an address are taken: it names a host, which is one also if its zone ends at
a bracket. -/
def takesReplies (a : Address) : Bool :=
  let cs := a.host.toList
  a.isAbsolute && (!cs.contains ']' || Host.isEightGroups (cs.takeWhile (· != ']')))

/-- What keeps a request from telling its host. -/
inductive HostFault where
  /-- The name travels in a form that cannot be read. -/
  | unreadable (fault : Host.LabelFault)
  /-- The zone of a numeric host is no ASCII text. -/
  | notAscii
  deriving DecidableEq, Repr, Inhabited

/-- Whether a request can tell its host: a name that starts as punycode has to be readable. -/
def checkHost (a : Address) : Except HostFault Unit :=
  let cs := a.host.toList
  if Host.mark.isPrefixOf cs then (Host.checkAscii cs).mapError .unreadable
  else if cs.all fun c => c.toNat < 0x80 then .ok ()
  else .error .notAscii

end Address
end LedgerFlow
