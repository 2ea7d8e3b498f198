/-
URLs, as far as whether a text is one and which host it names. The text
may have control characters and spaces around it and line breaks and tabs
anywhere; none of these count. After the scheme a URL may name an
authority: credentials, a host and a port. The schemes of the web always
do, in whatever slashes, and their hosts are domain names or addresses;
elsewhere an authority follows two slashes, and its host is taken as it
is written. What follows the authority never fails.
-/
import ProviderLink.Bytes
import ProviderLink.Url.Address
import ProviderLink.Url.Domain

namespace ProviderLink

namespace Url

open Text

/-- A host. -/
inductive Host
  | domain (name : String)
  /-- Of a scheme that is not one of the web. -/
  | plain (name : String)
  | ipv4 (address : Nat)
  | ipv6 (pieces : List Nat)
  deriving DecidableEq, Repr

/-- How the rest of a URL is read. -/
inductive SchemeKind
  /-- The schemes of the web but `file`. -/
  | web
  | file
  | other
  deriving DecidableEq, Repr

/-- How the rest of a URL with this scheme is read. -/
def schemeKind (scheme : String) : SchemeKind :=
  if ["http", "https", "ws", "wss", "ftp"].contains scheme then .web
  else if scheme = "file" then .file
  else .other

-- =============================================================== hosts

/-- A percent sign and two hexadecimal digits as the byte they stand for, all else as it is. -/
def percentDecode : List UInt8 → List UInt8
  | [] => []
  | [a] => [a]
  | [a, b] => [a, b]
  | p :: a :: b :: rest =>
    match hexDigit? (Char.ofNat a.toNat), hexDigit? (Char.ofNat b.toNat) with
    | some high, some low =>
      if p = 37 then UInt8.ofNat (16 * high + low) :: percentDecode rest
      else p :: percentDecode (a :: b :: rest)
    | _, _ => p :: percentDecode (a :: b :: rest)

/-- What stands in brackets, if the text begins with one. -/
def bracketed? : List Char → Option (Option (List Char))
  | '[' :: cs => some (if cs.getLast? = some ']' then some cs.dropLast else none)
  | _ => none

/-- A domain name, or the address it is. -/
def domainHost? (cs : List Char) : Option Host := do
  let bytes := percentDecode (Bytes.toList (String.ofList cs).toUTF8)
  let name ← Domain.ofChars? (← Bytes.text? (Bytes.ofList bytes)).toList
  if name = [] then none
  if endsInNumber name then (ipv4? name).map .ipv4 else some (.domain (String.ofList name))

def webHost? (cs : List Char) : Option Host :=
  match bracketed? cs with
  | some inside => (inside.bind ipv6?).map .ipv6
  | none => domainHost? cs

/-- Whether a character may not stand in a host that is taken as it is written. -/
def isForbiddenPlain (c : Char) : Bool :=
  c == Char.ofNat 0 || "\t\n\r #/:<>?@[\\]^|".toList.contains c

/-- A host elsewhere. -/
def plainHost? (cs : List Char) : Option Host :=
  match bracketed? cs with
  | some inside => (inside.bind ipv6?).map .ipv6
  | none => if cs.any isForbiddenPlain then none else some (.plain (String.ofList cs))

-- =========================================================== authority

def endsAuthority (kind : SchemeKind) (c : Char) : Bool :=
  c == '/' || c == '?' || c == '#' || (c == '\\' && kind ≠ .other)

/-- What stands before the last at sign, if there is one, and what follows it. -/
def splitCredentials (cs : List Char) : Option (List Char) × List Char :=
  let host := (cs.reverse.takeWhile (· != '@')).reverse
  if host.length = cs.length then (none, cs) else (some (cs.take (cs.length - host.length - 1)), host)

/-- A host and what follows it from a colon on; colons in brackets belong to the host. -/
def splitPort (inBrackets : Bool) : List Char → List Char × List Char
  | [] => ([], [])
  | c :: cs =>
    if c = ':' ∧ !inBrackets then ([], c :: cs)
    else
      let (host, port) := splitPort (if c = '[' then true else if c = ']' then false else inBrackets) cs
      (c :: host, port)

/-- A port is a number of 16 bits or empty; a backslash may end it. -/
def isPort (cs : List Char) : Bool :=
  let digits := cs.takeWhile Char.isDigit
  let after := cs.drop digits.length
  (after = [] || after.head? == some '\\') && valueOf 10 digits < 65536

/-- Whether what follows a host is nothing, or a colon and a port; no port follows an empty host. -/
def isPortPart (host : List Char) : List Char → Bool
  | [] => true
  | _ :: port => host ≠ [] && isPort port

/-- The host of an authority, if it is in order; `atEnd` says that nothing follows it. Only outside
the web may it be empty, and not behind credentials; an at sign with nothing around it counts as
none, unless more of the URL follows. -/
def authorityHost? (kind : SchemeKind) (atEnd : Bool) (cs : List Char) : Option (Option Host) := do
  let (credentials, rest) := splitCredentials cs
  if credentials = some [] ∧ rest = [] ∧ !atEnd then none
  let (host, port) := splitPort false rest
  if !isPortPart host port then none
  if host = [] then
    let bare := credentials = none ∨ credentials = some [] ∨ credentials = some [':']
    if kind = .other ∧ bare then return none else none
  else if kind = .other then return some (← plainHost? host)
  else return some (← webHost? host)

/-- The host of what begins with an authority. -/
def hostOf? (kind : SchemeKind) (cs : List Char) : Option (Option Host) :=
  let authority := cs.takeWhile fun c => !endsAuthority kind c
  authorityHost? kind (authority.length = cs.length) authority

-- =============================================================== files

/-- A letter and a colon or a bar. -/
def isDrive : List Char → Bool
  | [letter, mark] => letter.isAlpha && (mark == ':' || mark == '|')
  | _ => false

/-- A segment with its encoded points decoded. -/
def plainPoints : List Char → List Char
  | '%' :: '2' :: 'e' :: cs | '%' :: '2' :: 'E' :: cs => '.' :: plainPoints cs
  | c :: cs => c :: plainPoints cs
  | [] => []

/-- Whether a path begins with a drive, once its points are taken account of; so many segments are
before it. -/
def beginsWithDrive (before : Nat) : List (List Char) → Bool
  | [] => false
  | segment :: rest =>
    if plainPoints segment = ['.', '.'] then beginsWithDrive (before - 1) rest
    else if plainPoints segment = ['.'] then beginsWithDrive before rest
    else if before = 0 ∧ isDrive segment then true
    else beginsWithDrive (before + 1) rest

/-- The segments of the path of a file. -/
def segments (cs : List Char) : List (List Char) :=
  let path := (cs.takeWhile fun c => c != '?' && c != '#').map fun c => if c = '\\' then '/' else c
  pieces '/' (path.drop 1)

/-- The host of a file, if it is not this machine; a path that begins with a drive has none. -/
def fileHost? (cs : List Char) : Option (Option Host) :=
  let isSlash (c : Char) : Bool := c == '/' || c == '\\'
  match cs with
  | a :: b :: cs =>
    if isSlash a && isSlash b then
      let host := cs.takeWhile fun c => !endsAuthority .file c
      if host = [] ∨ isDrive host then some none
      else (webHost? host).map fun h =>
        if h = .domain "localhost" ∨ beginsWithDrive 0 (segments (cs.drop host.length)) then none
        else some h
    else some none
  | _ => some none

-- =============================================================== whole

/-- Whether a character counts for nothing around a URL. -/
def isOuterBlank (c : Char) : Bool := c ≤ ' '

/-- Whether a character counts for nothing within a URL. -/
def isInnerBlank (c : Char) : Bool := c == '\t' || c == '\n' || c == '\r'

/-- A text without what counts for nothing. -/
def clean (cs : List Char) : List Char :=
  let trimmed := ((cs.dropWhile isOuterBlank).reverse.dropWhile isOuterBlank).reverse
  trimmed.filter fun c => !isInnerBlank c

/-- Whether a character may stand in a scheme. -/
def isSchemeChar (c : Char) : Bool := c.isAlphanum || c == '+' || c == '-' || c == '.'

/-- The scheme in small letters and what follows its colon. -/
def scheme? (cs : List Char) : Option (String × List Char) := do
  let (scheme, rest) ← cut? ':' cs
  if scheme.head?.any Char.isAlpha ∧ scheme.all isSchemeChar then
    some (String.ofList (scheme.map Char.toLower), rest)
  else none

/-- The host of what follows a scheme. -/
def hostAfter? (kind : SchemeKind) (cs : List Char) : Option (Option Host) :=
  match kind with
  | .web => hostOf? .web (cs.dropWhile fun c => c == '/' || c == '\\')
  | .file => fileHost? cs
  | .other =>
    match after? ['/', '/'] cs with
    | some cs => hostOf? .other cs
    | none => some none

end Url

/-- A URL: its scheme and its host. -/
structure Url where
  scheme : String
  host : Option Url.Host
  deriving DecidableEq, Repr

/-- The URL of a text that needs no other to be one. -/
def Url.ofText? (s : String) : Option Url := do
  let (scheme, rest) ← Url.scheme? (Url.clean s.toList)
  let host ← Url.hostAfter? (Url.schemeKind scheme) rest
  return ⟨scheme, host⟩

end ProviderLink
