import ApiLinks.Number.Digits

/-!
# URLs

A URL in its parts, and the text that the parts make up. The parts are held as they are written: encoded
where they need it, the host in lower case, the port only where it is not the one of the scheme.
-/

namespace ApiLinks

/-- Where a URL leads. -/
inductive Host where
  /-- A domain in ASCII, or the opaque host of a scheme that knows no domains; it may be empty. -/
  | domain (name : Text)
  | ipv4 (address : Nat)
  /-- Eight pieces of 16 bits. -/
  | ipv6 (pieces : List Nat)
  deriving DecidableEq, Repr

/-- What stands between the two slashes and the path. An empty password is the same as none. -/
structure Authority where
  username : Text
  password : Text
  host : Host
  port : Option Nat
  deriving DecidableEq, Repr

/-- The path of a URL. -/
inductive UrlPath where
  /-- A path that no reference can be relative to. -/
  | rootless (text : Text)
  /-- The segments, each behind a slash. -/
  | segments (segments : List Text)
  deriving DecidableEq, Repr

structure Url where
  scheme : Text
  authority : Option Authority
  path : UrlPath
  query : Option Text
  fragment : Option Text
  deriving DecidableEq, Repr

/-- Why a text is no URL. -/
inductive UrlError where
  | emptyHost
  | domain
  | port
  | ipv4
  | ipv6
  | domainCharacter
  /-- The text is relative, and nothing is there to be relative to. -/
  | relative
  /-- The text is relative to a URL that has no segments. -/
  | relativeToRootless
  deriving DecidableEq, Repr

def UrlError.message : UrlError → Text
  | emptyHost => "empty host".toList
  | domain => "invalid international domain name".toList
  | port => "invalid port number".toList
  | ipv4 => "invalid IPv4 address".toList
  | ipv6 => "invalid IPv6 address".toList
  | domainCharacter => "invalid domain character".toList
  | relative => "relative URL without a base".toList
  | relativeToRootless => "relative URL with a cannot-be-a-base base".toList

namespace Host

/-- The text of an IPv4 address: its four bytes in decimal. -/
def ipv4Text (n : Nat) : Text :=
  Text.joined ['.'] ([n / 0x1000000 % 256, n / 0x10000 % 256, n / 0x100 % 256, n % 256].map Number.ofNat)

/-- The start and the length of the first longest run of zeros, counted from `at`. -/
def longestZeros (start : Nat) : List Nat → Nat × Nat
  | [] => (start, 0)
  | p :: rest =>
    let here := (p :: rest).takeWhile (· == 0) |>.length
    let (s, n) := longestZeros (start + 1) rest
    if n ≤ here then (start, here) else (s, n)

def pieceText (n : Nat) : Text := Nat.toDigits 16 n

/-- The text of an IPv6 address: its pieces in hexadecimal, with two colons for the first
longest run of at least two zeros. -/
def ipv6Text (pieces : List Nat) : Text :=
  let (start, length) := longestZeros 0 pieces
  if length < 2 then Text.joined [':'] (pieces.map pieceText)
  else
    Text.joined [':'] ((pieces.take start).map pieceText) ++ [':', ':'] ++
      Text.joined [':'] ((pieces.drop (start + length)).map pieceText)

def toText : Host → Text
  | domain name => name
  | ipv4 address => ipv4Text address
  | ipv6 pieces => '[' :: ipv6Text pieces ++ [']']

end Host

namespace Authority

/-- The credentials with the sign behind them, if there are any. -/
def credentials (a : Authority) : Text :=
  if a.username.isEmpty && a.password.isEmpty then []
  else a.username ++ (if a.password.isEmpty then [] else ':' :: a.password) ++ ['@']

def toText (a : Authority) : Text :=
  a.credentials ++ a.host.toText ++ a.port.elim [] fun p => ':' :: Number.ofNat p

end Authority

namespace UrlPath

def toText : UrlPath → Text
  | rootless text => text
  | segments ss => ss.flatMap ('/' :: ·)

end UrlPath

namespace Url

/-- The schemes whose URLs have hosts that are domains, with their ports. -/
def specialPorts : List (Text × Option Nat) :=
  [("http".toList, some 80), ("https".toList, some 443), ("ws".toList, some 80), ("wss".toList, some 443),
    ("ftp".toList, some 21), ("file".toList, none)]

/-- The scheme of files, whose hosts may be left out. -/
def fileScheme : Text := "file".toList

/-- Whether a scheme has domains for hosts. -/
def isSpecial (scheme : Text) : Bool := specialPorts.any (·.1 == scheme)

/-- The port that a scheme implies. -/
def impliedPort (scheme : Text) : Option Nat := (specialPorts.lookup scheme).bind id

/-- What stands between the scheme and the path. Without an authority, a path that begins with two
slashes is kept apart from one. -/
def authorityText (u : Url) : Text :=
  match u.authority with
  | some a => '/' :: '/' :: a.toText
  | none => match u.path.toText with
    | '/' :: '/' :: _ => ['/', '.']
    | _ => []

/-- The text of a URL up to the end of its path. -/
def beforeQuery (u : Url) : Text := u.scheme ++ ':' :: (u.authorityText ++ u.path.toText)

def toText (u : Url) : Text :=
  u.beforeQuery ++ (u.query.elim [] ('?' :: ·)) ++ (u.fragment.elim [] ('#' :: ·))

end Url

end ApiLinks
