import ApiLinks.Url.Host
import ApiLinks.Url.Path

/-!
# Reading URLs

A text is read as a URL of its own, or relative to another one. Control characters and spaces around it do
not count, and tabs and line breaks inside it neither.
-/

namespace ApiLinks.Url

/-! ### The text -/

/-- Control characters of ASCII and the space. -/
def isControlOrSpace (c : Char) : Bool := decide (c.toNat ≤ 0x20)

def isTabOrBreak (c : Char) : Bool := c == '\t' || c == '\n' || c == '\r'

/-- The characters of a text that count. -/
def clean (t : Text) : Text :=
  ((t.dropWhile isControlOrSpace).reverse.dropWhile isControlOrSpace).reverse.filter (!isTabOrBreak ·)

def isSchemeChar (c : Char) : Bool := c.isAlphanum || c == '+' || c == '-' || c == '.'

/-- The scheme in lower case and what follows its colon. -/
def scheme? (t : Text) : Option (Text × Text) :=
  if t.head?.any Char.isAlpha then
    match t.dropWhile isSchemeChar with
    | ':' :: rest => some ((t.takeWhile isSchemeChar).map Char.toLower, rest)
    | _ => none
  else none

def isSlash (c : Char) : Bool := c == '/' || c == '\\'

def endsPath (c : Char) : Bool := c == '?' || c == '#'

def endsAuthority (special : Bool) (c : Char) : Bool := isSeparator special c || endsPath c

/-! ### Query and fragment -/

/-- Puts the query and the fragment of a text, which begins with the sign of one
of them or is empty, on a URL. -/
def withRest (u : Url) (t : Text) : Url :=
  let fragmentOf (t : Text) := Percent.encodeExcept mayStandInFragment t
  match t with
  | '?' :: rest =>
    let query := some (Percent.encodeExcept (mayStandInQuery (isSpecial u.scheme)) (rest.takeWhile (· != '#')))
    match rest.dropWhile (· != '#') with
    | _ :: fragment => { u with query, fragment := some (fragmentOf fragment) }
    | [] => { u with query, fragment := none }
  | '#' :: fragment => { u with query := none, fragment := some (fragmentOf fragment) }
  | _ => { u with query := none, fragment := none }

/-- Puts a path, and the query and the fragment that follow it in a text, on a URL. -/
def withPath (u : Url) (start : List Text) (t : Text) : Url :=
  { u with path := .segments (pathFrom u.scheme start (t.takeWhile (!endsPath ·))) }.withRest
    (t.dropWhile (!endsPath ·))

/-- Replaces the fragment alone. -/
def withFragment (u : Url) (t : Text) : Url :=
  { u with fragment := some (Percent.encodeExcept mayStandInFragment t) }

/-! ### Authority -/

/-- The part of a text before its last `@`, if there is one, and the part behind. -/
def cutCredentials (t : Text) : Option (Text × Text) :=
  (Text.cut? '@' t.reverse).map fun (behind, before) => (before.reverse, behind.reverse)

/-- Username and password, encoded. -/
def credentialsOf (t : Text) : Text × Text :=
  let (username, password) := (Text.cut? ':' t).getD (t, [])
  (Percent.encodeExcept mayStandInCredentials username, Percent.encodeExcept mayStandInCredentials password)

/-- The host and what follows it; a colon inside of brackets does not end it. -/
def cutHost : Bool → Text → Text × Text
  | _, [] => ([], [])
  | inBrackets, c :: rest =>
    if c == ':' && !inBrackets then ([], c :: rest)
    else
      let inBrackets := c == '[' || (inBrackets && c != ']')
      let (host, rest) := cutHost inBrackets rest
      (c :: host, rest)

/-- Ports have 16 bits. -/
def portBound : Nat := 0x10000

/-- The port of the digits behind a colon; the one that the scheme implies is left out. -/
def portOf (scheme digits : Text) : Except UrlError (Option Nat) :=
  match Number.nat? 10 digits with
  | none => .ok none
  | some n =>
    if portBound ≤ n then .error .port else .ok (if impliedPort scheme = some n then none else some n)

/-- The port of a text behind a colon, and what follows it, which can only be a path behind a backslash. -/
def cutPort (scheme t : Text) : Except UrlError (Option Nat × Text) :=
  let rest := t.dropWhile Char.isDigit
  if rest.head?.all (· == '\\') then (portOf scheme (t.takeWhile Char.isDigit)).map fun port => (port, rest)
  else .error .port

/-- The host of a scheme. -/
def hostOf (scheme t : Text) : Except UrlError Host :=
  if isSpecial scheme then (if t.isEmpty then .error .emptyHost else Host.ofDomain t) else Host.ofOpaque t

/-- The authority of a text without slashes, and what follows its port. -/
def authorityOf (scheme t : Text) : Except UrlError (Authority × Text) := do
  let special := isSpecial scheme
  let (credentials, t) := (cutCredentials t).getD ([], t)
  let (username, password) := credentialsOf credentials
  let (hostText, rest) := cutHost false t
  let host ← hostOf scheme hostText
  let empty := host == .domain []
  if empty && (special || !rest.isEmpty) then throw .emptyHost
  let (port, rest) ← match rest with
    | _ :: digits => cutPort scheme digits
    | [] => pure (none, [])
  if empty && !(username.isEmpty && password.isEmpty) then throw .emptyHost
  return (⟨username, password, host, port⟩, rest)

/-- The URL of a scheme and the text behind the two slashes of its authority. -/
def ofAuthority (scheme t : Text) : Except UrlError Url := do
  let special := isSpecial scheme
  let text := t.takeWhile (!endsAuthority special ·)
  let rest := t.dropWhile (!endsAuthority special ·)
  -- credentials of which nothing is left ask for a host all the same
  if text == ['@'] && !rest.isEmpty then throw .emptyHost
  let (authority, more) ← authorityOf scheme text
  let u : Url := ⟨scheme, some authority, .segments [], none, none⟩
  if !more.isEmpty then return u.withPath [] (more ++ rest)
  match rest with
  | c :: path => if isSeparator special c then return u.withPath [] path else return bare u rest
  | [] => return bare u []
where
  /-- Without a path there is an empty segment where the scheme is special. -/
  bare (u : Url) (rest : Text) : Url :=
    { u with path := .segments (if isSpecial u.scheme then [[]] else []) }.withRest rest

/-! ### Files -/

/-- A file URL with a host. -/
def file (host : Host) : Url := ⟨fileScheme, some ⟨[], [], host, none⟩, .segments [], none, none⟩

/-- Whether a text begins with the name of a drive as a segment. -/
def beginsWithDrive : Text → Bool
  | c :: d :: rest => isDrive [c, d] && (match rest with
    | e :: _ => isSlash e || endsPath e
    | [] => true)
  | _ => false

/-- The host of a file; `localhost` is as good as none. -/
def fileHostOf (t : Text) : Except UrlError Host :=
  if t.isEmpty then .ok (.domain [])
  else (Host.ofDomain t).map fun h => if h = .domain "localhost".toList then .domain [] else h

/-- Whether a path begins at a drive. -/
def startsAtDrive (u : Url) : Bool :=
  match u.path with
  | .segments (s :: _) => isDrive s
  | _ => false

/-- A file URL behind the two slashes of its authority. A drive is no host, and a path that
begins at a drive has none either. -/
def fileWithHost (t : Text) : Except UrlError Url := do
  let text := t.takeWhile fun c => !(isSlash c || endsPath c)
  if isDrive text then return (file (.domain [])).withPath [] t
  let host ← fileHostOf text
  let rest := t.drop text.length
  let path := if rest.head?.any isSlash then rest.drop 1 else rest
  let u := (file host).withPath [] path
  return if u.startsAtDrive then { u with authority := (file (.domain [])).authority } else u

/-- A file URL from one slash on: the drive of the base stays, or else its host. -/
def fileFromRoot (base : Option Url) (t : Text) : Url :=
  match base with
  | some b =>
    if beginsWithDrive t then (file (.domain [])).withPath [] t
    else match b.path with
      | .segments (s :: _) =>
        if isDrive s then (file (.domain [])).withPath [s] t
        else { file (.domain []) with authority := b.authority }.withPath [] t
      | _ => { file (.domain []) with authority := b.authority }.withPath [] t
  | none => (file (.domain [])).withPath [] t

/-- A file URL behind its scheme, relative to a base that is one. -/
def ofFile (base : Option Url) (t : Text) : Except UrlError Url :=
  match t with
  | c :: rest =>
    if isSlash c then
      match rest with
      | d :: rest2 => if isSlash d then fileWithHost rest2 else .ok (fileFromRoot base rest)
      | [] => .ok (fileFromRoot base [])
    else match base with
      | none => .ok ((file (.domain [])).withPath [] t)
      | some b =>
        if c = '?' then .ok (b.withRest t)
        else if c = '#' then .ok (b.withFragment rest)
        else if beginsWithDrive t then .ok ((file (.domain [])).withPath [] t)
        else match b.path with
          | .segments ss => .ok (b.withPath (directory fileScheme ss) t)
          | .rootless _ => .ok (b.withPath [] t)
  | [] => match base with
    | none => .ok ((file (.domain [])).withPath [] [])
    | some b => .ok { b with fragment := none }

/-! ### URLs -/

/-- A reference relative to a URL that has segments and is no file. -/
def relativeTo (b : Url) (ss : List Text) (t : Text) : Except UrlError Url :=
  match t with
  | [] => .ok { b with fragment := none }
  | '?' :: _ => .ok (b.withRest t)
  | '#' :: rest => .ok (b.withFragment rest)
  | '/' :: '/' :: rest => ofAuthority b.scheme rest
  | c :: rest =>
    if isSlash c then
      if rest.head?.any isSlash then ofAuthority b.scheme (t.dropWhile isSlash)
      else .ok (b.withPath [] rest)
    else .ok (b.withPath (directory b.scheme ss) t)

/-- A URL of a scheme that is not special, without an authority. -/
def withoutAuthority (scheme t : Text) : Url :=
  match t with
  | '/' :: path => Url.withPath ⟨scheme, none, .segments [], none, none⟩ [] path
  | _ =>
    let path := Percent.encodeExcept mayStandRootless (t.takeWhile (!endsPath ·))
    Url.withRest ⟨scheme, none, .rootless path, none, none⟩ (t.dropWhile (!endsPath ·))

/-- A URL with a scheme. A special scheme that is the base's needs two slashes to leave the base. -/
def ofScheme (base : Option Url) (scheme t : Text) : Except UrlError Url :=
  if scheme = fileScheme then ofFile (base.filter fun b => b.scheme == fileScheme) t
  else if isSpecial scheme then
    let slashes := (t.takeWhile isSlash).length
    match base with
    | some ⟨s, a, .segments ss, q, f⟩ =>
      if slashes < 2 ∧ s = scheme then relativeTo ⟨s, a, .segments ss, q, f⟩ ss t
      else ofAuthority scheme (t.dropWhile isSlash)
    | _ => ofAuthority scheme (t.dropWhile isSlash)
  else match t with
    | '/' :: '/' :: rest => ofAuthority scheme rest
    | _ => .ok (withoutAuthority scheme t)

/-- Reads a text, relative to a base if there is one. -/
def read (base : Option Url) (t : Text) : Except UrlError Url :=
  let t := clean t
  match scheme? t with
  | some (scheme, rest) => ofScheme base scheme rest
  | none =>
    match base with
    | none => .error .relative
    | some b =>
      match t, b.path with
      | '#' :: rest, _ => .ok (b.withFragment rest)
      | _, .rootless _ => .error .relativeToRootless
      | _, .segments ss => if b.scheme = fileScheme then ofFile (some b) t else relativeTo b ss t

/-- Reads a URL of its own. -/
def parse (t : Text) : Except UrlError Url := read none t

/-- Reads a text relative to a URL. -/
def join (base : Url) (t : Text) : Except UrlError Url := read (some base) t

end ApiLinks.Url
