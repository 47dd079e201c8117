import ApiLinks.CommandLine.Options
import ApiLinks.LinksDocument.FromJson
import ApiLinks.LinksDocument.FromYaml
import ApiLinks.LinksDocument.LinkSet

/-!
# The command

What the command prints for its options and the bytes of the links document: the list of the resources or,
for one of them, its URI. Of several faults the first one in this order is told: the document, the base, the
parameters of the command line, those of the document, the resource.
-/

namespace ApiLinks

/-- Why a file cannot be read. -/
inductive FileError where
  | notFound
  | isDirectory
  | notDirectory
  /-- The bytes are no UTF-8. -/
  | notText
  /-- Another reason, as the system words it. -/
  | other (reason : Text)
  deriving DecidableEq, Repr

/-- The system's wording of an error. -/
def FileError.message : FileError → Text
  | notFound => "No such file or directory (os error 2)".toList
  | isDirectory => "Is a directory (os error 21)".toList
  | notDirectory => "Not a directory (os error 20)".toList
  | notText => "stream did not contain valid UTF-8".toList
  | other reason => reason

/-- The format of a document. -/
inductive DocumentFormat where
  | json
  | yaml
  deriving DecidableEq, Repr

/-- Why the command fails. -/
inductive CommandError where
  | file (path : Text) (error : FileError)
  | document (path : Text) (format : DocumentFormat)
  | base (error : BaseError)
  | param (error : ParamError)
  | link (error : LinkError)
  deriving DecidableEq, Repr

namespace DocumentFormat

/-- The last component of a path; a path that names no file has none. -/
def fileName? (path : Text) : Option Text :=
  let components := (path.splitOn '/').filter fun c => !c.isEmpty
  -- a single point after the first component says nothing
  let components := match components with
    | [] => []
    | first :: rest => first :: rest.filter (· ≠ ['.'])
  match components.getLast? with
  | some name => if name = ['.'] ∨ name = ['.', '.'] then none else some name
  | none => none

/-- What follows the last point of a path's file name; a point at the front does not count. -/
def extension? (path : Text) : Option Text := do
  let name ← fileName? path
  let (behind, before) ← Text.cut? '.' name.reverse
  if before.isEmpty then none else return behind.reverse

/-- Files with the extension `json`, in any case, hold JSON, and all others YAML. -/
def ofPath (path : Text) : DocumentFormat :=
  match extension? path with
  | some e => if e.map Char.toLower = "json".toList then json else yaml
  | none => yaml

/-- What is said about a text that holds no document. -/
def failure : DocumentFormat → Text
  | json => "Failed to parse JSON links document".toList
  | yaml => "Failed to parse YAML links document".toList

def read? : DocumentFormat → Text → Option LinksDocument
  | json, t => LinksDocument.ofJson? t
  | yaml, t => LinksDocument.ofYaml? t

end DocumentFormat

namespace CommandError

/-- What is said about an error, from the outside in, without the wording of the system. -/
def contexts : CommandError → List Text
  | file path _ => ["Failed to read links file ".toList ++ path]
  | document path format => ["Invalid links file ".toList ++ path, format.failure]
  | base e => [e.message]
  | param e => [e.message]
  | link e =>
    match e with
    | .invalidUri _ reason => [e.message, reason.message]
    | _ => [e.message]

/-- What is said about an error, the wording of the system included. -/
def causes (e : CommandError) : List Text :=
  match e with
  | file _ fileError => e.contexts ++ [fileError.message]
  | _ => e.contexts

def line (causes : List Text) : Text := Text.joined [':', ' '] causes

end CommandError

namespace Command

/-- The text of the names of a template's variables. -/
def variableList (t : Template) : Text := '[' :: Text.joined [',', ' '] t.variableNames ++ [']']

/-- The line of a link: name, href and, for a templated one, the names of its variables. -/
def listingLine (name : Text) (l : Link) : Text :=
  name ++ '\t' :: l.href.text ++ (if l.templated then '\t' :: variableList l.href else []) ++ ['\n']

def listing (links : NameMap Link) : Text := links.entries.flatMap fun (name, l) => listingLine name l

/-- The document that bytes hold. -/
def loadDocument (path : Text) (content : Except FileError (List UInt8)) : Except CommandError LinksDocument :=
  match content with
  | .error e => .error (.file path e)
  | .ok bytes =>
    match Utf8.decode? bytes with
    | none => .error (.file path .notText)
    | some t =>
      match (DocumentFormat.ofPath path).read? t with
      | some doc => .ok doc
      | none => .error (.document path (DocumentFormat.ofPath path))

/-- The parameters that are bound, those of the command line first. -/
def bindings (arguments document : List Param) : Bindings :=
  (Bindings.bindSome NameMap.empty (arguments.map Param.toPair)).bindSome (document.map Param.toPair)

/-- What the command prints for a document. -/
def output (doc : LinksDocument) (o : Options) : Except CommandError Text :=
  match doc.linkSet o.base with
  | .error e => .error (.base e)
  | .ok links =>
    match o.resource with
    | none => .ok (listing links.links)
    | some resource =>
      match Param.ofArguments o.params with
      | .error e => .error (.param e)
      | .ok arguments =>
        match doc.paramList with
        | .error e => .error (.param e)
        | .ok document =>
          match links.resolve resource (bindings arguments document) with
          | .ok uri => .ok (uri ++ ['\n'])
          | .error e => .error (.link e)

/-- What the command prints for its options, with the bytes of the file that they name. -/
def run (o : Options) (content : Except FileError (List UInt8)) : Except CommandError Text := do
  output (← loadDocument o.links content) o

/-- The events of the command for a document. -/
def outputEvents (doc : LinksDocument) (o : Options) : List Event :=
  match doc.linkSet o.base with
  | .error _ => []
  | .ok links =>
    match o.resource with
    | none => links.links.entries.flatMap fun (_, l) => l.acceptsEvents
    | some resource =>
      match Param.ofArguments o.params with
      | .error _ => []
      | .ok arguments =>
        let bound := Bindings.bindSome NameMap.empty (arguments.map Param.toPair)
        let first := Bindings.bindSomeEvents NameMap.empty (arguments.map Param.toPair)
        match doc.paramList with
        | .error _ => first
        | .ok document =>
          first ++ bound.bindSomeEvents (document.map Param.toPair) ++
            links.resolveEvents resource (bindings arguments document)

def runEvents (o : Options) (content : Except FileError (List UInt8)) : List Event :=
  match loadDocument o.links content with
  | .ok doc => outputEvents doc o
  | .error _ => []

end Command

end ApiLinks
