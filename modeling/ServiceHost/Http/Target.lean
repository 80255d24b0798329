/-!
Request targets: the path and query of a request, or an absolute address that holds them. A fragment is
cut off when a target is read.
-/

namespace ServiceHost.Http

/-- A character that may stand in a path: neither blank nor an ASCII control, and none of the angle
brackets, the grave accent, the question mark and the number sign. -/
def isPathChar (c : Char) : Bool :=
  32 < c.toNat && !"<>\x60?#\x7f".toList.contains c

/-- A character that may stand in a query: neither blank nor an ASCII control, and none of the double
quote, the angle brackets and the number sign. -/
def isQueryChar (c : Char) : Bool :=
  32 < c.toNat && !"\"<>#\x7f".toList.contains c

/-- A character that may stand in an authority. -/
def isAuthorityChar (c : Char) : Bool :=
  c.isAlphanum || "!$&'()*+,-.:;=@[]_~%".toList.contains c

/-- A character that may stand in a scheme. -/
def isSchemeChar (c : Char) : Bool :=
  c.isAlphanum || "+-.~".toList.contains c

/-- A path with an optional query. -/
structure Location where
  path : String
  query : Option String := none
  deriving DecidableEq, Repr

/-- A request target. -/
inductive Target where
  /-- A path on the host that is asked, or the asterisk for the host itself. -/
  | origin (location : Location)
  /-- A host without any path. -/
  | authority (host : String)
  /-- A full address. -/
  | absolute (scheme host : String) (location : Location)
  deriving DecidableEq, Repr

namespace Target

instance : Inhabited Target := ⟨.origin ⟨"/", none⟩⟩

/-- The path and query at the start of a text that a fragment may end. -/
def readLocation (text : List Char) : Option Location :=
  let path := text.takeWhile isPathChar
  match text.dropWhile isPathChar with
  | [] => some ⟨String.ofList path, none⟩
  | '#' :: _ => some ⟨String.ofList path, none⟩
  | '?' :: rest =>
    let query := rest.takeWhile isQueryChar
    match rest.dropWhile isQueryChar with
    | [] => some ⟨String.ofList path, some (String.ofList query)⟩
    | '#' :: _ => some ⟨String.ofList path, some (String.ofList query)⟩
    | _ => none
  | _ => none

/-- What was seen of an authority: the colons since the last bracket or at sign, the two brackets, a
percent sign since then, and whether the last character was an at sign. -/
structure AuthorityScan where
  colons : Nat := 0
  opened : Bool := false
  closed : Bool := false
  percent : Bool := false
  atEnd : Bool := false

/-- One more character of an authority, if it may stand there. -/
def AuthorityScan.step (scan : AuthorityScan) (c : Char) : Option AuthorityScan :=
  match c with
  | ':' => if scan.colons < 8 then some { scan with colons := scan.colons + 1, atEnd := false } else none
  | '[' => if scan.percent || scan.opened then none else some { scan with opened := true, atEnd := false }
  | ']' =>
    if !scan.opened || scan.closed then none
    else some { scan with colons := 0, closed := true, percent := false, atEnd := false }
  | '@' => some { scan with colons := 0, percent := false, atEnd := true }
  | '%' => some { scan with percent := true, atEnd := false }
  | c => if isAuthorityChar c then some { scan with atEnd := false } else none

/-- A host, with a user in front and a port behind it where given: at most one colon outside brackets,
brackets in pairs, a percent sign only in the user, and something after an at sign. -/
def isAuthority (text : List Char) : Bool :=
  match text.foldlM AuthorityScan.step {} with
  | none => false
  | some scan => scan.opened == scan.closed && scan.colons ≤ 1 && !scan.percent && !scan.atEnd

/-- An authority runs up to the first slash, question mark or number sign. -/
def splitAuthority (text : List Char) : List Char × List Char :=
  text.span fun c => c != '/' && c != '?' && c != '#'

/-- The scheme at the start of a text and what follows its two slashes. The two common schemes are known
in any case and kept in lower case. -/
def splitScheme (text : List Char) : Option (String × List Char) :=
  let scheme := text.takeWhile isSchemeChar
  let lower := String.ofList (scheme.map Char.toLower)
  match text.dropWhile isSchemeChar with
  | ':' :: '/' :: '/' :: rest =>
    some (if lower = "http" ∨ lower = "https" then lower else String.ofList scheme, rest)
  | _ => none

/-- The target of a text whose first character is no slash. -/
def readFull (text : List Char) : Option Target :=
  match splitScheme text with
  | none =>
    let (host, rest) := splitAuthority text
    if rest.isEmpty && isAuthority host then some (.authority (String.ofList host)) else none
  | some (scheme, rest) =>
    let (host, rest) := splitAuthority rest
    if 64 < scheme.length || host.isEmpty || !isAuthority host then none
    else (readLocation rest).map (.absolute scheme (String.ofList host))

/-- The target that a text denotes. A target has at most 65534 octets. -/
def ofString? (text : String) : Option Target :=
  if 65534 < text.utf8ByteSize then none
  else
    match text.toList with
    | [] => none
    | ['*'] => some (.origin ⟨"*", none⟩)
    | '/' :: rest => (readLocation ('/' :: rest)).map .origin
    | full => readFull full

/-- The path of a target. An absolute address without a path asks for the root. -/
def path : Target → String
  | .origin location => location.path
  | .authority _ => ""
  | .absolute _ _ location => if location.path.isEmpty then "/" else location.path

/-- The query of a target, without its question mark. -/
def query : Target → Option String
  | .origin location => location.query
  | .authority _ => none
  | .absolute _ _ location => location.query

/-- The question mark and the query, or nothing where there is no query. -/
def querySuffix (target : Target) : String :=
  match target.query with
  | none => ""
  | some query => "?" ++ query

/-- The text of a target. -/
def render (target : Target) : String :=
  match target with
  | .origin _ => target.path ++ target.querySuffix
  | .authority host => host
  | .absolute scheme host _ => scheme ++ "://" ++ host ++ target.path ++ target.querySuffix

end Target

end ServiceHost.Http
