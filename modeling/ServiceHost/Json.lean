/-!
JSON values and their compact text. An object keeps its members in the order in which they were given.
-/

namespace ServiceHost

/-- A JSON value whose numbers are whole. -/
inductive Json where
  | null
  | flag (value : Bool)
  | number (value : Int)
  | text (value : String)
  | array (items : List Json)
  | object (members : List (String × Json))
  deriving Inhabited, Repr

namespace Json

/-- The escape of a control character without a short form. -/
def controlEscape (c : Char) : List Char :=
  let digits := Nat.toDigits 16 c.toNat
  ['\\', 'u'] ++ List.replicate (4 - digits.length) '0' ++ digits

/-- The form of one character inside a JSON string. -/
def escaped (c : Char) : List Char :=
  match c with
  | '"' => ['\\', '"']
  | '\\' => ['\\', '\\']
  | '\n' => ['\\', 'n']
  | '\r' => ['\\', 'r']
  | '\t' => ['\\', 't']
  | '\x08' => ['\\', 'b']
  | '\x0c' => ['\\', 'f']
  | c => if c.toNat < 32 then controlEscape c else [c]

/-- A JSON string. -/
def string (text : String) : String :=
  String.ofList ('"' :: text.toList.flatMap escaped ++ ['"'])

mutual

/-- The text of a value without any space between its parts. -/
def compact : Json → String
  | .null => "null"
  | .flag true => "true"
  | .flag false => "false"
  | .number value => toString value
  | .text value => string value
  | .array items => "[" ++ ",".intercalate (compactAll items) ++ "]"
  | .object members => "\x7b" ++ ",".intercalate (compactMembers members) ++ "\x7d"

def compactAll : List Json → List String
  | [] => []
  | item :: rest => compact item :: compactAll rest

def compactMembers : List (String × Json) → List String
  | [] => []
  | (name, value) :: rest => (string name ++ ":" ++ compact value) :: compactMembers rest

end

/-- A natural number as a value. -/
def natural (value : Nat) : Json := .number value

/-- An array of strings. -/
def texts (values : List String) : Json := .array (values.map .text)

/-- An object whose members stand in ascending order of their names. -/
def sortedObject (members : List (String × Json)) : Json :=
  .object (members.mergeSort fun first second => decide (first.1 ≤ second.1))

mutual

/-- The value with the members of every object in ascending order of their names. -/
def sorted : Json → Json
  | .array items => .array (sortedItems items)
  | .object members => sortedObject (sortedMembers members)
  | value => value

def sortedItems : List Json → List Json
  | [] => []
  | item :: rest => sorted item :: sortedItems rest

def sortedMembers : List (String × Json) → List (String × Json)
  | [] => []
  | (name, value) :: rest => (name, sorted value) :: sortedMembers rest

end

end Json

end ServiceHost
