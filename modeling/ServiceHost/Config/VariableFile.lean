import ServiceHost.Text.Alphanumeric
import ServiceHost.Text.Blank

/-!
Files of environment variables. An entry holds a name, an equals sign and a value, and it goes on over
the ends of lines within quotes; blank entries and comments hold nothing. Reading stops at the first
entry that is malformed, and what stands before it counts. A value may name variables whose values stand
in for them.
-/

namespace ServiceHost.VariableFile

/-! ### Entries -/

/-- What the end of a piece of text leaves open. An entry ends with a line that leaves nothing open. -/
inductive Opening where
  | nothing
  | gap
  | escape
  | single
  | singleEscape
  | double
  | doubleEscape
  deriving DecidableEq, Repr

/-- What a character opens where nothing is open. -/
def Opening.ofChar (c : Char) : Opening :=
  if c = '\\' then .escape else if c = '"' then .double else if c = '\'' then .single else .nothing

/-- What is open after one more character. -/
def Opening.next (opening : Opening) (c : Char) : Opening :=
  match opening with
  | .nothing => if Text.isBlank c && c != '\n' && c != '\r' then .gap else .ofChar c
  | .gap => .ofChar c
  | .escape => .nothing
  | .single => if c = '\\' then .singleEscape else if c = '\'' then .nothing else .single
  | .singleEscape => .single
  | .double => if c = '\\' then .doubleEscape else if c = '"' then .nothing else .double
  | .doubleEscape => .double

/-- The part of a line that stands before a comment, and what it leaves open where no comment follows. A
comment starts with a number sign right behind a gap. -/
def scan (opening : Opening) : List Char → List Char × Option Opening
  | [] => ([], some opening)
  | c :: rest =>
    if opening = .gap ∧ c = '#' then ([], none)
    else
      let (kept, left) := scan (opening.next c) rest
      (c :: kept, left)

/-- The lines of a text, each with the line feed that ends it. -/
def lines : List Char → List (List Char)
  | [] => []
  | c :: rest =>
    if c = '\n' then [c] :: lines rest
    else
      match lines rest with
      | [] => [[c]]
      | line :: others => (c :: line) :: others

/-- Is a line nothing but a comment? -/
def isComment (line : List Char) : Bool :=
  (line.dropWhile Text.isBlank).head? == some '#'

/-- The entries of lines behind a part of an entry that was held back, up to one that never ends. -/
def entriesFrom (held : List Char) (opening : Opening) : List (List Char) → List (Option (List Char))
  | [] => if opening = .nothing then [] else [none]
  | line :: rest =>
    if held.isEmpty && isComment line then entriesFrom [] .nothing rest
    else
      match scan opening line with
      | (kept, none) => some (held ++ kept) :: entriesFrom [] .nothing rest
      | (_, some .nothing) => some (held ++ line) :: entriesFrom [] .nothing rest
      | (_, some left) => entriesFrom (held ++ line) left rest

/-- The entries of a text. A byte order mark in front of them counts for nothing. -/
def entries (text : List Char) : List (Option (List Char)) :=
  match text with
  | '\ufeff' :: rest => entriesFrom [] .nothing (lines rest)
  | text => entriesFrom [] .nothing (lines text)

/-! ### Values -/

/-- A space or a tab. -/
def isGap (c : Char) : Bool :=
  c == ' ' || c == '\t'

/-- The character that an escape stands for. -/
def unescape? (c : Char) : Option Char :=
  if c = 'n' then some '\n'
  else if ['\\', '\'', '"', '$', ' '].contains c then some c
  else none

/-- How the reading of a value stands: whether it is within double quotes, single quotes or none, whether
the next character is escaped, which part of the name of a variable was read, and whether a gap has ended
the value. -/
inductive ValueState where
  | open (quoted : Bool)
  | single
  | escaped (quoted : Bool)
  | named (quoted : Bool) (name : List Char)
  | braced (quoted : Bool) (name : List Char)
  | ended

/-- Reads a value up to the end of its entry. The name of a variable ends with the first character that
is no letter and no number, which then stands for itself; in braces it ends with the closing one. -/
def readValue (valueOf : List Char → List Char) : ValueState → List Char → Option (List Char)
  | .open quoted, [] => if quoted then none else some []
  | .single, [] => none
  | .escaped quoted, [] => if quoted then none else some []
  | .named quoted name, [] => if quoted then none else some (valueOf name)
  | .braced _ _, [] => none
  | .ended, [] => some []
  | .ended, c :: rest =>
    if isGap c then readValue valueOf .ended rest else if c = '#' then some [] else none
  | .escaped quoted, c :: rest =>
    match unescape? c with
    | none => none
    | some meant => (readValue valueOf (.open quoted) rest).map (meant :: ·)
  | .single, c :: rest =>
    if c = '\'' then readValue valueOf (.open false) rest
    else (readValue valueOf .single rest).map (c :: ·)
  | .named quoted name, c :: rest =>
    if Text.isAlphanumeric c then readValue valueOf (.named quoted (name ++ [c])) rest
    else if c = '\x7b' ∧ name = [] then readValue valueOf (.braced quoted []) rest
    else if c = '$' then (readValue valueOf (.named quoted []) rest).map (valueOf name ++ ·)
    else (readValue valueOf (.open quoted) rest).map (valueOf name ++ c :: ·)
  | .braced quoted name, c :: rest =>
    if c = '\x7d' then (readValue valueOf (.open quoted) rest).map (valueOf name ++ ·)
    else readValue valueOf (.braced quoted (name ++ [c])) rest
  | .open quoted, c :: rest =>
    if c = '$' then readValue valueOf (.named quoted []) rest
    else if c = '\\' then readValue valueOf (.escaped quoted) rest
    else if c = '"' then readValue valueOf (.open !quoted) rest
    else if !quoted && c == '\'' then readValue valueOf .single rest
    else if !quoted && isGap c then readValue valueOf .ended rest
    else (readValue valueOf (.open quoted) rest).map (c :: ·)

/-! ### Variables -/

/-- What an entry holds. -/
inductive Entry where
  | nothing
  | variable_ (name value : List Char)
  | malformed

/-- A character of a name. -/
def isNameChar (c : Char) : Bool :=
  c.isAlphanum || c == '_' || c == '.'

/-- The name at the start of a text and what follows it and the blanks behind it. -/
def splitName (text : List Char) : Option (List Char × List Char) :=
  if text.head?.any fun c => c.isAlpha || c == '_' then
    some (text.takeWhile isNameChar, (text.dropWhile isNameChar).dropWhile Text.isBlank)
  else none

/-- The variable of a name whose value stands behind an equals sign. -/
def assign (valueOf : List Char → List Char) (name text : List Char) : Entry :=
  match text with
  | '=' :: rest =>
    let value := rest.dropWhile Text.isBlank
    if value.head?.all (· == '#') then .variable_ name []
    else
      match readValue valueOf (.open false) value with
      | none => .malformed
      | some value => .variable_ name value
  | _ => .malformed

/-- What an entry holds. The word for exporting may stand before a name, and it may be a name. -/
def readEntry (valueOf : List Char → List Char) (text : List Char) : Entry :=
  let text := Text.stripWhere Text.isBlank text
  if text.head?.all (· == '#') then .nothing
  else
    match splitName text with
    | none => .malformed
    | some (name, rest) =>
      if name = "export".toList ∧ rest.head? ≠ some '=' then
        match splitName rest with
        | none => .malformed
        | some (name, rest) => assign valueOf name rest
      else assign valueOf name rest

/-- The value of a variable that is set, and else of one that was read. The first of a name counts. -/
def valueIn (set : String → Option String) (seen : List (String × String)) (name : String) :
    Option String :=
  (set name).or (seen.lookup name)

/-- The variables that were read and those of further entries up to the first malformed one. A variable
that is named in a value and has none stands for nothing. -/
def readFrom (set : String → Option String) (seen : List (String × String)) :
    List (Option (List Char)) → List (String × String)
  | some entry :: rest =>
    let valueOf (name : List Char) := ((valueIn set seen (String.ofList name)).getD "").toList
    match readEntry valueOf entry with
    | .nothing => readFrom set seen rest
    | .variable_ name value =>
      readFrom set (seen ++ [(String.ofList name, String.ofList value)]) rest
    | .malformed => seen
  | _ => seen

/-- The look-up in variables that are set and, for the others, in a file. -/
def layered (set : String → Option String) (content : String) : String → Option String :=
  valueIn set (readFrom set [] (entries content.toList))

example : (readFrom (fun _ => none) [] (entries "A=1\nB='x\ny' # z\nC=$A".toList)) =
    [("A", "1"), ("B", "x\ny"), ("C", "1")] := by decide +kernel

end ServiceHost.VariableFile
