import ServiceHost.Text.Alphanumeric
import ServiceHost.Text.Blank
import ServiceHost.Text.Hexadecimal

/-!
The grammar of regular expressions: which texts are patterns of a matcher. A pattern is read from left to
right, with the groups and the bracketed sets that are open. Flags decide whether blanks and comments
count for nothing and whether sets hold characters of Unicode; a matcher takes text, so that without
Unicode a pattern must not ask for single octets beyond ASCII.
-/

namespace ServiceHost.RegularExpression

/-- Why a text gives no matcher. -/
inductive Fault where
  | malformed
  | wordBoundary
  deriving DecidableEq, Repr

/-- The wording of a fault. -/
def Fault.message : Fault → String
  | .malformed => "error building NFA"
  | .wordBoundary =>
    "unsupported regex feature for DFAs: cannot build DFAs for regexes with Unicode word boundaries; " ++
      "switch to ASCII word boundaries, or heuristically enable Unicode word boundaries or use a " ++
      "different regex engine"

/-! ### What is open -/

/-- Parts that stand side by side: their number, and how deep the deepest one nests. -/
structure Parts where
  count : Nat := 0
  depth : Nat := 0

/-- The parts with one more. -/
def Parts.add (parts : Parts) (depth : Nat) : Parts :=
  ⟨parts.count + 1, max parts.depth depth⟩

/-- How deep parts nest together. A single part nests as deep as it does alone. -/
def Parts.together (parts : Parts) : Nat :=
  if parts.count ≤ 1 then parts.depth else parts.depth + 1

/-- The deepest nesting of a pattern. -/
def deepest : Nat := 250

/-- The flags that bear upon the grammar. -/
structure Flags where
  verbose : Bool := false
  unicode : Bool := true

/-- The flags after one of them was switched. -/
def Flags.switch (flags : Flags) (flag : Char) (value : Bool) : Flags :=
  if flag = 'x' then { flags with verbose := value }
  else if flag = 'u' then { flags with unicode := value }
  else flags

/-- An open group: the branches before the last bar, the parts behind it, how deep the last part nests if
it may be repeated, and the flags that hold. -/
structure Group where
  branches : Parts := {}
  parts : Parts := {}
  last : Option Nat := none
  flags : Flags := {}

/-- How deep the content of a group nests. -/
def Group.depth (group : Group) : Nat :=
  (group.branches.add group.parts.together).together

/-- An open bracketed set: how deep the operands before the last operator nest, and the items behind it. -/
structure Bracket where
  operands : Option Nat := none
  items : Parts := {}

/-- How deep the content of a bracketed set nests. -/
def Bracket.depth (bracket : Bracket) : Nat :=
  match bracket.operands with
  | none => bracket.items.together
  | some depth => max depth bracket.items.together + 1

/-! ### The reading of a pattern -/

/-- Where a character stands: among the parts of a group, among the items of a bracketed set, or at the
end of a range. -/
inductive Place where
  | part
  | item
  | rangeEnd (start : Char)

/-- What the next character belongs to. -/
inductive Mode where
  | part
  | repetition
  | escape (place : Place)
  | code (place : Place) (octet : Bool) (missing value : Nat)
  | category (place : Place)
  | group
  | query
  | angle
  | name (read : List Char)
  | flags (seen : List Char) (negated dangling : Bool) (flags : Flags)
  | bracket (mayNegate mayClose : Bool)
  | item
  | behindItem (literal : Option Char)
  | rangeEnd (start : Char)
  | skipped (count : Nat)

/-- Do blanks and comments count for nothing here where they are allowed? -/
def Mode.isSpaced : Mode → Bool
  | .part | .code .. | .category _ | .group | .bracket .. | .item | .behindItem _ | .rangeEnd _ => true
  | _ => false

/-- How the reading of a pattern stands. The innermost group and bracketed set come first. -/
structure State where
  mode : Mode := .part
  comment : Bool := false
  group : Group := {}
  outer : List Group := []
  brackets : List Bracket := []
  names : List (List Char) := []
  wordBoundary : Bool := false

namespace State

/-- The flags that hold. -/
def flags (state : State) : Flags := state.group.flags

/-- The reading after a part of a group. -/
def part (state : State) (depth : Nat) : State :=
  { state with
    mode := .part
    group := { state.group with parts := state.group.parts.add depth, last := some depth } }

/-- The reading after an item of a bracketed set. -/
def item (state : State) (depth : Nat) : State :=
  match state.brackets with
  | [] => state
  | bracket :: others =>
    { state with
      mode := .item, brackets := { bracket with items := bracket.items.add depth } :: others }

/-- The reading after a literal character, which may be written as an octet. -/
def literal (state : State) (place : Place) (octet : Bool) (c : Char) : Option State :=
  let narrow := !state.flags.unicode && 127 < c.toNat
  match place with
  | .part => if narrow && octet then none else some (state.part 0)
  | .item => if narrow then none else some { state with mode := .behindItem (some c) }
  | .rangeEnd start => if narrow || decide (c < start) then none else some (state.item 0)

/-- The reading after a named set of characters. A wide one reaches beyond ASCII. -/
def named (state : State) (place : Place) (wide : Bool) : Option State :=
  if wide && !state.flags.unicode then none
  else
    match place with
    | .part => some (state.part 0)
    | .item => some { state with mode := .behindItem none }
    | .rangeEnd _ => none

/-- The reading after an assertion, which a bracketed set cannot hold. -/
def assertion (state : State) (place : Place) (word : Bool) : Option State :=
  match place with
  | .part =>
    let wordBoundary := state.wordBoundary || (word && state.flags.unicode)
    some { state.part 0 with wordBoundary }
  | _ => none

/-- The control character that a letter stands for behind a backslash. -/
def control? (c : Char) : Option Char :=
  [('a', '\x07'), ('f', '\x0c'), ('t', '\t'), ('n', '\n'), ('r', '\r'), ('v', '\x0b')].lookup c

/-- The reading after the character behind a backslash. -/
def escaped (state : State) (place : Place) (c : Char) : Option State :=
  if c = 'x' then some { state with mode := .code place true 2 0 }
  else if c = 'u' then some { state with mode := .code place false 4 0 }
  else if c = 'U' then some { state with mode := .code place false 8 0 }
  else if c = 'p' ∨ c = 'P' then some { state with mode := .category place }
  else if ['d', 's', 'w'].contains c then state.named place false
  else if ['D', 'S', 'W'].contains c then state.named place true
  else if ['A', 'z'].contains c then state.assertion place false
  else if ['b', 'B', '<', '>'].contains c then state.assertion place true
  else if c.toNat < 128 && !c.isAlphanum then state.literal place false c
  else (control? c).bind (state.literal place false)

/-- The reading after a digit of the code of a character. -/
def digit (state : State) (place : Place) (octet : Bool) (missing value : Nat) (c : Char) :
    Option State :=
  match Text.hexValue? c with
  | none => none
  | some digit =>
    let value := value * 16 + digit
    if 1 < missing then some { state with mode := .code place octet (missing - 1) value }
    else if value.isValidChar then state.literal place octet (Char.ofNat value)
    else none

/-- The reading after the letter of a category of characters. -/
def category (state : State) (place : Place) (c : Char) : Option State :=
  if ['c', 'l', 'm', 'n', 'p', 's', 'z'].contains c.toLower then state.named place true else none

/-- The reading within a new group. -/
def openGroup (state : State) (flags : Flags) : State :=
  { state with mode := .part, group := { flags := flags }, outer := state.group :: state.outer }

/-- The reading behind the innermost group. -/
def closeGroup (state : State) : Option State :=
  match state.outer with
  | [] => none
  | group :: outer => some ({ state with group, outer }.part (state.group.depth + 1))

/-- The reading behind a bar. -/
def alternate (state : State) : State :=
  let branches := state.group.branches.add state.group.parts.together
  { state with group := { branches, flags := state.flags } }

/-- The reading after the last part was repeated. -/
def repeated (state : State) : Option State :=
  state.group.last.map fun depth =>
    { state with
      mode := .repetition
      group := { state.group with
        parts := { state.group.parts with depth := max state.group.parts.depth (depth + 1) }
        last := some (depth + 1) } }

/-- The reading within a new bracketed set. -/
def openBracket (state : State) : State :=
  { state with mode := .bracket true true, brackets := {} :: state.brackets }

/-- The reading behind the innermost bracketed set. -/
def closeBracket (state : State) : Option State :=
  match state.brackets with
  | [] => none
  | bracket :: [] => some ({ state with brackets := [] }.part (bracket.depth + 1))
  | bracket :: outer => some ({ state with brackets := outer }.item (bracket.depth + 1))

/-- The reading behind an operator of a bracketed set, whose second character is still to come. -/
def operator (state : State) : Option State :=
  match state.brackets with
  | [] => none
  | bracket :: outer =>
    some { state with mode := .skipped 1, brackets := { operands := some bracket.depth } :: outer }

/-- The reading after a character among the parts of a group. -/
def readPart (state : State) (c : Char) : Option State :=
  if c = '(' then some { state with mode := .group }
  else if c = ')' then state.closeGroup
  else if c = '|' then some state.alternate
  else if c = '[' then some state.openBracket
  else if c = '\\' then some { state with mode := .escape .part }
  else if c = '?' ∨ c = '*' ∨ c = '+' then state.repeated
  else if c = '\x7b' ∨ (c = '.' ∧ !state.flags.unicode) then none
  else if c = '.' ∨ c = '^' ∨ c = '$' then some (state.part 0)
  else state.literal .part false c

/-- The names of the ASCII sets that stand between colons in brackets. -/
def asciiSets : List String :=
  ["alnum", "alpha", "ascii", "blank", "cntrl", "digit", "graph", "lower", "print", "punct", "space",
    "upper", "word", "xdigit"]

/-- Whether an ASCII set behind a bracket is negated, and how long it is. -/
def asciiSet? (text : List Char) : Option (Bool × Nat) :=
  match text with
  | ':' :: rest =>
    let negated := rest.head? == some '^'
    let rest := if negated then rest.drop 1 else rest
    let name := rest.takeWhile (· != ':')
    if (rest.drop name.length).take 2 = [':', ']'] ∧ asciiSets.contains (String.ofList name) then
      some (negated, name.length + (if negated then 4 else 3))
    else none
  | _ => none

/-- The reading after a character among the items of a bracketed set, and before further ones. -/
def readItem (state : State) (c : Char) (rest : List Char) : Option State :=
  if c = '[' then
    match asciiSet? rest with
    | none => some state.openBracket
    | some (negated, length) =>
      if negated && !state.flags.unicode then none
      else some { state.item 0 with mode := .skipped length }
  else if c = ']' then state.closeBracket
  else if ['&', '-', '~'].contains c ∧ rest.head? = some c then state.operator
  else if c = '\\' then some { state with mode := .escape .item }
  else state.literal .item false c

/-- The character that tells whether a dash before it makes a range. A comment tells by its own first
character. -/
def behindDash? (verbose : Bool) (rest : List Char) : Option Char :=
  if verbose then
    match rest.dropWhile Text.isBlank with
    | '#' :: comment => (comment.dropWhile Text.isBlank).head?
    | text => text.head?
  else rest.head?

/-- The reading after a character behind an item, which is a literal or a named set. -/
def readBehindItem (state : State) (literal : Option Char) (c : Char) (rest : List Char) :
    Option State :=
  let next := behindDash? state.flags.verbose rest
  if c = '-' ∧ next ≠ some ']' ∧ next ≠ some '-' then
    literal.map fun start => { state with mode := .rangeEnd start }
  else (state.item 0).readItem c rest

/-- May a character stand in the name of a group? -/
def isNameChar (first : Bool) (c : Char) : Bool :=
  if first then c == '_' || Text.isAlphabetic c
  else ['_', '.', '[', ']'].contains c || Text.isAlphanumeric c

/-- The reading after a character in the name of a group. No two groups have one name. -/
def readName (state : State) (read : List Char) (c : Char) : Option State :=
  if c = '>' then
    if read = [] ∨ read ∈ state.names then none
    else some { state.openGroup state.flags with names := read :: state.names }
  else if isNameChar read.isEmpty c then some { state with mode := .name (read ++ [c]) }
  else none

/-- The letters of flags. -/
def flagLetters : List Char := ['i', 'm', 's', 'U', 'u', 'R', 'x']

/-- The reading after a character among flags. Each flag is given once, and what follows them is the group
for which they hold or the end of the one in which they hold from here on. -/
def readFlag (state : State) (seen : List Char) (negated dangling : Bool) (flags : Flags) (c : Char) :
    Option State :=
  if c = ':' then if dangling then none else some (state.openGroup flags)
  else if c = ')' then
    if dangling || seen.isEmpty then none
    else
      let parts := state.group.parts.add 0
      some { state with mode := .part, group := { state.group with parts, flags, last := none } }
  else if c = '-' then
    if negated then none else some { state with mode := .flags seen true true flags }
  else if seen.contains c || !flagLetters.contains c then none
  else some { state with mode := .flags (c :: seen) negated false (flags.switch c !negated) }

/-- The reading after a character at the start of a bracketed set, where dashes and one closing bracket
stand for themselves. -/
def readBracket (state : State) (mayNegate mayClose : Bool) (c : Char) (rest : List Char) :
    Option State :=
  if c = '^' ∧ mayNegate then
    if state.flags.unicode then some { state with mode := .bracket false true } else none
  else if c = '-' then some { state.item 0 with mode := .bracket false false }
  else if c = ']' ∧ mayClose then some (state.item 0)
  else state.readItem c rest

/-- The reading after a character that counts, which stands before the rest of the pattern. -/
def read (state : State) (c : Char) (rest : List Char) : Option State :=
  match state.mode with
  | .part | .repetition => state.readPart c
  | .escape place => state.escaped place c
  | .code place octet missing value => state.digit place octet missing value c
  | .category place => state.category place c
  | .group =>
    if c = '?' then some { state with mode := .query } else (state.openGroup state.flags).readPart c
  | .query =>
    if c = '<' then some { state with mode := .name [] }
    else if c = 'P' then some { state with mode := .angle }
    else state.readFlag [] false false state.flags c
  | .angle => if c = '<' then some { state with mode := .name [] } else none
  | .name read => state.readName read c
  | .flags seen negated dangling flags => state.readFlag seen negated dangling flags c
  | .bracket mayNegate mayClose => state.readBracket mayNegate mayClose c rest
  | .item => state.readItem c rest
  | .behindItem literal => state.readBehindItem literal c rest
  | .rangeEnd start =>
    if c = '\\' then some { state with mode := .escape (.rangeEnd start) }
    else state.literal (.rangeEnd start) false c
  | .skipped count => some { state with mode := if count ≤ 1 then .item else .skipped (count - 1) }

/-- The reading where blanks and comments may stand. -/
def readSpaced (state : State) (c : Char) (rest : List Char) : Option State :=
  let spaced := state.flags.verbose && state.mode.isSpaced
  if state.comment then some { state with comment := c != '\n' }
  else if spaced && Text.isBlank c then some state
  else if spaced && c == '#' then some { state with comment := true }
  else state.read c rest

/-- The reading after one more character. A question mark right behind a repetition makes it lazy. -/
def next (state : State) (c : Char) (rest : List Char) : Option State :=
  match state.mode with
  | .repetition =>
    let state := { state with mode := .part }
    if c = '?' then some state else state.readSpaced c rest
  | _ => state.readSpaced c rest

/-- Is the pattern complete? -/
def isComplete (state : State) : Bool :=
  match state.mode with
  | .part | .repetition => state.outer.isEmpty && decide (state.group.depth ≤ deepest)
  | _ => false

end State

/-- Reads the rest of a pattern. -/
def readFrom (state : State) : List Char → Option State
  | [] => if state.isComplete then some state else none
  | c :: rest => (state.next c rest).bind fun state => readFrom state rest

/-- Checks that a text is the pattern of a matcher. -/
def check (pattern : List Char) : Except Fault Unit :=
  match readFrom {} pattern with
  | none => .error .malformed
  | some state => if state.wordBoundary then .error .wordBoundary else .ok ()

end ServiceHost.RegularExpression
