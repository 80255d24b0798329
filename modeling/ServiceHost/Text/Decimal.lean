/-!
Decimal numerals: how a natural number is written, and how a text is read as a natural number below a
bound. A text may open with one plus sign; after it stand ASCII digits and nothing else. Numerals of
real numbers are only recognised.
-/

namespace ServiceHost.Text

/-- Why a text is no natural number below the bound. -/
inductive NumeralError where
  | empty
  | digit
  | large
  deriving DecidableEq, Repr

/-- The wording of a reason. -/
def NumeralError.message : NumeralError → String
  | .empty => "cannot parse integer from empty string"
  | .digit => "invalid digit found in string"
  | .large => "number too large to fit in target type"

/-- Ten to the power of an exponent. -/
def tenTo (exponent : Nat) : Nat := Nat.pow 10 exponent

/-- Two to the power of an exponent. -/
def twoTo (exponent : Nat) : Nat := Nat.pow 2 exponent

/-- The bound of numbers of sixty-four bits. -/
def wordBound : Nat := twoTo 64

/-- The value of an ASCII digit. -/
def digitValue? (c : Char) : Option Nat :=
  if c.isDigit then some (c.toNat - '0'.toNat) else none

/-- The value of digits after a number already read. Reading stops at the first character that is no
digit or that makes the number reach the bound. -/
def readDigits (bound : Nat) (value : Nat) : List Char → Except NumeralError Nat
  | [] => .ok value
  | c :: rest =>
    match digitValue? c with
    | none => .error .digit
    | some digit =>
      if value * 10 + digit < bound then readDigits bound (value * 10 + digit) rest
      else .error .large

/-- The natural number below the bound that a text denotes. -/
def readNatural (bound : Nat) (text : List Char) : Except NumeralError Nat :=
  match text with
  | [] => .error .empty
  | ['+'] => .error .digit
  | '+' :: digits => readDigits bound 0 digits
  | digits => readDigits bound 0 digits

/-- Is a text an exponent or nothing? -/
def isExponent (text : List Char) : Bool :=
  match text with
  | [] => true
  | mark :: power =>
    let digits := if power.head?.any fun c => c == '+' || c == '-' then power.drop 1 else power
    mark.toLower == 'e' && !digits.isEmpty && digits.all Char.isDigit

/-- Is a text the numeral of a real number without its sign? There is a digit on one side of the point,
and what is no finite number has a name. -/
def isUnsignedReal (text : List Char) : Bool :=
  let rest := text.dropWhile Char.isDigit
  let fraction := if rest.head? = some '.' then rest.drop 1 else []
  let exponent := if rest.head? = some '.' then fraction.dropWhile Char.isDigit else rest
  let named := ["inf", "infinity", "nan"].any fun name => name.toList == text.map Char.toLower
  let valued := text.head?.any Char.isDigit || fraction.head?.any Char.isDigit
  named || (valued && isExponent exponent)

/-- Is a text the numeral of a real number? -/
def isReal (text : List Char) : Bool :=
  isUnsignedReal (if text.head?.any fun c => c == '+' || c == '-' then text.drop 1 else text)

example : ["5", "+5", "-.5", "5.", "1e+5", "+INF", "nan"].all (isReal ·.toList) := by decide
example : ["", "+", ".", "e5", "1e", "+-5", "infin", "1.5.", "++5"].any (isReal ·.toList) = false := by
  decide

/-- The decimal digits of a number, padded with leading zeros to a width. -/
def padded (width value : Nat) : List Char :=
  let digits := Nat.toDigits 10 value
  List.replicate (width - digits.length) '0' ++ digits

/-- The fraction of a number of places, without the zeros at its end: nothing at all for zero, and else
the point and the digits. -/
def fraction (places value : Nat) : List Char :=
  let digits := ((padded places value).reverse.dropWhile (· == '0')).reverse
  if digits.isEmpty then [] else '.' :: digits

end ServiceHost.Text
