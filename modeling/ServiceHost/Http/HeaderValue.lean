import ServiceHost.Text.Utf8

/-!
Header values: octets without control characters, the tab apart. A value reads as text only where all of
it is visible ASCII, blanks or tabs.
-/

namespace ServiceHost.Http

/-- An octet that may stand in a header value. -/
def isValueOctet (octet : UInt8) : Bool :=
  octet == 9 || (32 ≤ octet && octet != 127)

/-- An octet that reads as text. -/
def isVisibleOctet (octet : UInt8) : Bool :=
  octet == 9 || (32 ≤ octet && octet < 127)

/-- The value of a header. -/
structure HeaderValue where
  octets : Bytes
  legal : octets.all isValueOctet := by decide
  deriving DecidableEq, Repr

namespace HeaderValue

/-- The value of these octets, if none of them is a control character. -/
def ofBytes? (octets : Bytes) : Option HeaderValue :=
  if legal : octets.all isValueOctet then some ⟨octets, legal⟩ else none

/-- The value that a text makes, if it holds no control character. -/
def ofString? (text : String) : Option HeaderValue :=
  ofBytes? (Bytes.ofString text)

/-- A value reads as text if each of its octets does. -/
def toString? (value : HeaderValue) : Option String :=
  if value.octets.all isVisibleOctet then
    some (String.ofList (value.octets.map fun octet => Char.ofNat octet.toNat))
  else none

def noCache : HeaderValue :=
  ⟨Bytes.ofString "no-cache, no-store, must-revalidate", by decide⟩

def noCachePragma : HeaderValue := ⟨Bytes.ofString "no-cache", by decide⟩

def expired : HeaderValue := ⟨Bytes.ofString "0", by decide⟩

def plainText : HeaderValue := ⟨Bytes.ofString "text/plain; charset=utf-8", by decide⟩

def json : HeaderValue := ⟨Bytes.ofString "application/json", by decide⟩

def xml : HeaderValue := ⟨Bytes.ofString "application/xml; charset=utf-8", by decide⟩

@[ext] theorem ext {first second : HeaderValue} (same : first.octets = second.octets) :
    first = second := by
  cases first
  cases second
  simp_all

end HeaderValue

end ServiceHost.Http
