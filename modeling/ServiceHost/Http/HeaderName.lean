import ServiceHost.Http.Token

/-!
Header names. A name is a token of at most 65535 characters; its case does not count, so that it is kept
in lower case.
-/

namespace ServiceHost.Http

/-- A character that may stand in a header name: a token character that is no upper-case letter. -/
def isNameChar (c : Char) : Bool :=
  isTokenChar c && !c.isUpper

/-- The texts of header names. -/
def isHeaderName (text : List Char) : Bool :=
  !text.isEmpty && text.all isNameChar && text.length ≤ 65535

/-- A header name in lower case. -/
structure HeaderName where
  text : String
  legal : isHeaderName text.toList := by decide
  deriving DecidableEq, Repr

namespace HeaderName

def cacheControl : HeaderName := ⟨"cache-control", by decide⟩

def pragma : HeaderName := ⟨"pragma", by decide⟩

def expires : HeaderName := ⟨"expires", by decide⟩

def contentType : HeaderName := ⟨"content-type", by decide⟩

def allow : HeaderName := ⟨"allow", by decide⟩

def userAgent : HeaderName := ⟨"user-agent", by decide⟩

def forwardedFor : HeaderName := ⟨"x-forwarded-for", by decide⟩

def requestId : HeaderName := ⟨"x-request-id", by decide⟩

instance : Inhabited HeaderName := ⟨requestId⟩

/-- The header name that a text denotes in any case. -/
def ofString? (text : String) : Option HeaderName :=
  let lower := String.ofList (text.toList.map Char.toLower)
  if legal : isHeaderName lower.toList then some ⟨lower, legal⟩ else none

@[ext] theorem ext {first second : HeaderName} (same : first.text = second.text) :
    first = second := by
  cases first
  cases second
  simp_all

end HeaderName

end ServiceHost.Http
