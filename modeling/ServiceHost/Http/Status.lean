/-!
Response statuses: three-digit codes, the phrases registered for them and the class of answer that each
announces.
-/

namespace ServiceHost.Http

/-- The phrase registered for a status code. -/
def registeredPhrase : Nat → Option String
  | 100 => some "Continue"
  | 101 => some "Switching Protocols"
  | 102 => some "Processing"
  | 103 => some "Early Hints"
  | 200 => some "OK"
  | 201 => some "Created"
  | 202 => some "Accepted"
  | 203 => some "Non Authoritative Information"
  | 204 => some "No Content"
  | 205 => some "Reset Content"
  | 206 => some "Partial Content"
  | 207 => some "Multi-Status"
  | 208 => some "Already Reported"
  | 226 => some "IM Used"
  | 300 => some "Multiple Choices"
  | 301 => some "Moved Permanently"
  | 302 => some "Found"
  | 303 => some "See Other"
  | 304 => some "Not Modified"
  | 305 => some "Use Proxy"
  | 307 => some "Temporary Redirect"
  | 308 => some "Permanent Redirect"
  | 400 => some "Bad Request"
  | 401 => some "Unauthorized"
  | 402 => some "Payment Required"
  | 403 => some "Forbidden"
  | 404 => some "Not Found"
  | 405 => some "Method Not Allowed"
  | 406 => some "Not Acceptable"
  | 407 => some "Proxy Authentication Required"
  | 408 => some "Request Timeout"
  | 409 => some "Conflict"
  | 410 => some "Gone"
  | 411 => some "Length Required"
  | 412 => some "Precondition Failed"
  | 413 => some "Payload Too Large"
  | 414 => some "URI Too Long"
  | 415 => some "Unsupported Media Type"
  | 416 => some "Range Not Satisfiable"
  | 417 => some "Expectation Failed"
  | 418 => some "I'm a teapot"
  | 421 => some "Misdirected Request"
  | 422 => some "Unprocessable Entity"
  | 423 => some "Locked"
  | 424 => some "Failed Dependency"
  | 425 => some "Too Early"
  | 426 => some "Upgrade Required"
  | 428 => some "Precondition Required"
  | 429 => some "Too Many Requests"
  | 431 => some "Request Header Fields Too Large"
  | 451 => some "Unavailable For Legal Reasons"
  | 500 => some "Internal Server Error"
  | 501 => some "Not Implemented"
  | 502 => some "Bad Gateway"
  | 503 => some "Service Unavailable"
  | 504 => some "Gateway Timeout"
  | 505 => some "HTTP Version Not Supported"
  | 506 => some "Variant Also Negotiates"
  | 507 => some "Insufficient Storage"
  | 508 => some "Loop Detected"
  | 510 => some "Not Extended"
  | 511 => some "Network Authentication Required"
  | _ => none

/-- A status code has three digits. -/
structure Status where
  code : Nat
  three_digits : 100 ≤ code ∧ code ≤ 999 := by decide
  deriving DecidableEq, Repr

/-- The class of an answer. -/
inductive Classification where
  | success
  | fail
  | error
  deriving DecidableEq, Repr

/-- The name of a class in records. -/
def Classification.label : Classification → String
  | .success => "success"
  | .fail => "fail"
  | .error => "error"

namespace Status

def ok : Status := ⟨200, by decide⟩

def badRequest : Status := ⟨400, by decide⟩

def notFound : Status := ⟨404, by decide⟩

def methodNotAllowed : Status := ⟨405, by decide⟩

def requestTimeout : Status := ⟨408, by decide⟩

def failedDependency : Status := ⟨424, by decide⟩

def internalServerError : Status := ⟨500, by decide⟩

def notImplemented : Status := ⟨501, by decide⟩

def badGateway : Status := ⟨502, by decide⟩

def serviceUnavailable : Status := ⟨503, by decide⟩

instance : Inhabited Status := ⟨ok⟩

/-- The status of a code, if the code has three digits. -/
def ofNat? (code : Nat) : Option Status :=
  if three_digits : 100 ≤ code ∧ code ≤ 999 then some ⟨code, three_digits⟩ else none

/-- The phrase registered for the status. -/
def reason (status : Status) : Option String :=
  registeredPhrase status.code

/-- Codes from 400 on are failures of the caller, codes from 500 on are errors of the service. -/
def classify (status : Status) : Classification :=
  if status.code < 400 then .success else if status.code < 500 then .fail else .error

theorem classify_eq_success_iff {status : Status} :
    status.classify = .success ↔ status.code < 400 := by
  unfold classify
  split
  · simp [*]
  · split <;> simp [*]

/-- The status is one of the two hundreds. -/
def isSuccessful (status : Status) : Bool :=
  200 ≤ status.code && status.code < 300

end Status

end ServiceHost.Http
