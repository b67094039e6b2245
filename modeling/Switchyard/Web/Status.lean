/-!
# Status codes

A status is a number of three digits. The numbers that are assigned have a reason phrase.
-/

namespace Switchyard.Web

/-- A status code. -/
structure Status where
  code : Nat
  inRange : 100 ≤ code ∧ code < 1000 := by decide
  deriving Repr, DecidableEq

namespace Status

def ok : Status := { code := 200 }
def badRequest : Status := { code := 400 }
def notFound : Status := { code := 404 }
def methodNotAllowed : Status := { code := 405 }
def notAcceptable : Status := { code := 406 }
def requestTimeout : Status := { code := 408 }
def payloadTooLarge : Status := { code := 413 }
def unsupportedMediaType : Status := { code := 415 }
def internalServerError : Status := { code := 500 }

instance : Inhabited Status := ⟨ok⟩

/-- The status with this code, if the code has three digits. -/
def ofCode? (code : Nat) : Option Status :=
  if h : 100 ≤ code ∧ code < 1000 then some ⟨code, h⟩ else none

/-- Is the request at fault? -/
def isClientError (s : Status) : Bool :=
  400 ≤ s.code && s.code < 500

/-- Did the request succeed? -/
def isSuccess (s : Status) : Bool :=
  200 ≤ s.code && s.code < 300

/-- The reason phrase of an assigned code. -/
def reason? (s : Status) : Option String :=
  match s.code with
  | 100 => "Continue"
  | 101 => "Switching Protocols"
  | 102 => "Processing"
  | 103 => "Early Hints"
  | 200 => "OK"
  | 201 => "Created"
  | 202 => "Accepted"
  | 203 => "Non Authoritative Information"
  | 204 => "No Content"
  | 205 => "Reset Content"
  | 206 => "Partial Content"
  | 207 => "Multi-Status"
  | 208 => "Already Reported"
  | 226 => "IM Used"
  | 300 => "Multiple Choices"
  | 301 => "Moved Permanently"
  | 302 => "Found"
  | 303 => "See Other"
  | 304 => "Not Modified"
  | 305 => "Use Proxy"
  | 307 => "Temporary Redirect"
  | 308 => "Permanent Redirect"
  | 400 => "Bad Request"
  | 401 => "Unauthorized"
  | 402 => "Payment Required"
  | 403 => "Forbidden"
  | 404 => "Not Found"
  | 405 => "Method Not Allowed"
  | 406 => "Not Acceptable"
  | 407 => "Proxy Authentication Required"
  | 408 => "Request Timeout"
  | 409 => "Conflict"
  | 410 => "Gone"
  | 411 => "Length Required"
  | 412 => "Precondition Failed"
  | 413 => "Payload Too Large"
  | 414 => "URI Too Long"
  | 415 => "Unsupported Media Type"
  | 416 => "Range Not Satisfiable"
  | 417 => "Expectation Failed"
  | 418 => "I'm a teapot"
  | 421 => "Misdirected Request"
  | 422 => "Unprocessable Entity"
  | 423 => "Locked"
  | 424 => "Failed Dependency"
  | 425 => "Too Early"
  | 426 => "Upgrade Required"
  | 428 => "Precondition Required"
  | 429 => "Too Many Requests"
  | 431 => "Request Header Fields Too Large"
  | 451 => "Unavailable For Legal Reasons"
  | 500 => "Internal Server Error"
  | 501 => "Not Implemented"
  | 502 => "Bad Gateway"
  | 503 => "Service Unavailable"
  | 504 => "Gateway Timeout"
  | 505 => "HTTP Version Not Supported"
  | 506 => "Variant Also Negotiates"
  | 507 => "Insufficient Storage"
  | 508 => "Loop Detected"
  | 510 => "Not Extended"
  | 511 => "Network Authentication Required"
  | _ => none

/-- The code and the reason phrase. -/
def text (s : Status) : String :=
  toString s.code ++ " " ++ s.reason?.getD "<unknown status code>"

/-! ### Lemmas -/

theorem code_of_ofCode? {code : Nat} {status : Status} (h : ofCode? code = some status) :
    status.code = code := by
  rw [ofCode?] at h
  split at h
  · rw [← Option.some.inj h]
  · cases h

end Status

end Switchyard.Web
