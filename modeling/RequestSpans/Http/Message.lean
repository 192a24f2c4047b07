import RequestSpans.Http.Header

set_option autoImplicit false

namespace RequestSpans

inductive Version where
  | http09
  | http10
  | http11
  | http2
  | http3
deriving Repr, DecidableEq, Inhabited

def Version.flavor : Version → String
  | .http09 => "0.9"
  | .http10 => "1.0"
  | .http11 => "1.1"
  | .http2 => "2.0"
  | .http3 => "3.0"

structure Status where
  code : Nat
  inRange : 100 ≤ code ∧ code ≤ 999
deriving DecidableEq

namespace Status

def ofNat? (code : Nat) : Option Status :=
  if h : 100 ≤ code ∧ code ≤ 999 then some ⟨code, h⟩ else none

def ok : Status := ⟨200, by decide⟩

def isServerError (status : Status) : Bool := 500 ≤ status.code && status.code < 600

def serverErrorPhrase? : Nat → Option String
  | 500 => some "Internal Server Error"
  | 501 => some "Not Implemented"
  | 502 => some "Bad Gateway"
  | 503 => some "Service Unavailable"
  | 504 => some "Gateway Timeout"
  | 505 => some "HTTP Version Not Supported"
  | 506 => some "Variant Also Negotiates"
  | 507 => some "Insufficient Storage"
  | 508 => some "Loop Detected"
  | 510 => some "Not Extended"
  | 511 => some "Network Authentication Required"
  | _ => none

def describe (status : Status) : String :=
  toString status.code ++ " " ++ (serverErrorPhrase? status.code).getD "<unknown status code>"

end Status

structure Response where
  status : Status
  headers : Headers
  body : String
deriving DecidableEq

-- What an error with this message is written as for debugging. That is up to the
-- error; the plain ones wrap their message.
class Fault.Debug (message : String) where
  text : String
deriving Repr, DecidableEq, Inhabited

instance (message : String) : Fault.Debug message := ⟨"Fault(" ++ message ++ ")"⟩

structure Fault where
  message : String
  causes : List String
  [written : Fault.Debug message]
deriving Repr, DecidableEq, Inhabited

namespace Fault

def debug (fault : Fault) : String := fault.written.text

def chain (fault : Fault) : List String := fault.message :: fault.causes

end Fault

abbrev Outcome := Except Fault Response

end RequestSpans
