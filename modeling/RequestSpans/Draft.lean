import RequestSpans.Request

set_option autoImplicit false

namespace RequestSpans

inductive DraftError where
  | method
  | uri
  | headerName
  | headerValue
  | status
deriving Repr, DecidableEq, Inhabited

namespace Draft

def headers : List (String × String) → Except DraftError Headers
  | [] => .ok .empty
  | fields => fields.foldlM add .empty
where
  add (headers : Headers) (field : String × String) : Except DraftError Headers :=
    if !Headers.isName field.1 then .error .headerName
    else if !Headers.isValue field.2 then .error .headerValue
    else .ok (headers.append field.1 (octets field.2))

end Draft

structure RequestDraft where
  method : String
  uri : String
  version : Version
  headers : List (String × String)
  body : String
deriving Repr, DecidableEq, Inhabited

namespace RequestDraft

def check (draft : RequestDraft) : Except DraftError Request :=
  if !isToken draft.method then .error .method
  else
    match Uri.parse? draft.uri with
    | none => .error .uri
    | some uri =>
      (Draft.headers draft.headers).map fun headers =>
        ⟨draft.method, uri, draft.version, headers, draft.body, .none⟩

end RequestDraft

inductive ReplyDraft where
  | response (status : Nat) (headers : List (String × String)) (body : String)
  | fault (fault : Fault)
deriving Repr, DecidableEq, Inhabited

namespace ReplyDraft

def checkStatus (status : Nat) : Except DraftError Status :=
  match Status.ofNat? status with
  | some status => .ok status
  | none => .error .status

def check : ReplyDraft → Except DraftError Outcome
  | .fault cause => .ok (.error cause)
  | .response code fields body =>
    (checkStatus code).bind fun status =>
      (Draft.headers fields).map fun headers => .ok ⟨status, headers, body⟩

end ReplyDraft

end RequestSpans
