import RequestSpans.Http.Header
import RequestSpans.Http.Uri
import RequestSpans.Text.Split

set_option autoImplicit false

namespace RequestSpans.Target

-- Host and port from the target's authority, otherwise from the `Host` header.
-- The header's text behind its last colon counts as a port only if it is a port
-- number.
def authority? (uri : Uri) (headers : Headers) : Option (String × Option Nat) :=
  match uri.host? with
  | some host => some (host, uri.port?)
  | none =>
    (headers.text? "host").map fun host =>
      match Text.splitLast ':' host.toList with
      | some (name, port) =>
        match Text.unsigned? 10 65535 port with
        | some number => (String.ofList name, some number)
        | none => (host, none)
      | none => (host, none)

def forwardedProto? (value : String) : Option String :=
  let element := value.toList.takeWhile (· ≠ ',')
  let pairs := (Text.split ';' element).filterMap fun pair =>
    Text.splitFirst '=' (Text.trimWhile Text.isBlank pair)
  (pairs.find? fun pair => Text.equalsFolded pair.1 "proto".toList).map fun pair =>
    String.ofList (Text.trimWhile (· = '"') pair.2)

def firstListed (value : String) : String :=
  String.ofList (Text.trimWhile Text.isBlank (value.toList.takeWhile (· ≠ ',')))

def forwardedScheme? (headers : Headers) : Option String :=
  let forwarded := (headers.text? "forwarded").bind forwardedProto?
  let reported := forwarded.or ((headers.text? "x-forwarded-proto").map firstListed)
  reported.filter (!·.isEmpty)

def absoluteUrl (uri : Uri) (headers : Headers) : String :=
  if uri.scheme.isSome then uri.render
  else
    let path := uri.pathAndQuery?.getD "/"
    match headers.text? "host" with
    | some host => (forwardedScheme? headers).getD "http" ++ "://" ++ host ++ path
    | none => path

end RequestSpans.Target
