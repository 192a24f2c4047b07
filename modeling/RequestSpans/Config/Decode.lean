import RequestSpans.Config.Basic
import RequestSpans.Json
import RequestSpans.Text.Quoted

set_option autoImplicit false

namespace RequestSpans

inductive DecodeError where
  | wrongType (found : Json) (wanted : String)
  | noPatterns
  | tooLong (length : Nat)

namespace DecodeError

-- Numbers in messages are positional while the point stands at most sixteen
-- digits in and no more than four zeros follow it.
def numberLayout : Decimal.Layout := ⟨fun point => -5 < point && point ≤ 16, true⟩

def describe : Json → String
  | .null => "null"
  | .bool value => "boolean `" ++ toString value ++ "`"
  | .int value => "integer `" ++ toString value ++ "`"
  | .float negative value =>
    "floating point `" ++ (if negative then "-" else "") ++ numberLayout.render value ++ "`"
  | .text value => "string " ++ Text.Quoted.encode value
  | .unpaired => "string"
  | .array _ => "sequence"
  | .object _ => "map"

def message : DecodeError → String
  | .wrongType found wanted => "invalid type: " ++ describe found ++ ", expected " ++ wanted
  | .noPatterns => "data did not match any variant of untagged enum OneOrMany"
  | .tooLong length =>
    "invalid length " ++ toString length ++ ", expected fewer elements in array"

end DecodeError

namespace TracingConfig

abbrev Decoder (α : Type) := Json → Except DecodeError α

def flag : Decoder Bool
  | .bool value => .ok value
  | other => .error (.wrongType other "a boolean")

def text : Decoder String
  | .text value => .ok value
  | other => .error (.wrongType other "a string")

def texts : Decoder (List String)
  | .array items => items.mapM text
  | other => .error (.wrongType other "a sequence")

def patterns : Decoder (List String)
  | .text value => .ok [value]
  | .array items =>
    match items.mapM text with
    | .ok values => .ok values
    | .error _ => .error .noPatterns
  | _ => .error .noPatterns

def member {α : Type} (members : List (String × Json)) (key : String) (decode : Decoder α)
    (default : α) : Except DecodeError α :=
  match Json.member? members key with
  | some value => decode value
  | none => .ok default

def element {α : Type} (items : List Json) (index : Nat) (decode : Decoder α) (default : α) :
    Except DecodeError α :=
  match items[index]? with
  | some value => decode value
  | none => .ok default

def atMost {α : Type} (items : List Json) (count : Nat) (value : α) : Except DecodeError α :=
  if count < items.length then .error (.tooLong items.length) else .ok value

def side (name : String) (default : SideConfig) : Decoder SideConfig
  | .object members => do
    let component ← member members "component-name" text default.component
    let enabled ← member members "enabled" flag default.enabled
    .ok ⟨enabled, component⟩
  | .array items => do
    let enabled ← element items 0 flag default.enabled
    let component ← element items 1 text default.component
    atMost items 2 ⟨enabled, component⟩
  | other => .error (.wrongType other name)

def serverSide : Decoder SideConfig := side "struct ServerConfig" defaultServer

def clientSide : Decoder SideConfig := side "struct ClientConfig" defaultClient

-- Members are looked at in alphabetical order and elements in theirs; the first
-- that is wrong makes the error.
def decode : Decoder TracingConfig
  | .object members => do
    let client ← member members "client" clientSide default.client
    let enabled ← member members "enabled" flag default.enabled
    let ignoreDefaults ←
      member members "ignore-default-skip-patterns" flag default.ignoreDefaultSkipPatterns
    let server ← member members "server" serverSide default.server
    let skipPatterns ← member members "skip-pattern" patterns default.skipPatterns
    let urlPatterns ← member members "url-patterns" texts default.urlPatterns
    .ok ⟨enabled, skipPatterns, ignoreDefaults, urlPatterns, server, client⟩
  | .array items => do
    let enabled ← element items 0 flag default.enabled
    let skipPatterns ← element items 1 patterns default.skipPatterns
    let ignoreDefaults ← element items 2 flag default.ignoreDefaultSkipPatterns
    let urlPatterns ← element items 3 texts default.urlPatterns
    let server ← element items 4 serverSide default.server
    let client ← element items 5 clientSide default.client
    atMost items 6 ⟨enabled, skipPatterns, ignoreDefaults, urlPatterns, server, client⟩
  | other => .error (.wrongType other "struct TracingConfig")

def keys : List String :=
  ["enabled", "skip-pattern", "ignore-default-skip-patterns", "url-patterns", "server", "client"]

def sideKeys : List String := ["enabled", "component-name"]

def distinctKeys (known : List String) : Json → Bool
  | .object members =>
    known.all fun key => (members.filter fun member => member.1 = key).length ≤ 1
  | _ => true

def unambiguous (value : Json) : Bool :=
  distinctKeys keys value &&
    match value with
    | .object members =>
      members.all fun (key, value) =>
        (key ≠ "server" && key ≠ "client") || distinctKeys sideKeys value
    | .array items => ((items.drop 4).take 2).all (distinctKeys sideKeys)
    | _ => true

def ofDocument? (document : String) : Option TracingConfig :=
  (Json.parse? document).bind fun value =>
    if unambiguous value then (decode value).toOption else none

end TracingConfig

end RequestSpans
