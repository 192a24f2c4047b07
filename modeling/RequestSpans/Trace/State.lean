import RequestSpans.Text.Split

set_option autoImplicit false

namespace RequestSpans

structure TraceState where
  members : List (String × String)
deriving Repr, DecidableEq, Inhabited

namespace TraceState

def empty : TraceState := ⟨[]⟩

def isLowerOrDigit (c : Char) : Bool := ('a' ≤ c && c ≤ 'z') || ('0' ≤ c && c ≤ '9')

def isKeyChar (c : Char) : Bool := isLowerOrDigit c || "_-*/@".toList.contains c

def isVendor (vendor : List Char) : Bool :=
  vendor.length ≤ 13 &&
    match vendor with
    | [] => true
    | c :: rest => isLowerOrDigit c && !rest.contains '@'

def isKey (key : List Char) : Bool :=
  key.length ≤ 256 && key.all isKeyChar &&
    (match key with
      | [] => true
      | c :: _ => isLowerOrDigit c) &&
    match Text.splitFirst '@' key with
    | none => true
    | some (_, vendor) => isVendor vendor

def isValue (value : List Char) : Bool :=
  value.length ≤ 256 && !value.contains ',' && !value.contains '='

def member? (text : List Char) : Option (String × String) :=
  (Text.splitFirst '=' text).bind fun (key, rest) =>
    let value := rest.dropWhile (· = '=')
    if isKey key && isValue value then some (String.ofList key, String.ofList value) else none

def parse? (text : String) : Option TraceState :=
  ((Text.splitTerminated ',' text.toList).mapM member?).map TraceState.mk

def render (state : TraceState) : String :=
  ",".intercalate (state.members.map fun (key, value) => key ++ "=" ++ value)

end TraceState

end RequestSpans
