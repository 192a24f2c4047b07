import RequestSpans.Span

set_option autoImplicit false

namespace RequestSpans

structure Handler where
  component : String
  method? : Option String
deriving Repr, DecidableEq, Inhabited

namespace Handler

def display (handler : Handler) : String :=
  match handler.method? with
  | some method => handler.component ++ "::" ++ method
  | none => handler.component

def behindLastPair (reversed : List Char) : List Char :=
  match reversed with
  | ':' :: ':' :: _ => []
  | c :: rest => c :: behindLastPair rest
  | [] => []

def simpleName (handler : Handler) : String :=
  String.ofList (behindLastPair handler.component.toList.reverse).reverse

def operationName (handler : Handler) : String := handler.method?.getD handler.simpleName

def logFields (handler : Handler) : List Attribute :=
  [("handler", .text handler.display), ("handler.class_simple_name", .text handler.simpleName)]
    ++ (handler.method?.map fun method => ("handler.method_name", Scalar.text method)).toList

end Handler

end RequestSpans
