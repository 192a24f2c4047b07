set_option autoImplicit false

namespace RequestSpans

inductive BuildError where
  | skipPattern (pattern : String)
  | urlPattern (pattern reason : String)
deriving Repr, DecidableEq, Inhabited

def BuildError.message : BuildError → String
  | .skipPattern pattern => "invalid skip pattern `" ++ pattern ++ "`"
  | .urlPattern pattern reason => "invalid url pattern `" ++ pattern ++ "`: " ++ reason

end RequestSpans
