set_option autoImplicit false

namespace RestService

/-- Where a text leaves its grammar, and why. -/
inductive SourceError
  | header (text reason : String)
  /-- Lines and columns count from 1, columns in characters. -/
  | rule (line column : Nat) (reason : String)
  | hint (line : Nat) (reason : String)
  deriving DecidableEq, Repr

def SourceError.message : SourceError → String
  | header text reason => s!"illegal header [{text}]: {reason}"
  | rule line column reason => s!"rule syntax error at {line}:{column}: {reason}"
  | hint line reason => s!"hint syntax error on line {line}: {reason}"

end RestService
