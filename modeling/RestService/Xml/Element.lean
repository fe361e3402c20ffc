set_option autoImplicit false

namespace RestService

/-- An element: its tag, the text directly inside it, and the elements inside it. -/
inductive XmlElement
  | node (name text : String) (children : List XmlElement)
  deriving Inhabited

namespace XmlElement

def name : XmlElement → String
  | node name _ _ => name

def text : XmlElement → String
  | node _ text _ => text

def children : XmlElement → List XmlElement
  | node _ _ children => children

/-- What makes a text no document. -/
inductive Problem
  | unclosedMarkup
  | illegalMarkup
  | illegalReference
  /-- An end tag that does not belong to the innermost open element. -/
  | mismatchedEnd (name : String)
  | secondRoot
  | noRoot
  | textOutsideRoot
  | unexpectedEnd (openElement : String)
  deriving DecidableEq, Repr

def Problem.message : Problem → String
  | unclosedMarkup => "markup is not closed"
  | illegalMarkup => "illegal markup"
  | illegalReference => "illegal character or entity reference"
  | mismatchedEnd name => s!"end tag of <{name}> out of place"
  | secondRoot => "more than one root element"
  | noRoot => "no root element"
  | textOutsideRoot => "text outside the root element"
  | unexpectedEnd openElement => s!"unexpected end of document inside <{openElement}>"

end XmlElement

end RestService
