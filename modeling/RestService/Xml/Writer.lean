import RestService.Xml.Element
import RestService.Xml.Escape

set_option autoImplicit false

namespace RestService.XmlElement

/-- A new line at some level. -/
def lineBreak (level : Nat) : List Char := '\n' :: List.replicate (2 * level) ' '

def startTag (name : String) : List Char := '<' :: name.toList ++ ['>']

def endTag (name : String) : List Char := '<' :: '/' :: name.toList ++ ['>']

def emptyTag (name : String) : List Char := '<' :: name.toList ++ ['/', '>']

mutual

def written (level : Nat) : XmlElement → List Char
  | node name text [] =>
    if text = "" then lineBreak level ++ emptyTag name
    else lineBreak level ++ startTag name ++ escape text.toList ++ endTag name
  | node name _ (child :: children) =>
    lineBreak level ++ startTag name ++ written (level + 1) child ++
      writtenAll (level + 1) children ++ lineBreak level ++ endTag name

def writtenAll (level : Nat) : List XmlElement → List Char
  | [] => []
  | child :: children => written level child ++ writtenAll level children

end

def declaration (charset : String) : String :=
  s!"<?xml version=\"1.0\" encoding=\"{charset}\"?>"

theorem toList_declaration (charset : String) :
    (declaration charset).toList =
      "<?xml version=\"1.0\" encoding=\"".toList ++ (charset.toList ++ "\"?>".toList) := by
  have whole : declaration charset =
      "<?xml version=\"1.0\" encoding=\"" ++ charset ++ "\"?>" := rfl
  rw [whole, String.toList_append, String.toList_append, List.append_assoc]

/-- The document of an element, which says that it is written in a charset. -/
def write (charset : String) (root : XmlElement) : String :=
  String.ofList ((declaration charset).toList ++ written 0 root ++ ['\n'])

end RestService.XmlElement
