import RestService.Text.Blank
import RestService.Xml.Event

set_option autoImplicit false

namespace RestService.XmlElement

/-- The elements that are open, innermost first, and the root once it is complete. -/
structure Assembly where
  opened : List XmlElement := []
  root? : Option XmlElement := none

def addChild : XmlElement → XmlElement → XmlElement
  | node name text children, child => node name text (children ++ [child])

def addText : XmlElement → String → XmlElement
  | node name text children, s => node name (text ++ s) children

namespace Assembly

/-- The assembly with a complete element, which is a child of the innermost open one, or the root.
-/
def attach (a : Assembly) (element : XmlElement) : Except Problem Assembly :=
  match a.opened, a.root? with
  | parent :: outer, _ => .ok { a with opened := parent.addChild element :: outer }
  | [], some _ => .error .secondRoot
  | [], none => .ok { a with root? := some element }

/-- The assembly with a text; outside the root only blanks may stand. -/
def appendText (a : Assembly) (s : String) : Except Problem Assembly :=
  match a.opened with
  | parent :: outer => .ok { a with opened := parent.addText s :: outer }
  | [] => if Text.isAllBlank s then .ok a else .error .textOutsideRoot

def step (a : Assembly) : XmlEvent → Except Problem Assembly
  | .start name => .ok { a with opened := node name "" [] :: a.opened }
  | .empty name => a.attach (node name "" [])
  | .close name =>
    match a.opened with
    | [] => .error (.mismatchedEnd name)
    | innermost :: outer =>
      if innermost.name = name then Assembly.attach { a with opened := outer } innermost
      else .error (.mismatchedEnd name)
  | .text s => a.appendText s
  | .verbatim s => a.appendText s

def finish (a : Assembly) : Except Problem XmlElement :=
  match a.opened, a.root? with
  | innermost :: _, _ => .error (.unexpectedEnd innermost.name)
  | [], some root => .ok root
  | [], none => .error .noRoot

end Assembly

def ofEvents (events : List XmlEvent) : Except Problem XmlElement := do
  (← events.foldlM Assembly.step {}).finish

def read (s : String) : Except Problem XmlElement := do
  let scan := XmlEvent.scanDocument s
  let assembly ← scan.events.foldlM Assembly.step {}
  match scan.problem? with
  | some problem => throw problem
  | none => assembly.finish

end RestService.XmlElement
