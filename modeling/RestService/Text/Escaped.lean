import RestService.Text.PrintTable

set_option autoImplicit false

namespace RestService.Text

def hexDigits (n : Nat) : List Char := Nat.toDigits 16 n

/-- A character by its number, such as `\u{200b}`. -/
def numberEscape (c : Char) : List Char :=
  '\\' :: 'u' :: '{' :: hexDigits c.toNat ++ ['}']

/-- Characters that can be seen as they are. -/
def isVisible (c : Char) : Bool :=
  if c.toNat < 0x7F then 0x20 ≤ c.toNat else !LetterTable.covers PrintTable.invisible c.toNat

/-- Marks that would be drawn onto the character before them. -/
def isJoining (c : Char) : Bool := LetterTable.covers PrintTable.joining c.toNat

def escaped (quote : Char) (c : Char) : List Char :=
  if c == '\x00' then ['\\', '0']
  else if c == '\t' then ['\\', 't']
  else if c == '\r' then ['\\', 'r']
  else if c == '\n' then ['\\', 'n']
  else if c == '\\' || c == quote then ['\\', c]
  else if isJoining c || !isVisible c then numberEscape c
  else [c]

def quotedChar (c : Char) : String := String.ofList ('\'' :: escaped '\'' c ++ ['\''])

def quoted (s : String) : String :=
  String.ofList ('"' :: s.toList.flatMap (escaped '"') ++ ['"'])

end RestService.Text
