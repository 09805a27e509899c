import Accord.Text.Case
import Accord.Text.Utf8

namespace Accord.Message

def isTokenChar (c : Char) : Bool := c.isAlphanum || "!#$%&'*+-.^_`|~".toList.contains c

def isToken (s : String) : Bool := !s.isEmpty && s.toList.all isTokenChar

def headerName? (s : String) : Option String :=
  if isToken s && s.length < 65536 then some (Text.asciiLower s) else none

/-- Control characters other than the tab cannot stand in header values. -/
def isValueByte (b : UInt8) : Bool := (32 ≤ b && b != 127) || b == 9

def isHeaderValue (bytes : Bytes) : Bool := bytes.all isValueByte

/-- The text of a header value that holds visible ASCII, blanks and tabs only. -/
def visibleText? (bytes : Bytes) : Option String :=
  if bytes.all fun b => (32 ≤ b && b < 127) || b == 9 then
    some (String.ofList (bytes.map fun b => Char.ofNat b.toNat))
  else none

end Accord.Message
