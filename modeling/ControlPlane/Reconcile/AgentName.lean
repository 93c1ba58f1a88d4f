/-!
The name of an agent as a symbolic identifier: letters, digits and underscores of the basic Latin
alphabet, the first of them no digit.
-/

namespace ControlPlane.AgentName

/-- Whether a character can start an identifier. -/
def isInitial (c : Char) : Bool := c.isAlpha || c == '_'

/-- Whether a character can stand inside an identifier. -/
def isInner (c : Char) : Bool := c.isAlphanum || c == '_'

/-- A character inside an identifier, or an underscore in its place. -/
def inner (c : Char) : Char := if isInner c then c else '_'

/-- The identifier of a name, on its characters. A digit at the start is put behind an
underscore. -/
def identifierOf : List Char → List Char
  | [] => ['_']
  | c :: rest => if c.isDigit then '_' :: c :: rest.map inner else (c :: rest).map inner

/-- The identifier of a name: any other character becomes an underscore. -/
def identifier (name : String) : String := String.ofList (identifierOf name.toList)

end ControlPlane.AgentName
