/-!
# JSON values

A document is a tree of values. Two things that a document may hold are kept only so far as they
matter to a reader who skips them: a number that is no natural number of 64 bits, and a string whose
escapes name one half of a surrogate pair and hence no text. Both are well-formed and neither can be
used.
The members of an object stand in the order of the document, repeated keys included.
-/

namespace RadioGossip

namespace Json

/-- A JSON value. -/
inductive Value where
  | null
  | bool (value : Bool)
  | natural (value : Nat)
  /-- A number with a sign, a fraction or an exponent, or one beyond every word. -/
  | otherNumber
  /-- A string, with its text if it has one. -/
  | string (text : Option String)
  | array (items : List Value)
  | object (members : List (Option String × Value))

namespace Value

/-- A string with a text. -/
def text (value : String) : Value := .string (some value)

/-- An object with these keys. -/
def record (members : List (String × Value)) : Value :=
  .object (members.map fun (key, value) => (some key, value))

end Value

end Json

end RadioGossip
