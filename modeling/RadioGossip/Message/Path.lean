import RadioGossip.Text.Utf8

/-!
# Paths

The **path** of a message is a text that names the stations it went through, one callsign after the
other with a semicolon between two. It is read as the list of its **hops**: the empty text has
none, and any other text has one more than it has semicolons. A text from elsewhere may well have
empty hops; a station only ever appends.
-/

namespace RadioGossip

/-- The stations that a message went through, as they stand in one text. -/
structure Path where
  text : String
  deriving DecidableEq, Repr

namespace Path

/-- What stands between two hops. -/
def separator : Char := ';'

/-- The most bytes of a path that its length on the wire can say. -/
def maxLength : Nat := 65535

/-- The path of a message that went nowhere yet. -/
def empty : Path := ⟨""⟩

instance : Inhabited Path := ⟨empty⟩

/-- The pieces between separators. There is always at least one. -/
def pieces : List Char → List (List Char)
  | [] => [[]]
  | c :: cs =>
    match pieces cs with
    | [] => [[c]]
    | piece :: others => if c = separator then [] :: piece :: others else (c :: piece) :: others

/-- The callsigns of a path in the order in which the message passed them. -/
def hops (path : Path) : List String :=
  if path.text = "" then [] else (pieces path.text.toList).map String.ofList

/-- Whether a callsign is one of the hops. -/
def contains (path : Path) (callsign : String) : Bool := path.hops.contains callsign

/-- Records one more hop at the end. -/
def append (path : Path) (callsign : String) : Path :=
  if path.text = "" then ⟨callsign⟩ else ⟨path.text ++ String.singleton separator ++ callsign⟩

/-- The bytes of a path. -/
def utf8 (path : Path) : Bytes := Text.utf8 path.text

/-- The number of bytes of a path. -/
def length (path : Path) : Nat := path.text.utf8ByteSize

theorem length_utf8 (path : Path) : path.utf8.length = path.length := Text.length_utf8 path.text

end Path

end RadioGossip
