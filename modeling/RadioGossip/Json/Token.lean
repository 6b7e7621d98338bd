import RadioGossip.Text.Digits

/-!
# JSON tokens

A document is a row of **tokens** with white space between them. A number is read as far as its
grammar goes, so that two tokens may touch where no document allows them to; that is found out when
values are built. A string ends at the next quote that is not escaped. It may hold every character
but control characters, and these escapes: a quote, a backslash, a slash, `b`, `f`, `n`, `r`, `t`,
and `u` with the four hexadecimal digits of a UTF-16 unit. Two units of a surrogate pair are one
character; a unit that lacks its other half leaves the string without a text.
-/

namespace RadioGossip

namespace Json

/-- A token of a document. -/
inductive Token where
  | openArray
  | closeArray
  | openObject
  | closeObject
  | comma
  | colon
  | null
  | bool (value : Bool)
  | natural (value : Nat)
  /-- A number with a sign, a fraction or an exponent, or one beyond every word. -/
  | otherNumber
  /-- A string, with its text if it has one. -/
  | string (text : Option String)
  deriving DecidableEq, Repr

/-! ## Strings -/

/-- A piece of a string: a character, or a UTF-16 unit that was escaped. -/
inductive Piece where
  | char (c : Char)
  | unit (value : Nat)
  deriving DecidableEq, Repr

/-- The unit of four hexadecimal digits. -/
def hexUnit? (a b c d : Char) : Option Nat := do
  let a ← Text.digitValue? 16 a
  let b ← Text.digitValue? 16 b
  let c ← Text.digitValue? 16 c
  let d ← Text.digitValue? 16 d
  return a * 4096 + b * 256 + c * 16 + d

/-- The character of an escape of one letter. -/
def escaped? : Char → Option Char
  | '"' => some '"'
  | '\\' => some '\\'
  | '/' => some '/'
  | 'b' => some '\x08'
  | 'f' => some '\x0c'
  | 'n' => some '\n'
  | 'r' => some '\r'
  | 't' => some '\t'
  | _ => none

/-- The pieces of a string up to its closing quote, the latest first and before them those read
already, with what stands after the quote. -/
def pieces (read : List Piece) : List Char → Option (List Piece × List Char)
  | [] => none
  | '"' :: rest => some (read, rest)
  | '\\' :: 'u' :: a :: b :: c :: d :: rest =>
    match hexUnit? a b c d with
    | some value => pieces (.unit value :: read) rest
    | none => none
  | '\\' :: c :: rest =>
    match escaped? c with
    | some char => pieces (.char char :: read) rest
    | none => none
  | c :: rest => if c = '\\' ∨ c.toNat < 0x20 then none else pieces (.char c :: read) rest

/-- Whether a unit is the first half of a surrogate pair. -/
def isHighHalf (value : Nat) : Bool := 0xD800 ≤ value && value < 0xDC00

/-- Whether a unit is the second half of a surrogate pair. -/
def isLowHalf (value : Nat) : Bool := 0xDC00 ≤ value && value < 0xE000

/-- The characters of pieces, given the latest piece first, in front of those that follow. There are
none if half of a pair stands alone. -/
def characters (following : List Char) : List Piece → Option (List Char)
  | [] => some following
  | .char c :: pieces => characters (c :: following) pieces
  | .unit low :: .unit high :: pieces =>
    if isLowHalf low then
      if isHighHalf high then
        characters (.ofNat (0x10000 + (high - 0xD800) * 0x400 + (low - 0xDC00)) :: following) pieces
      else none
    else if isHighHalf low then none
    else characters (.ofNat low :: following) (.unit high :: pieces)
  | .unit value :: pieces =>
    if isLowHalf value || isHighHalf value then none
    else characters (.ofNat value :: following) pieces

/-! ## Numbers -/

/-- The digits at the front, of which there must be one, and what stands after them. -/
def digits (cs : List Char) : Option (List Nat × List Char) :=
  match Text.takeDigits 10 cs with
  | ([], _) => none
  | found => some found

/-- A natural number without leading zeros, with its value if a word of 64 bits has room for it. -/
def naturalPart : List Char → Option (Option Nat × List Char)
  | '0' :: rest => some (some 0, rest)
  | cs => (digits cs).map fun (ds, rest) => (Text.amountAfter 10 UInt64.size 0 ds, rest)

/-- The rest after a fraction, if there is one. A point without digits is refused. -/
def fractionPart : List Char → Option (Bool × List Char)
  | '.' :: rest => (digits rest).map fun (_, rest) => (true, rest)
  | cs => some (false, cs)

/-- What stands after the sign of an exponent. -/
def afterSign : List Char → List Char
  | c :: rest => if c = '+' ∨ c = '-' then rest else c :: rest
  | [] => []

/-- The rest after an exponent, if there is one. An exponent without digits is refused. -/
def exponentPart : List Char → Option (Bool × List Char)
  | c :: rest =>
    if c = 'e' ∨ c = 'E' then (digits (afterSign rest)).map fun (_, rest) => (true, rest)
    else some (false, c :: rest)
  | [] => some (false, [])

/-- A number without its sign: its value if it is a natural number that a word has room for. -/
def unsigned (cs : List Char) : Option (Option Nat × List Char) := do
  let (value, rest) ← naturalPart cs
  let (fraction, rest) ← fractionPart rest
  let (exponent, rest) ← exponentPart rest
  return (if fraction || exponent then none else value, rest)

/-! ## Tokens -/

/-- The token of a number, given its value if it has one. -/
def numberToken : Option Nat → Token
  | some value => .natural value
  | none => .otherNumber

/-- The first token of a text that does not begin with white space, and what stands after it. -/
def token? : List Char → Option (Token × List Char)
  | '[' :: rest => some (.openArray, rest)
  | ']' :: rest => some (.closeArray, rest)
  | '{' :: rest => some (.openObject, rest)
  | '}' :: rest => some (.closeObject, rest)
  | ',' :: rest => some (.comma, rest)
  | ':' :: rest => some (.colon, rest)
  | 'n' :: 'u' :: 'l' :: 'l' :: rest => some (.null, rest)
  | 't' :: 'r' :: 'u' :: 'e' :: rest => some (.bool true, rest)
  | 'f' :: 'a' :: 'l' :: 's' :: 'e' :: rest => some (.bool false, rest)
  | '"' :: rest =>
    (pieces [] rest).map fun (read, rest) =>
      (.string ((characters [] read).map String.ofList), rest)
  | '-' :: rest => (unsigned rest).map fun (_, rest) => (.otherNumber, rest)
  | cs => (unsigned cs).map fun (value, rest) => (numberToken value, rest)

/-- Whether a character may stand between tokens. -/
def isSpace (c : Char) : Bool := c == ' ' || c == '\t' || c == '\n' || c == '\r'

/-! ## Every token takes something -/

theorem length_pieces_lt {read taken : List Piece} {cs rest : List Char}
    (found : pieces read cs = some (taken, rest)) : rest.length < cs.length := by
  fun_induction pieces read cs with
  | case1 => cases found
  | case2 => cases found; simp
  | case3 _ _ _ _ _ _ _ _ ih => have := ih found; simp only [List.length_cons]; omega
  | case4 => cases found
  | case5 _ _ _ _ _ _ ih => have := ih found; simp only [List.length_cons]; omega
  | case6 => cases found
  | case7 => cases found
  | case8 _ _ _ _ _ _ _ ih => have := ih found; simp only [List.length_cons]; omega

theorem length_digits_lt {cs rest : List Char} {taken : List Nat}
    (found : digits cs = some (taken, rest)) : rest.length < cs.length := by
  have whole := Text.length_takeDigits 10 cs
  unfold digits at found
  generalize Text.takeDigits 10 cs = pair at whole found
  obtain ⟨ds, left⟩ := pair
  cases ds with
  | nil => cases found
  | cons d ds =>
    cases found
    simp only [List.length_cons] at whole
    omega

theorem length_naturalPart_lt {cs rest : List Char} {value : Option Nat}
    (found : naturalPart cs = some (value, rest)) : rest.length < cs.length := by
  unfold naturalPart at found
  split at found
  · cases found; simp
  · obtain ⟨⟨ds, left⟩, h, e⟩ := Option.map_eq_some_iff.mp found
    cases e
    exact length_digits_lt h

theorem length_fractionPart_le {cs rest : List Char} {there : Bool}
    (found : fractionPart cs = some (there, rest)) : rest.length ≤ cs.length := by
  unfold fractionPart at found
  split at found
  · obtain ⟨⟨ds, left⟩, h, e⟩ := Option.map_eq_some_iff.mp found
    cases e
    have := length_digits_lt h
    simp only [List.length_cons]
    omega
  · cases found; simp

theorem length_afterSign_le (cs : List Char) : (afterSign cs).length ≤ cs.length := by
  unfold afterSign
  split
  · split <;> simp
  · simp

theorem length_exponentPart_le {cs rest : List Char} {there : Bool}
    (found : exponentPart cs = some (there, rest)) : rest.length ≤ cs.length := by
  unfold exponentPart at found
  split at found
  · next c cs =>
    split at found
    · obtain ⟨⟨ds, left⟩, h, e⟩ := Option.map_eq_some_iff.mp found
      cases e
      have := length_digits_lt h
      have := length_afterSign_le cs
      simp only [List.length_cons]
      omega
    · cases found; simp
  · cases found; simp

theorem length_unsigned_lt {cs rest : List Char} {value : Option Nat}
    (found : unsigned cs = some (value, rest)) : rest.length < cs.length := by
  simp only [unsigned, Option.bind_eq_bind, Option.pure_def, Option.bind_eq_some_iff] at found
  obtain ⟨⟨_, r₁⟩, h₁, ⟨_, r₂⟩, h₂, ⟨_, r₃⟩, h₃, e⟩ := found
  cases e
  have first : r₁.length < cs.length := length_naturalPart_lt h₁
  have second : r₂.length ≤ r₁.length := length_fractionPart_le h₂
  have third : r₃.length ≤ r₂.length := length_exponentPart_le h₃
  show r₃.length < cs.length
  omega

theorem length_token?_lt {cs rest : List Char} {token : Token}
    (found : token? cs = some (token, rest)) : rest.length < cs.length := by
  unfold token? at found
  split at found
  case h_10 =>
    obtain ⟨⟨_, left⟩, h, e⟩ := Option.map_eq_some_iff.mp found
    cases e
    have := length_pieces_lt h
    simp only [List.length_cons]
    omega
  case h_11 =>
    obtain ⟨⟨_, left⟩, h, e⟩ := Option.map_eq_some_iff.mp found
    cases e
    have := length_unsigned_lt h
    simp only [List.length_cons]
    omega
  case h_12 =>
    obtain ⟨⟨_, left⟩, h, e⟩ := Option.map_eq_some_iff.mp found
    cases e
    exact length_unsigned_lt h
  all_goals
    cases found
    simp only [List.length_cons]
    omega

/-- The tokens of a text, the latest first and before them those read already. -/
def tokensAfter (read : List Token) : List Char → Option (List Token)
  | [] => some read
  | c :: cs =>
    if isSpace c then tokensAfter read cs
    else
      match _found : token? (c :: cs) with
      | some (token, rest) => tokensAfter (token :: read) rest
      | none => none
termination_by cs => cs.length
decreasing_by
  · simp
  · exact length_token?_lt _found

/-- The tokens of a document. -/
def tokens? (document : String) : Option (List Token) :=
  (tokensAfter [] document.toList).map List.reverse

end Json

end RadioGossip
