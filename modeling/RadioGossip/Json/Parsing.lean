import RadioGossip.Json.Token
import RadioGossip.Json.Value

/-!
# From tokens to values

Tokens are put together one by one. The arrays and objects that are still open wait on a stack, so
that values may be nested to any depth, and what may stand next is known after every token. A
document is exactly one value.
-/

namespace RadioGossip

namespace Json

/-- An array or object that is still open, the latest entry first. -/
inductive Pending where
  | array (items : List Value)
  | object (members : List (Option String × Value))
  /-- An object, with the key whose value is to come. -/
  | member (members : List (Option String × Value)) (key : Option String)

/-- What may stand next. -/
inductive Expect where
  | value
  /-- The first item of an array, or its end. -/
  | itemOrEnd
  | key
  /-- The first key of an object, or its end. -/
  | keyOrEnd
  | colon
  /-- A comma, or the end of what is open. -/
  | separator
  /-- Nothing: the document is this value. -/
  | done (value : Value)

/-- How far the putting together has come. -/
structure Progress where
  stack : List Pending
  expect : Expect

/-- A value is complete: it goes into what is open, or it is the document. -/
def complete (value : Value) : List Pending → Option Progress
  | [] => some ⟨[], .done value⟩
  | .array items :: stack => some ⟨.array (value :: items) :: stack, .separator⟩
  | .member members key :: stack => some ⟨.object ((key, value) :: members) :: stack, .separator⟩
  | .object _ :: _ => none

/-- A token where a value must stand. -/
def beginValue (stack : List Pending) : Token → Option Progress
  | .openArray => some ⟨.array [] :: stack, .itemOrEnd⟩
  | .openObject => some ⟨.object [] :: stack, .keyOrEnd⟩
  | .null => complete .null stack
  | .bool value => complete (.bool value) stack
  | .natural value => complete (.natural value) stack
  | .otherNumber => complete .otherNumber stack
  | .string text => complete (.string text) stack
  | _ => none

/-- The end of an array or object must fit what is open. -/
def closeLast : List Pending → Token → Option Progress
  | .array items :: stack, .closeArray => complete (.array items.reverse) stack
  | .object members :: stack, .closeObject => complete (.object members.reverse) stack
  | _, _ => none

/-- A token where a key must stand. -/
def beginMember : List Pending → Token → Option Progress
  | .object members :: stack, .string key => some ⟨.member members key :: stack, .colon⟩
  | _, _ => none

/-- What one token does. -/
def Progress.advance (progress : Progress) (token : Token) : Option Progress :=
  let stack := progress.stack
  match progress.expect, token with
  | .value, token => beginValue stack token
  | .itemOrEnd, .closeArray => closeLast stack .closeArray
  | .itemOrEnd, token => beginValue stack token
  | .key, token => beginMember stack token
  | .keyOrEnd, .closeObject => closeLast stack .closeObject
  | .keyOrEnd, token => beginMember stack token
  | .colon, .colon => some ⟨stack, .value⟩
  | .separator, .comma =>
    match stack with
    | .array _ :: _ => some ⟨stack, .value⟩
    | .object _ :: _ => some ⟨stack, .key⟩
    | _ => none
  | .separator, token => closeLast stack token
  | _, _ => none

/-- The value that tokens make up. -/
def Value.ofTokens? (tokens : List Token) : Option Value :=
  match tokens.foldlM Progress.advance ⟨[], .value⟩ with
  | some ⟨[], .done value⟩ => some value
  | _ => none

/-- The value of a document. -/
def Value.ofText? (document : String) : Option Value := do Value.ofTokens? (← tokens? document)

end Json

end RadioGossip
