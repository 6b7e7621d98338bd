/-!
# Numbers in digits

A number is written in the digits of some radix, the most significant first. Reading is told the
bound below which the number must lie and gives up at the first digit that reaches it, so that a row
of digits however long takes no more than a look at each of them.
-/

namespace RadioGossip

namespace Text

/-- The value of a digit below `radix`, which is sixteen at most. Letters may be of either case. -/
def digitValue? (radix : Nat) (c : Char) : Option Nat :=
  let value :=
    if '0' ≤ c ∧ c ≤ '9' then c.toNat - '0'.toNat
    else if 'a' ≤ c ∧ c ≤ 'f' then c.toNat - 'a'.toNat + 10
    else if 'A' ≤ c ∧ c ≤ 'F' then c.toNat - 'A'.toNat + 10
    else radix
  if value < radix then some value else none

/-- Whether a character is a digit below `radix`. -/
def isDigit (radix : Nat) (c : Char) : Bool := (digitValue? radix c).isSome

/-- The values of the digits at the front, and what stands after them. -/
def takeDigits (radix : Nat) (cs : List Char) : List Nat × List Char :=
  ((cs.takeWhile (isDigit radix)).filterMap (digitValue? radix), cs.dropWhile (isDigit radix))

/-- What digits amount to behind those that amount to `value`, as long as that is below `bound`. -/
def amountAfter (radix bound value : Nat) : List Nat → Option Nat
  | [] => some value
  | digit :: digits =>
    let value := value * radix + digit
    if value < bound then amountAfter radix bound value digits else none

/-- The number below `bound` in all the digits at the front, of which there must be one. -/
def readNumber (radix bound : Nat) (cs : List Char) : Option (Nat × List Char) :=
  match takeDigits radix cs with
  | ([], _) => none
  | (digits, rest) => (amountAfter radix bound 0 digits).map fun value => (value, rest)

/-- The number below `bound` of a text that holds nothing but its digits. -/
def numberOf? (radix bound : Nat) (cs : List Char) : Option Nat :=
  match readNumber radix bound cs with
  | some (value, []) => some value
  | _ => none

/-- Every digit and everything after the digits is kept. -/
theorem length_takeDigits (radix : Nat) (cs : List Char) :
    (takeDigits radix cs).1.length + (takeDigits radix cs).2.length = cs.length := by
  induction cs with
  | nil => rfl
  | cons c cs ih =>
    simp only [takeDigits] at ih ⊢
    cases found : digitValue? radix c with
    | none => simp [isDigit, found]
    | some value =>
      have digit : isDigit radix c = true := by simp [isDigit, found]
      rw [List.takeWhile_cons_of_pos digit, List.dropWhile_cons_of_pos digit,
        List.filterMap_cons_some found, List.length_cons, List.length_cons]
      omega

/-- Digits amount to at least as much as those in front of them. -/
theorem le_foldl_digits {radix : Nat} (positive : 0 < radix) (value : Nat) (digits : List Nat) :
    value ≤ digits.foldl (· * radix + ·) value := by
  induction digits generalizing value with
  | nil => exact Nat.le_refl _
  | cons digit digits ih =>
    exact Nat.le_trans (Nat.le_trans (Nat.le_mul_of_pos_right _ positive) (Nat.le_add_right _ _))
      (ih (value * radix + digit))

/-- Giving up early loses nothing: a number is found exactly if all the digits amount to it and it
is below the bound. -/
theorem amountAfter_eq_some_iff {radix bound value amount : Nat} (positive : 0 < radix)
    (below : value < bound) (digits : List Nat) :
    amountAfter radix bound value digits = some amount ↔
      digits.foldl (· * radix + ·) value = amount ∧ amount < bound := by
  induction digits generalizing value with
  | nil =>
    simp only [amountAfter, List.foldl_nil, Option.some.injEq]
    constructor
    · rintro rfl
      exact ⟨rfl, below⟩
    · exact And.left
  | cons digit digits ih =>
    have least := le_foldl_digits positive (value * radix + digit) digits
    simp only [amountAfter, List.foldl_cons]
    split
    · next h => exact ih h
    · next h =>
      constructor
      · intro none_eq_some
        cases none_eq_some
      · rintro ⟨rfl, small⟩
        exact absurd (Nat.lt_of_le_of_lt least small) h

end Text

end RadioGossip
