import Mathlib.Tactic.IntervalCases
import RadioGossip.Text.Digits

/-!
# Numerals

The **numeral** of a number is its row of digits without leading zeros, and zero has the one digit
zero. A numeral is read back from any text that goes on with something else than a digit: all its
digits are taken, they amount to the number, and there are as few of them as there can be.
-/

namespace RadioGossip

namespace Text

variable {radix n : Nat}

/-- A row of such characters ends here: the text does not go on with another one. -/
def EndsRow (belongs : Char → Bool) (cs : List Char) : Prop := ∀ c ∈ cs.head?, belongs c = false

section

variable {belongs : Char → Bool} {cs cs' : List Char}

theorem endsRow_nil : EndsRow belongs [] := nofun

theorem endsRow_cons {c : Char} (h : belongs c = false) (cs : List Char) :
    EndsRow belongs (c :: cs) := by
  intro first hfirst
  rwa [← Option.some.inj hfirst]

theorem EndsRow.append (h : EndsRow belongs cs) (h' : EndsRow belongs cs') :
    EndsRow belongs (cs ++ cs') := by
  cases cs with
  | nil => exact h'
  | cons c cs => exact endsRow_cons (h c rfl) _

end

/-- The text does not begin with a digit. -/
abbrev EndsDigits (radix : Nat) (cs : List Char) : Prop := EndsRow (isDigit radix) cs

/-- Where there is no digit nothing is taken. -/
theorem takeDigits_of_endsDigits {cs : List Char} (h : EndsDigits radix cs) :
    takeDigits radix cs = ([], cs) := by
  cases cs with
  | nil => rfl
  | cons c cs =>
    have hc : ¬ isDigit radix c = true := Bool.eq_false_iff.mp (h c rfl)
    rw [takeDigits, List.takeWhile_cons_of_neg hc, List.dropWhile_cons_of_neg hc]
    rfl

theorem digitValue?_digitChar (hradix : radix ≤ 16) {digit : Nat} (h : digit < radix) :
    digitValue? radix digit.digitChar = some digit := by
  have hsmall : digit < 16 := by omega
  interval_cases digit <;> simp [digitValue?, Nat.digitChar, h]

/-- The values of the digits of a number, the most significant first. -/
def numeral (radix n : Nat) : List Nat := (Nat.toDigits radix n).filterMap (digitValue? radix)

theorem numeral_of_lt (hradix : radix ≤ 16) (h : n < radix) : numeral radix n = [n] := by
  rw [numeral, Nat.toDigits_of_lt_base h, List.filterMap_cons_some (digitValue?_digitChar hradix h)]
  rfl

section

variable (hone : 1 < radix) (hradix : radix ≤ 16)
include hone hradix

/-- The last digit of a number is what is left when it is divided by the radix. -/
theorem numeral_of_le (h : radix ≤ n) : numeral radix n = numeral radix (n / radix) ++ [n % radix] := by
  have hlast := digitValue?_digitChar hradix (Nat.mod_lt n (by omega))
  rw [numeral, Nat.toDigits_of_base_le hone h, List.filterMap_append,
    List.filterMap_cons_some hlast]
  rfl

/-- Every character of a numeral is a digit. -/
theorem isDigit_of_mem_toDigits {c : Char} (h : c ∈ Nat.toDigits radix n) :
    isDigit radix c = true := by
  have hdigit : ∀ digit < radix, isDigit radix digit.digitChar = true := by
    intro digit hlt
    rw [isDigit, digitValue?_digitChar hradix hlt]
    rfl
  induction n using Nat.strongRecOn with
  | ind n ih =>
    rcases Nat.lt_or_ge n radix with hlt | hle
    · rw [Nat.toDigits_of_lt_base hlt] at h
      obtain rfl := List.mem_singleton.mp h
      exact hdigit n hlt
    · rw [Nat.toDigits_of_base_le hone hle] at h
      rcases List.mem_append.mp h with hfront | hlast
      · exact ih (n / radix) (Nat.div_lt_self (by omega) hone) hfront
      · obtain rfl := List.mem_singleton.mp hlast
        exact hdigit _ (Nat.mod_lt n (by omega))

/-- **A numeral is taken whole**, and nothing of what follows it. -/
theorem takeDigits_toDigits {rest : List Char} (hrest : EndsDigits radix rest) :
    takeDigits radix (Nat.toDigits radix n ++ rest) = (numeral radix n, rest) := by
  have hall : ∀ c ∈ Nat.toDigits radix n, isDigit radix c = true :=
    fun c hc => isDigit_of_mem_toDigits hone hradix hc
  have hnone := takeDigits_of_endsDigits hrest
  simp only [takeDigits, Prod.mk.injEq] at hnone
  rw [takeDigits, List.takeWhile_append_of_pos hall, List.dropWhile_append_of_pos hall,
    List.filterMap_append, hnone.1, hnone.2, List.append_nil, numeral]

/-- **The digits of a number amount to it.** -/
theorem foldl_numeral : (numeral radix n).foldl (· * radix + ·) 0 = n := by
  induction n using Nat.strongRecOn with
  | ind n ih =>
    rcases Nat.lt_or_ge n radix with hlt | hle
    · rw [numeral_of_lt hradix hlt]
      simp
    · rw [numeral_of_le hone hradix hle, List.foldl_append,
        ih (n / radix) (Nat.div_lt_self (by omega) hone)]
      exact Nat.div_add_mod' n radix

theorem length_numeral : (numeral radix n).length = (Nat.toDigits radix n).length := by
  have htaken := length_takeDigits radix (Nat.toDigits radix n ++ [])
  rw [takeDigits_toDigits hone hradix endsRow_nil] at htaken
  simpa using htaken

theorem length_numeral_le {most : Nat} (hmost : 0 < most) (h : n < radix ^ most) :
    (numeral radix n).length ≤ most := by
  rw [length_numeral hone hradix]
  exact (Nat.length_toDigits_le_iff hone hmost).mpr h

theorem numeral_ne_nil : numeral radix n ≠ [] := by
  rw [← List.length_pos_iff, length_numeral hone hradix]
  exact Nat.length_toDigits_pos

/-- Only zero begins with the digit zero. -/
theorem eq_zero_of_head?_numeral (h : (numeral radix n).head? = some 0) : n = 0 := by
  induction n using Nat.strongRecOn with
  | ind n ih =>
    rcases Nat.lt_or_ge n radix with hlt | hle
    · rw [numeral_of_lt hradix hlt] at h
      exact Option.some.inj h
    · have hzero := ih (n / radix) (Nat.div_lt_self (by omega) hone)
      have hpos : 0 < n / radix := Nat.div_pos hle (by omega)
      have hfront : numeral radix (n / radix) ≠ [] := numeral_ne_nil hone hradix
      obtain ⟨first, others, hnumeral⟩ := List.exists_cons_of_ne_nil hfront
      rw [numeral_of_le hone hradix hle, hnumeral] at h
      rw [hnumeral] at hzero
      have := hzero h
      omega

/-- Giving up at a bound makes no difference to a number below it. -/
theorem amountAfter_numeral {bound : Nat} (h : n < bound) :
    amountAfter radix bound 0 (numeral radix n) = some n :=
  (amountAfter_eq_some_iff (by omega) (by omega) _).mpr ⟨foldl_numeral hone hradix, h⟩

end

end Text

end RadioGossip
