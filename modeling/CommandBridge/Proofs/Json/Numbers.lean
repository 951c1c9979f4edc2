import CommandBridge.Json.Parser
import CommandBridge.Json.Printer
import Mathlib.Data.List.TakeWhile
import Mathlib.Tactic.Common
import Mathlib.Tactic.IntervalCases

/-!
# Numbers read back

What the number reader makes of a text does not change when an item, a bracket or a brace
follows. An integer reads back from its digits; whether a double does is a fact about that double.
-/

set_option autoImplicit false

namespace CommandBridge.Json

def Stops (rest : List Char) : Prop := ∀ c ∈ rest.head?, c = ',' ∨ c = ']' ∨ c = '\x7d'

theorem stops_nil : Stops [] := nofun

theorem stops_cons {c : Char} (stop : c = ',' ∨ c = ']' ∨ c = '\x7d') (rest : List Char) :
    Stops (c :: rest) := by
  intro c' first
  cases first
  exact stop

section Stops

variable {rest : List Char} {negative : Bool}

theorem Stops.ne (stops : Stops rest) {c : Char} {more : List Char} (same : rest = c :: more) :
    c.isDigit = false ∧ c ≠ '.' ∧ c ≠ 'e' ∧ c ≠ 'E' ∧ c ≠ '-' ∧ c ≠ '+' := by
  subst same
  rcases stops c rfl with rfl | rfl | rfl <;> decide

theorem takeWhile_isDigit_append (stops : Stops rest) (cs : List Char) :
    (cs ++ rest).takeWhile Char.isDigit = cs.takeWhile Char.isDigit := by
  induction cs with
  | nil =>
    cases rest with
    | nil => rfl
    | cons c more => simp [(stops.ne rfl).1]
  | cons c cs ih =>
    by_cases digit : c.isDigit = true
    · simp [digit, ih]
    · simp [digit]

theorem dropWhile_isDigit_append (stops : Stops rest) (cs : List Char) :
    (cs ++ rest).dropWhile Char.isDigit = cs.dropWhile Char.isDigit ++ rest := by
  induction cs with
  | nil =>
    cases rest with
    | nil => rfl
    | cons c more => simp [(stops.ne rfl).1]
  | cons c cs ih =>
    by_cases digit : c.isDigit = true
    · simp [digit, ih]
    · simp [digit]

theorem fractionPart_of_ne {c : Char} (other : c ≠ '.') (cs : List Char) :
    fractionPart (c :: cs) = some (none, c :: cs) := by
  rw [fractionPart]
  rintro more same
  cases same
  exact other rfl

theorem fractionPart_append (stops : Stops rest) (cs : List Char) :
    fractionPart (cs ++ rest) = (fractionPart cs).map fun r => (r.1, r.2 ++ rest) := by
  cases cs with
  | nil =>
    cases rest with
    | nil => rfl
    | cons c more => exact fractionPart_of_ne (stops.ne rfl).2.1 more
  | cons c cs =>
    by_cases point : c = '.'
    · subst point
      rw [List.cons_append, fractionPart, fractionPart, takeWhile_isDigit_append stops,
        dropWhile_isDigit_append stops]
      split <;> rfl
    · rw [List.cons_append, fractionPart_of_ne point, fractionPart_of_ne point]
      rfl

def exponentDigits (negative : Bool) (cs : List Char) : Option (Int × List Char) :=
  if (cs.takeWhile Char.isDigit).isEmpty then none
  else
    let n : Int := ((cs.takeWhile Char.isDigit).foldl (fun acc d => acc * 10 + digitValue d) 0 : Nat)
    some (if negative then -n else n, cs.dropWhile Char.isDigit)

theorem exponentPart_of_ne {c : Char} (minus : c ≠ '-') (plus : c ≠ '+') (cs : List Char) :
    exponentPart (c :: cs) = exponentDigits false (c :: cs) := by
  rw [exponentPart]
  · rfl
  · exact fun more same => minus (List.cons.inj same).1
  · exact fun more same => plus (List.cons.inj same).1

theorem exponentDigits_append (stops : Stops rest) (cs : List Char) :
    exponentDigits negative (cs ++ rest) =
      (exponentDigits negative cs).map fun r => (r.1, r.2 ++ rest) := by
  rw [exponentDigits, exponentDigits, takeWhile_isDigit_append stops,
    dropWhile_isDigit_append stops]
  split <;> rfl

theorem exponentPart_append (stops : Stops rest) (cs : List Char) :
    exponentPart (cs ++ rest) = (exponentPart cs).map fun r => (r.1, r.2 ++ rest) := by
  cases cs with
  | nil =>
    cases rest with
    | nil => rfl
    | cons c more =>
      obtain ⟨-, -, -, -, minus, plus⟩ := stops.ne rfl
      exact (exponentPart_of_ne minus plus more).trans (exponentDigits_append stops [])
  | cons c cs =>
    rw [List.cons_append]
    by_cases minus : c = '-'
    · subst minus
      exact exponentDigits_append stops cs
    · by_cases plus : c = '+'
      · subst plus
        exact exponentDigits_append stops cs
      · rw [exponentPart_of_ne minus plus, exponentPart_of_ne minus plus]
        exact exponentDigits_append stops (c :: cs)

def unscaled (negative : Bool) (whole : List Char) : Option (List Char) → Option Number
  | some digits => floatOf negative whole digits 0
  | none => integerOf negative whole

def scaled (negative : Bool) (whole : List Char) (fraction : Option (List Char)) :
    List Char → Option (Number × List Char)
  | 'e' :: after | 'E' :: after =>
    (exponentPart after).bind fun r =>
      (floatOf negative whole (fraction.getD []) r.1).map fun n => (n, r.2)
  | rest => (unscaled negative whole fraction).map fun n => (n, rest)

theorem scaled_plain {cs : List Char} (lower : ∀ after, cs ≠ 'e' :: after)
    (upper : ∀ after, cs ≠ 'E' :: after) (whole : List Char) (fraction : Option (List Char)) :
    scaled negative whole fraction cs =
      (unscaled negative whole fraction).map fun n => (n, cs) := by
  rw [scaled]
  · exact lower
  · exact upper

theorem scaled_append (stops : Stops rest) (whole : List Char) (fraction : Option (List Char))
    (cs : List Char) : scaled negative whole fraction (cs ++ rest) =
      (scaled negative whole fraction cs).map fun r => (r.1, r.2 ++ rest) := by
  have exponent (after : List Char) : ((exponentPart (after ++ rest)).bind fun r =>
        (floatOf negative whole (fraction.getD []) r.1).map fun n => (n, r.2)) =
      ((exponentPart after).bind fun r =>
        (floatOf negative whole (fraction.getD []) r.1).map fun n => (n, r.2)).map
          fun r => (r.1, r.2 ++ rest) := by
    rw [exponentPart_append stops]
    cases exponentPart after with
    | none => rfl
    | some r =>
      simp only [Option.map_some, Option.bind_some, Option.map_map]
      rfl
  by_cases lower : ∃ after, cs = 'e' :: after
  · obtain ⟨after, rfl⟩ := lower
    exact exponent after
  · by_cases upper : ∃ after, cs = 'E' :: after
    · obtain ⟨after, rfl⟩ := upper
      exact exponent after
    · rw [not_exists] at lower upper
      have still {letter : Char} (isLetter : letter = 'e' ∨ letter = 'E')
          (other : ∀ after, cs ≠ letter :: after) : ∀ after, cs ++ rest ≠ letter :: after := by
        intro after same
        cases cs with
        | nil =>
          obtain ⟨-, -, notLower, notUpper, -⟩ := stops.ne same
          rcases isLetter with rfl | rfl
          · exact notLower rfl
          · exact notUpper rfl
        | cons c cs => exact other cs ((List.cons.inj same).1 ▸ rfl)
      rw [scaled_plain (still (.inl rfl) lower) (still (.inr rfl) upper),
        scaled_plain lower upper, Option.map_map]
      rfl

theorem unsignedNumber_eq (negative : Bool) (cs : List Char) : unsignedNumber negative cs =
    if (cs.takeWhile Char.isDigit).isEmpty ∨ ((cs.takeWhile Char.isDigit).head? = some '0' ∧
        1 < (cs.takeWhile Char.isDigit).length) then none
    else (fractionPart (cs.dropWhile Char.isDigit)).bind fun r =>
      scaled negative (cs.takeWhile Char.isDigit) r.1 r.2 := by
  rw [unsignedNumber]
  split
  · rfl
  · cases fractionPart (cs.dropWhile Char.isDigit) with
    | none => rfl
    | some r =>
      obtain ⟨fraction, tail⟩ := r
      simp only [Option.bind_some, Option.bind_eq_bind]
      split
      · simp only [scaled, Option.map_eq_bind]
        rfl
      · simp only [scaled, Option.map_eq_bind]
        rfl
      · next lower upper =>
        rw [scaled_plain lower upper]
        cases fraction <;> simp only [unscaled, Option.map_eq_bind] <;> rfl

theorem unsignedNumber_append (stops : Stops rest) (cs : List Char) :
    unsignedNumber negative (cs ++ rest) =
      (unsignedNumber negative cs).map fun r => (r.1, r.2 ++ rest) := by
  rw [unsignedNumber_eq, unsignedNumber_eq, takeWhile_isDigit_append stops,
    dropWhile_isDigit_append stops, fractionPart_append stops]
  split
  · rfl
  · cases fractionPart (cs.dropWhile Char.isDigit) with
    | none => rfl
    | some r => exact scaled_append stops _ r.1 r.2

theorem numberValue_of_ne {c : Char} (minus : c ≠ '-') (cs : List Char) :
    numberValue (c :: cs) = unsignedNumber false (c :: cs) := by
  rw [numberValue]
  rintro more same
  cases same
  exact minus rfl

theorem numberValue_append (stops : Stops rest) (cs : List Char) :
    numberValue (cs ++ rest) = (numberValue cs).map fun r => (r.1, r.2 ++ rest) := by
  cases cs with
  | nil =>
    cases rest with
    | nil => rfl
    | cons c more =>
      obtain ⟨-, -, -, -, minus, -⟩ := stops.ne rfl
      exact (numberValue_of_ne minus more).trans (unsignedNumber_append stops [])
  | cons c cs =>
    by_cases minus : c = '-'
    · subst minus
      exact unsignedNumber_append stops cs
    · rw [List.cons_append, numberValue_of_ne minus, numberValue_of_ne minus]
      exact unsignedNumber_append stops (c :: cs)

end Stops

theorem digits_foldl (n : Nat) :
    (Nat.toDigits 10 n).foldl (fun acc d => acc * 10 + digitValue d) 0 = n := by
  have whole : Nat.ofDigitChars 10 (Nat.toDigits 10 n) 0 = n :=
    Nat.ofDigitChars_toDigits (by decide) (by decide)
  rw [Nat.ofDigitChars_eq_foldl] at whole
  simpa only [digitValue, Nat.mul_comm] using whole

theorem isDigit_of_mem_digits {n : Nat} {c : Char} (h : c ∈ Nat.toDigits 10 n) :
    c.isDigit = true := Nat.isDigit_of_mem_toDigits (by decide) (by decide) h

theorem head_digits {n : Nat} (h : (Nat.toDigits 10 n).head? = some '0') : n = 0 := by
  induction n using Nat.strongRecOn with
  | ind n ih =>
    by_cases small : n < 10
    · rw [Nat.toDigits_of_lt_base small] at h
      interval_cases n <;> first | rfl | exact absurd h (by decide)
    · obtain ⟨c, more, digits⟩ :=
        List.exists_cons_of_ne_nil (Nat.toDigits_ne_nil (b := 10) (n := n / 10))
      rw [Nat.toDigits_eq_if (by decide), if_neg small, digits] at h
      have := ih (n / 10) (by omega) (by rw [digits]; exact h)
      omega

/-- The digits of an integer of the range spell it, unless they spell a negative zero. -/
theorem integerOf_digits {negative : Bool} {n : Nat} {value : Int} (h : IntRange value)
    (spelled : (if negative then -(n : Int) else n) = value) (zero : negative = true → n ≠ 0) :
    integerOf negative (Nat.toDigits 10 n) = some (.int value h) := by
  subst spelled
  simp only [integerOf, digits_foldl]
  rw [dif_pos ⟨h, fun none => zero none.1 (by omega)⟩]

/-- The digits of a number are read as that number, under its sign. -/
theorem unsignedNumber_digits (negative : Bool) (n : Nat) :
    unsignedNumber negative (Nat.toDigits 10 n) =
      (integerOf negative (Nat.toDigits 10 n)).map fun x => (x, []) := by
  have all : (Nat.toDigits 10 n).takeWhile Char.isDigit = Nat.toDigits 10 n :=
    List.takeWhile_eq_self_iff.mpr fun c => isDigit_of_mem_digits
  have none_left : (Nat.toDigits 10 n).dropWhile Char.isDigit = [] :=
    List.dropWhile_eq_nil_iff.mpr fun c => isDigit_of_mem_digits
  rw [unsignedNumber_eq, all, none_left, if_neg]
  · exact scaled_plain (List.cons_ne_nil _ · |>.symm) (List.cons_ne_nil _ · |>.symm) _ none
  · rintro (empty | ⟨zero, long⟩)
    · exact Nat.toDigits_ne_nil (List.isEmpty_iff.mp empty)
    · rw [head_digits zero] at long
      exact absurd long (by decide)

theorem numberValue_intText (n : Int) (h : IntRange n) :
    numberValue (intText n) = some (.int n h, []) := by
  rw [intText]
  split
  · next negative =>
    have value : -(n.natAbs : Int) = n := by omega
    change unsignedNumber true _ = _
    rw [unsignedNumber_digits, integerOf_digits h ((if_pos rfl).trans value) fun _ => by omega]
    rfl
  · next positive =>
    have value : (n.natAbs : Int) = n := by omega
    obtain ⟨c, more, digits⟩ := List.exists_cons_of_ne_nil (Nat.toDigits_ne_nil (b := 10) (n := n.natAbs))
    have first : c ≠ '-' := by
      rintro rfl
      have digit := isDigit_of_mem_digits (n := n.natAbs) (digits ▸ List.mem_cons_self)
      exact absurd digit (by decide)
    rw [digits, numberValue_of_ne first, ← digits, unsignedNumber_digits,
      integerOf_digits h ((if_neg Bool.false_ne_true).trans value) fun no => nomatch no]
    rfl

def ReadsBack (x : Binary64) : Prop :=
  numberValue (x.format floatLayout) = some (.float x, [])

theorem numberValue_numberText {n : Number} (doubles : ∀ x, n = .float x → ReadsBack x) :
    numberValue (numberText n) = some (n, []) := by
  cases n with
  | int n h => exact numberValue_intText n h
  | float x => exact doubles x rfl

/-- A text that a number stands at the front of begins with a digit or a minus sign. -/
theorem head_of_numberValue {cs : List Char} {r : Number × List Char}
    (h : numberValue cs = some r) : ∃ c more, cs = c :: more ∧ (c = '-' ∨ c.isDigit = true) := by
  cases cs with
  | nil => cases h
  | cons c more =>
    refine ⟨c, more, rfl, ?_⟩
    by_cases minus : c = '-'
    · exact .inl minus
    · right
      by_contra digit
      rw [numberValue_of_ne minus, unsignedNumber_eq, if_pos (by simp [digit])] at h
      cases h

end CommandBridge.Json
