import Herald.Config
import Herald.Proofs.Text.Hex

/-!
# Numbers in variables

A number is read digit by digit, and reading stops where it goes wrong: at a character that is no
digit, or at the digit with which the number exceeds 64 bits.

Main statements: which texts are read as which number (`positiveWord_eq_ok_iff`), what is wrong
with all others (`positiveWord_eq_error_iff`), and that every number can be written
(`denotes_toString`).
-/

namespace Herald.Config

/-- What follows the plus sign that a number may have in front. -/
def unsigned (value : String) : List Char :=
  match value.toList with
  | '+' :: digits => digits
  | digits => digits

/-- The value consists of decimal digits for the number, with or without a plus sign in front. -/
structure Denotes (value : String) (n : Nat) : Prop where
  some_digit : unsigned value ≠ []
  digits : ∀ c ∈ unsigned value, c.isDigit = true
  number : Nat.ofDigitChars 10 (unsigned value) 0 = n

/-- The value denotes a positive number of 64 bits. -/
structure IsCount (value : String) (n : Nat) : Prop where
  denotes : Denotes value n
  positive : 1 ≤ n
  fits : n < Nat.pow 2 64

/-- What is wrong with a value that is no positive number of 64 bits. Of several faults the first
one from the left counts. -/
def NumberFault (value : String) : ValueFault → Prop
  | .noAddress => False
  | .notADigit => unsigned value = [] ∨ ∃ front c rest, unsigned value = front ++ c :: rest ∧
      (∀ d ∈ front, d.isDigit = true) ∧ Nat.ofDigitChars 10 front 0 < Nat.pow 2 64 ∧
        c.isDigit = false
  | .tooLarge => ∃ front rest, unsigned value = front ++ rest ∧
      (∀ d ∈ front, d.isDigit = true) ∧ Nat.pow 2 64 ≤ Nat.ofDigitChars 10 front 0
  | .zero => Denotes value 0

theorem isDigit_iff {c : Char} : c.isDigit = true ↔ 0x30 ≤ c.toNat ∧ c.toNat ≤ 0x39 := by
  unfold Char.isDigit
  simp only [ge_iff_le, UInt32.le_iff_toNat_le, Bool.and_eq_true, decide_eq_true_eq]
  exact Iff.rfl

theorem digit?_ten (c : Char) :
    Net.digit? 10 c = if c.isDigit = true then some (c.toNat - '0'.toNat) else none := by
  have zero : '0'.toNat = 0x30 := rfl
  unfold Net.digit? Text.Hex.value?
  dsimp only
  by_cases digit : c.isDigit = true
  · have bounds := isDigit_iff.mp digit
    have small : c.toNat - 0x30 < 10 := by omega
    rw [if_pos digit, if_pos bounds, Option.filter_some, if_pos (decide_eq_true small), zero]
  · have bounds := mt isDigit_iff.mpr digit
    rw [if_neg digit, if_neg bounds]
    split
    · rw [Option.filter_some, if_neg (by simp; omega)]
    · split
      · rw [Option.filter_some, if_neg (by simp; omega)]
      · rfl

/-- A number does not shrink with more digits. -/
theorem le_ofDigitChars (digits : List Char) (n : Nat) : n ≤ Nat.ofDigitChars 10 digits n := by
  induction digits generalizing n with
  | nil => exact Nat.le_refl n
  | cons c rest ih =>
    have later := ih (10 * n + (c.toNat - '0'.toNat))
    rw [Nat.ofDigitChars_cons]
    omega

/-- One step of reading. -/
theorem readWord_cons (n : Nat) (c : Char) (rest : List Char) : readWord n (c :: rest) =
    if c.isDigit = true then
      if 10 * n + (c.toNat - '0'.toNat) < Nat.pow 2 64 then
        readWord (10 * n + (c.toNat - '0'.toNat)) rest
      else .error .tooLarge
    else .error .notADigit := by
  rw [readWord, digit?_ten]
  split <;> simp_all

theorem readWord_eq_ok_iff {n m : Nat} {digits : List Char} (small : n < Nat.pow 2 64) :
    readWord n digits = .ok m ↔
      (∀ c ∈ digits, c.isDigit = true) ∧ Nat.ofDigitChars 10 digits n = m ∧ m < Nat.pow 2 64 := by
  induction digits generalizing n with
  | nil =>
    rw [readWord, Nat.ofDigitChars, List.foldl_nil, Except.ok.injEq]
    constructor
    · rintro rfl
      exact ⟨nofun, rfl, small⟩
    · exact fun given => given.2.1
  | cons c rest ih =>
    rw [readWord_cons, List.forall_mem_cons, Nat.ofDigitChars_cons]
    split
    · next digit =>
      split
      · next fits => rw [ih fits, and_iff_right digit]
      · next large =>
        have later := le_ofDigitChars rest (10 * n + (c.toNat - '0'.toNat))
        constructor
        · nofun
        · rintro ⟨-, rfl, fits⟩
          omega
    · next other => simp [other]

theorem readWord_eq_tooLarge_iff {n : Nat} {digits : List Char} (small : n < Nat.pow 2 64) :
    readWord n digits = .error .tooLarge ↔ ∃ front rest, digits = front ++ rest ∧
      (∀ c ∈ front, c.isDigit = true) ∧ Nat.pow 2 64 ≤ Nat.ofDigitChars 10 front n := by
  induction digits generalizing n with
  | nil =>
    constructor
    · nofun
    · rintro ⟨front, rest, split, -, large⟩
      obtain ⟨rfl, rfl⟩ := List.append_eq_nil_iff.mp split.symm
      exact absurd small (Nat.not_lt.mpr large)
  | cons c rest ih =>
    rw [readWord_cons]
    -- What is too large is not empty, so it begins with this character.
    have begins : (∃ front later, c :: rest = front ++ later ∧
        (∀ d ∈ front, d.isDigit = true) ∧ Nat.pow 2 64 ≤ Nat.ofDigitChars 10 front n) ↔
        c.isDigit = true ∧ ∃ front later, rest = front ++ later ∧
          (∀ d ∈ front, d.isDigit = true) ∧
          Nat.pow 2 64 ≤ Nat.ofDigitChars 10 front (10 * n + (c.toNat - '0'.toNat)) := by
      constructor
      · rintro ⟨_ | ⟨d, front⟩, later, split, digits, large⟩
        · exact absurd small (Nat.not_lt.mpr large)
        · obtain ⟨rfl, rfl⟩ := List.cons.inj split
          rw [List.forall_mem_cons] at digits
          exact ⟨digits.1, front, later, rfl, digits.2, large⟩
      · rintro ⟨digit, front, later, rfl, digits, large⟩
        exact ⟨c :: front, later, rfl, List.forall_mem_cons.mpr ⟨digit, digits⟩, large⟩
    rw [begins]
    split
    · next digit =>
      split
      · next fits => rw [ih fits, and_iff_right digit]
      · next large =>
        refine iff_of_true rfl ⟨digit, [], rest, rfl, nofun, ?_⟩
        exact Nat.not_lt.mp large
    · next other => simp [other]

theorem readWord_eq_notADigit_iff {n : Nat} {digits : List Char} (small : n < Nat.pow 2 64) :
    readWord n digits = .error .notADigit ↔ ∃ front c rest, digits = front ++ c :: rest ∧
      (∀ d ∈ front, d.isDigit = true) ∧ Nat.ofDigitChars 10 front n < Nat.pow 2 64 ∧
        c.isDigit = false := by
  induction digits generalizing n with
  | nil =>
    constructor
    · nofun
    · rintro ⟨front, c, rest, split, -⟩
      simp at split
  | cons c rest ih =>
    rw [readWord_cons]
    split
    · next digit =>
      -- This character is a digit, so it stands in front of the one that is none.
      have begins : (∃ front d later, c :: rest = front ++ d :: later ∧
          (∀ d ∈ front, d.isDigit = true) ∧ Nat.ofDigitChars 10 front n < Nat.pow 2 64 ∧
          d.isDigit = false) ↔ ∃ front d later, rest = front ++ d :: later ∧
          (∀ d ∈ front, d.isDigit = true) ∧
          Nat.ofDigitChars 10 front (10 * n + (c.toNat - '0'.toNat)) < Nat.pow 2 64 ∧
          d.isDigit = false := by
        constructor
        · rintro ⟨_ | ⟨e, front⟩, d, later, split, digits, fits, other⟩
          · obtain ⟨rfl, rfl⟩ := List.cons.inj split
            rw [digit] at other
            cases other
          · obtain ⟨rfl, rfl⟩ := List.cons.inj split
            rw [List.forall_mem_cons] at digits
            exact ⟨front, d, later, rfl, digits.2, fits, other⟩
        · rintro ⟨front, d, later, rfl, digits, fits, other⟩
          exact ⟨c :: front, d, later, rfl, List.forall_mem_cons.mpr ⟨digit, digits⟩, fits, other⟩
      rw [begins]
      split
      · next fits => exact ih fits
      · next large =>
        constructor
        · nofun
        · rintro ⟨front, d, later, -, -, fits, -⟩
          have more := le_ofDigitChars front (10 * n + (c.toNat - '0'.toNat))
          omega
    · next other =>
      refine iff_of_true rfl ⟨[], c, rest, rfl, nofun, small, ?_⟩
      exact Bool.eq_false_iff.mpr other

variable {value : String} {n : Nat}

/-- The number is read after the sign, and a sign alone is at fault. -/
theorem word_eq (given : value ≠ "") : word value.toList =
    if unsigned value = [] then .error .notADigit else readWord 0 (unsigned value) := by
  have nonempty : value.toList ≠ [] := by simpa using given
  unfold unsigned
  generalize value.toList = text at nonempty
  cases text with
  | nil => exact absurd rfl nonempty
  | cons c rest =>
    by_cases sign : c = '+'
    · subst sign
      cases rest <;> rfl
    · unfold word
      split
      · simp_all
      · simp_all
      · simp

theorem word_eq_ok_iff (given : value ≠ "") :
    word value.toList = .ok n ↔ Denotes value n ∧ n < Nat.pow 2 64 := by
  rw [word_eq given]
  split
  · next nothing =>
    constructor
    · nofun
    · rintro ⟨denotes, -⟩
      exact absurd nothing denotes.some_digit
  · next something =>
    rw [readWord_eq_ok_iff (by decide)]
    constructor
    · rintro ⟨digits, number, fits⟩
      exact ⟨⟨something, digits, number⟩, fits⟩
    · rintro ⟨⟨-, digits, number⟩, fits⟩
      exact ⟨digits, number, fits⟩

/-- Reading digits goes wrong in two ways only. -/
theorem readWord_fault {n : Nat} {digits : List Char} {fault : ValueFault}
    (wrong : readWord n digits = .error fault) : fault = .notADigit ∨ fault = .tooLarge := by
  induction digits generalizing n with
  | nil => cases wrong
  | cons c rest ih =>
    rw [readWord_cons] at wrong
    split at wrong
    · split at wrong
      · exact ih wrong
      · cases wrong
        exact .inr rfl
    · cases wrong
      exact .inl rfl

theorem word_eq_error_iff (given : value ≠ "") {fault : ValueFault} :
    word value.toList = .error fault ↔ fault ≠ .zero ∧ NumberFault value fault := by
  rw [word_eq given]
  by_cases nothing : unsigned value = []
  · rw [if_pos nothing, Except.error.injEq]
    constructor
    · rintro rfl
      exact ⟨nofun, .inl nothing⟩
    · rintro ⟨other, wrong⟩
      cases fault with
      | noAddress => cases wrong
      | notADigit => rfl
      | tooLarge =>
        obtain ⟨front, rest, split, -, large⟩ := wrong
        obtain ⟨rfl, -⟩ := List.append_eq_nil_iff.mp (split.symm.trans nothing)
        cases large
      | zero => exact absurd rfl other
  · rw [if_neg nothing]
    cases fault with
    | noAddress =>
      constructor
      · intro wrong
        rcases readWord_fault wrong with other | other <;> cases other
      · rintro ⟨-, wrong⟩
        cases wrong
    | zero =>
      constructor
      · intro wrong
        rcases readWord_fault wrong with other | other <;> cases other
      · rintro ⟨other, -⟩
        exact absurd rfl other
    | notADigit =>
      rw [readWord_eq_notADigit_iff (by decide)]
      unfold NumberFault
      simp [nothing]
    | tooLarge =>
      rw [readWord_eq_tooLarge_iff (by decide)]
      unfold NumberFault
      simp

theorem positiveWord_eq_ok_iff (given : value ≠ "") :
    positiveWord value = .ok n ↔ IsCount value n := by
  have isRead : positiveWord value = .ok n ↔ word value.toList = .ok n ∧ n ≠ 0 := by
    unfold positiveWord
    cases word value.toList with
    | error fault => exact ⟨nofun, fun given => nomatch given.1⟩
    | ok m =>
      change (if m = 0 then Except.error ValueFault.zero else Except.ok m) = _ ↔ _
      split
      · next zero =>
        constructor
        · nofun
        · rintro ⟨same, positive⟩
          cases same
          exact absurd zero positive
      · next positive =>
        rw [Except.ok.injEq]
        constructor
        · rintro rfl
          exact ⟨rfl, positive⟩
        · exact fun given => given.1
  rw [isRead, word_eq_ok_iff given]
  constructor
  · rintro ⟨⟨denotes, fits⟩, positive⟩
    exact ⟨denotes, Nat.one_le_iff_ne_zero.mpr positive, fits⟩
  · rintro ⟨denotes, positive, fits⟩
    exact ⟨⟨denotes, fits⟩, Nat.one_le_iff_ne_zero.mp positive⟩

theorem positiveWord_eq_error_iff (given : value ≠ "") {fault : ValueFault} :
    positiveWord value = .error fault ↔ NumberFault value fault := by
  have isWrong : positiveWord value = .error fault ↔
      word value.toList = .error fault ∨ word value.toList = .ok 0 ∧ fault = .zero := by
    unfold positiveWord
    cases word value.toList with
    | error other => simp [bind, Except.bind]
    | ok m =>
      change (if m = 0 then Except.error ValueFault.zero else Except.ok m) = _ ↔ _
      split
      · next zero => simp [zero, eq_comm]
      · next positive => simp [positive]
  rw [isWrong, word_eq_error_iff given, word_eq_ok_iff given]
  constructor
  · rintro (⟨-, wrong⟩ | ⟨⟨denotes, -⟩, rfl⟩)
    · exact wrong
    · exact denotes
  · intro wrong
    by_cases zero : fault = .zero
    · subst zero
      exact .inr ⟨⟨wrong, by decide⟩, rfl⟩
    · exact .inl ⟨zero, wrong⟩

/-! ### Writing a number -/

theorem Denotes.unique {m : Nat} (first : Denotes value n) (second : Denotes value m) : n = m :=
  first.number.symm.trans second.number

theorem toList_toString (n : Nat) : (toString n).toList = Nat.toDigits 10 n := by
  rw [Nat.toString_eq_repr, Nat.toList_repr]

theorem toString_ne_empty (n : Nat) : toString n ≠ "" := by
  intro empty
  have digits := congrArg String.toList empty
  rw [toList_toString] at digits
  exact Nat.toDigits_ne_nil digits

/-- A number has no blanks in it. -/
theorem trimmed_toString (n : Nat) : Text.trimmed (toString n) = toString n := by
  have printed : ∀ d ∈ (toString n).toList, Text.isBlank d = false := by
    intro d member
    rw [toList_toString] at member
    have digit := isDigit_iff.mp (Nat.isDigit_of_mem_toDigits (by decide) (by decide) member)
    rw [Bool.eq_false_iff]
    intro blank
    simp only [Text.isBlank, Bool.or_eq_true, Bool.and_eq_true, decide_eq_true_eq, beq_iff_eq]
      at blank
    omega
  rw [Text.trimmed, Text.trim_eq_self printed, String.ofList_toList]

/-- A number has no sign in front. -/
theorem unsigned_toString (n : Nat) : unsigned (toString n) = Nat.toDigits 10 n := by
  unfold unsigned
  rw [toList_toString]
  split
  · next rest signed =>
    have sign : '+' ∈ Nat.toDigits 10 n := by rw [signed]; exact List.mem_cons_self
    have digit : '+'.isDigit = true := Nat.isDigit_of_mem_toDigits (by decide) (by decide) sign
    cases digit
  · rfl

/-- A number that is written in decimal digits is read back. -/
theorem denotes_toString (n : Nat) : Denotes (toString n) n := by
  have written := unsigned_toString n
  refine ⟨?_, ?_, ?_⟩
  · rw [written]
    exact Nat.toDigits_ne_nil
  · intro d member
    rw [written] at member
    exact Nat.isDigit_of_mem_toDigits (by decide) (by decide) member
  · rw [written]
    exact Nat.ofDigitChars_ten_toDigits

theorem isCount_toString (positive : 1 ≤ n) (fits : n < Nat.pow 2 64) : IsCount (toString n) n :=
  ⟨denotes_toString n, positive, fits⟩

end Herald.Config
