import Herald.Text.Hex
import Mathlib.Data.List.Basic

/-!
# What reads as hexadecimal digits

Bytes are read from digits in either case and written in lower case, so that a text is read exactly
where it consists of pairs of digits, and then it is what is written but for the case.

Main statements: which texts are read (`isSome_decode?_iff`), and what is written of the bytes that
were read (`encode_of_decode?`).
-/

namespace Herald.Text.Hex

theorem digit_eq_digitChar {n : Nat} (small : n < 16) : digit n = n.digitChar := by
  have each : ∀ m : Fin 16, digit m = Nat.digitChar m := by decide
  exact each ⟨n, small⟩

/-- Each byte is written with the digit of its high half and that of its low half. -/
theorem encode_eq (bytes : List UInt8) : encode bytes =
    bytes.flatMap fun b => [(b.toNat / 16).digitChar, (b.toNat % 16).digitChar] := by
  unfold encode
  refine List.flatMap_congr fun b _ => ?_
  have bound := b.toNat_lt
  rw [digit_eq_digitChar (by omega), digit_eq_digitChar (by omega)]

theorem isSome_value?_iff {c : Char} : (value? c).isSome = true ↔ c.isHexDigit = true := by
  unfold value? Char.isHexDigit Char.isDigit
  simp only [ge_iff_le, UInt32.le_iff_toNat_le, Bool.or_eq_true, Bool.and_eq_true,
    decide_eq_true_eq]
  change _ ↔ ((0x30 ≤ c.toNat ∧ c.toNat ≤ 0x39) ∨ (0x61 ≤ c.toNat ∧ c.toNat ≤ 0x66)) ∨
    (0x41 ≤ c.toNat ∧ c.toNat ≤ 0x46)
  split
  · simp [*]
  · split
    · simp [*]
    · split
      · simp [*]
      · simp [*]

theorem ascii_of_value? {c : Char} {n : Nat} (read : value? c = some n) : c.toNat < 128 := by
  unfold value? at read
  dsimp only at read
  repeat' split at read
  all_goals first | omega | cases read

/-- The digit of what was read is the character in lower case. -/
theorem digit_of_value? {c : Char} {n : Nat} (read : value? c = some n) :
    n < 16 ∧ digit n = c.toLower := by
  have each : ∀ k : Fin 128, (value? (Char.ofNat k)).all
      (fun n => n < 16 ∧ digit n = (Char.ofNat k).toLower) = true := by decide
  have checked := each ⟨c.toNat, ascii_of_value? read⟩
  rw [Char.ofNat_toNat, read] at checked
  exact of_decide_eq_true checked

/-- A text is read exactly where it consists of pairs of digits. -/
theorem isSome_decode?_iff {text : List Char} : (decode? text).isSome = true ↔
    text.length % 2 = 0 ∧ ∀ c ∈ text, c.isHexDigit = true := by
  fun_induction decode? text with
  | case1 => simp
  | case2 c => simp
  | case3 high low rest ih =>
    have even : (high :: low :: rest).length % 2 = rest.length % 2 := by
      rw [List.length_cons, List.length_cons]
      omega
    rw [even, List.forall_mem_cons, List.forall_mem_cons, ← isSome_value?_iff,
      ← isSome_value?_iff]
    cases value? high <;> cases value? low <;> cases rest : decode? rest <;> simp_all

/-- What is written of the bytes that were read is the text in lower case. -/
theorem encode_of_decode? {text : List Char} {bytes : List UInt8}
    (read : decode? text = some bytes) : encode bytes = text.map Char.toLower := by
  fun_induction decode? text generalizing bytes with
  | case1 =>
    cases read
    rfl
  | case2 c => cases read
  | case3 high low rest ih =>
    obtain ⟨h, isHigh, read⟩ := Option.bind_eq_some_iff.mp read
    obtain ⟨l, isLow, read⟩ := Option.bind_eq_some_iff.mp read
    obtain ⟨later, isRest, made⟩ := Option.bind_eq_some_iff.mp read
    cases made
    obtain ⟨highSmall, highDigit⟩ := digit_of_value? isHigh
    obtain ⟨lowSmall, lowDigit⟩ := digit_of_value? isLow
    have whole : (UInt8.ofNat (16 * h + l)).toNat = 16 * h + l := by
      rw [UInt8.toNat_ofNat']
      omega
    have first : (16 * h + l) / 16 = h := by omega
    have second : (16 * h + l) % 16 = l := by omega
    unfold encode at ih ⊢
    rw [List.flatMap_cons, ih isRest, whole, first, second, highDigit, lowDigit]
    rfl

end Herald.Text.Hex
