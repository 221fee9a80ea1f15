import Herald.Signature

/-!
# Which webhooks are genuine

A webhook passes for genuine by the tag in its header or by the secret in its query. Bytes
are compared by gathering their differences over the whole length, so that nothing is
accepted for its beginning.

Main statement: a webhook is accepted exactly where there is a secret and one of the two
proofs is right to the last byte (`authenticate_iff_genuine`).
-/

namespace Herald.Signature

/-- What is gathered is zero exactly where nothing was gathered before and no two bytes
differ. -/
theorem foldl_differences_eq_zero_iff {a b : Bytes} (same : a.length = b.length) (acc : UInt8) :
    (a.zip b).foldl (fun acc (x, y) => acc ||| (x ^^^ y)) acc = 0 ↔ acc = 0 ∧ a = b := by
  induction a generalizing b acc with
  | nil =>
    have empty : b = [] := List.length_eq_zero_iff.mp same.symm
    simp [empty]
  | cons x a ih =>
    cases b with
    | nil => cases same
    | cons y b =>
      have rest : a.length = b.length := Nat.succ.inj same
      rw [List.zip_cons_cons, List.foldl_cons, ih rest, UInt8.or_eq_zero_iff, UInt8.xor_eq_zero_iff,
        List.cons.injEq, and_assoc]

theorem sameBytes_iff {a b : Bytes} : sameBytes a b = true ↔ a = b := by
  unfold sameBytes
  rw [Bool.and_eq_true, beq_iff_eq, beq_iff_eq]
  constructor
  · intro given
    obtain ⟨length, gathered⟩ := given
    exact ((foldl_differences_eq_zero_iff length 0).mp gathered).2
  · intro same
    subst same
    exact ⟨rfl, (foldl_differences_eq_zero_iff rfl 0).mpr ⟨rfl, rfl⟩⟩

variable {payload secret : Bytes} {header : String}

theorem verify_iff :
    verify payload header secret = true ↔ ofHeader? header = some (compute payload secret) := by
  unfold verify
  cases ofHeader? header with
  | none => simp
  | some tag => rw [sameBytes_iff, Option.some.injEq]

theorem verifyShared_iff {provided secret : String} :
    verifyShared provided secret = true ↔ provided = secret := by
  rw [verifyShared, sameBytes_iff, Text.Utf8.encode_inj]

/-- Nothing in a header value that is written here is blank. -/
theorem isBlank_of_mem_format {tag : Bytes} :
    ∀ c ∈ scheme ++ Text.Hex.encode tag, Text.isBlank c = false := by
  have digits : ∀ n : Fin 16, Text.isBlank (Text.Hex.digit n) = false := by decide
  have named : scheme.all (!Text.isBlank ·) = true := by decide
  intro c member
  rcases List.mem_append.mp member with first | later
  · simpa using List.all_eq_true.mp named c first
  · obtain ⟨b, -, digit⟩ := List.mem_flatMap.mp later
    have bound := b.toNat_lt
    have high := digits ⟨b.toNat / 16, by omega⟩
    have low := digits ⟨b.toNat % 16, by omega⟩
    simp only [List.mem_cons, List.not_mem_nil, or_false] at digit
    rcases digit with rfl | rfl
    · exact high
    · exact low

/-- The tag that is written into a header value is the one that is read from it. -/
theorem ofHeader?_format (tag : Bytes) : ofHeader? (format tag) = some tag := by
  have rest : Text.after? scheme (scheme ++ Text.Hex.encode tag) = some (Text.Hex.encode tag) :=
    Text.after?_eq_some_iff.mpr rfl
  rw [ofHeader?, format, String.toList_ofList, Text.trim_eq_self isBlank_of_mem_format, rest,
    Option.bind_some, Text.Hex.decode?_encode]

/-- A webhook is accepted exactly where there is a secret and either the header spells the
tag of the body or the query gives the secret. A tag has 32 bytes, and of all tags that a
header may spell only the whole of it is verified. -/
theorem authenticate_iff_genuine (payload : Bytes) (header provided : Option String)
    (secret : String) :
    (authenticate payload header provided secret = true ↔
      secret ≠ "" ∧
        ((∃ value, header = some value ∧
            ofHeader? value = some (compute payload (Text.Utf8.encode secret))) ∨
          provided = some secret)) ∧
    (compute payload (Text.Utf8.encode secret)).length = 32 ∧
    (∀ tag, verify payload (format tag) (Text.Utf8.encode secret) = true ↔
      tag = compute payload (Text.Utf8.encode secret)) ∧
    (∀ a b, sameBytes a b = true ↔ a = b) := by
  refine ⟨?_, Digest.length_hmac _ _, ?_, fun a b => sameBytes_iff⟩
  · unfold authenticate
    by_cases unset : secret = ""
    · simp [unset]
    · have set : ¬ secret.isEmpty = true := by rwa [String.isEmpty_iff]
      have signed : (header.any fun value => verify payload value (Text.Utf8.encode secret)) = true ↔
          ∃ value, header = some value ∧
            ofHeader? value = some (compute payload (Text.Utf8.encode secret)) := by
        simp only [Option.any_eq_true, verify_iff]
      have shared : (provided.any fun given => verifyShared given secret) = true ↔
          provided = some secret := by
        simp only [Option.any_eq_true, verifyShared_iff, exists_eq_right]
      rw [if_neg set, Bool.or_eq_true, signed, shared]
      exact ⟨fun proved => ⟨unset, proved⟩, fun given => given.2⟩
  · intro tag
    rw [verify_iff, ofHeader?_format, Option.some.injEq]

/-- The second test vector of RFC 4231. -/
example :
    format (compute (Text.Utf8.encode "what do ya want for nothing?") (Text.Utf8.encode "Jefe")) =
      "sha256=5bdcc146bf60754e6a042426089575c75a003f089d2739839dec58b964ec3843" := by
  decide +kernel

end Herald.Signature
