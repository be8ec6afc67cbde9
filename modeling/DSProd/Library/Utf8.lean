import Mathlib.Algebra.Order.Ring.Nat

/-!
# Bytes as text

How a scripting language decodes UTF-8 when it is asked to replace what is no
text: a replacement character stands for each longest beginning of a sequence
that cannot be completed.
-/

namespace DSProd.Library.Utf8

/-- How many bytes follow the first one of a sequence, and the bounds of the
second byte. -/
def sequenceOf (first : Nat) : Option (Nat × Nat × Nat) :=
  if first < 0x80 then some (0, 0x80, 0xBF)
  else if 0xC2 ≤ first ∧ first ≤ 0xDF then some (1, 0x80, 0xBF)
  else if first = 0xE0 then some (2, 0xA0, 0xBF)
  else if first = 0xED then some (2, 0x80, 0x9F)
  else if 0xE1 ≤ first ∧ first ≤ 0xEF then some (2, 0x80, 0xBF)
  else if first = 0xF0 then some (3, 0x90, 0xBF)
  else if 0xF1 ≤ first ∧ first ≤ 0xF3 then some (3, 0x80, 0xBF)
  else if first = 0xF4 then some (3, 0x80, 0x8F)
  else none

/-- The bytes that continue a sequence, up to a number of them.  The bounds are
those of the next one. -/
def continuation : Nat → Nat → Nat → List UInt8 → List Nat
  | needed + 1, low, high, byte :: rest =>
      if low ≤ byte.toNat ∧ byte.toNat ≤ high then
        byte.toNat :: continuation needed 0x80 0xBF rest
      else []
  | _, _, _, _ => []

/-- The first byte of a sequence without the bits that tell its length. -/
def leadingBits (first needed : Nat) : Nat :=
  if needed = 0 then first else first % 2 ^ (6 - needed)

/-- The first character of some bytes, and how many bytes after the first one
belong to it. -/
def decodeFirst (first : UInt8) (rest : List UInt8) : Char × Nat :=
  match sequenceOf first.toNat with
  | none => ('\uFFFD', 0)
  | some (needed, low, high) =>
      let bytes := continuation needed low high rest
      if bytes.length = needed then
        (Char.ofNat (bytes.foldl (fun code byte => 64 * code + byte % 64)
          (leadingBits first.toNat needed)), needed)
      else ('\uFFFD', bytes.length)

/-- The characters of some bytes, up to a number of them. -/
def decodeUpTo : Nat → List UInt8 → List Char
  | number + 1, first :: rest =>
      (decodeFirst first rest).1 :: decodeUpTo number (rest.drop (decodeFirst first rest).2)
  | _, _ => []

/-- `bytes.decode("utf-8", "replace")`. -/
def decode (bytes : List UInt8) : List Char :=
  decodeUpTo bytes.length bytes

example : decode [0x61, 0xC3, 0xA9, 0xE2, 0x82, 0x61, 0xFF] =
    ['a', 'é', '\uFFFD', 'a', '\uFFFD'] := by
  decide

/-! ## Decoding in parts -/

theorem le_of_sequenceOf {first needed low high : Nat}
    (begins : sequenceOf first = some (needed, low, high)) : 0x80 ≤ low := by
  simp only [sequenceOf] at begins
  split_ifs at begins <;> cases begins <;> decide

theorem length_continuation_le (needed low high : Nat) (bytes : List UInt8) :
    (continuation needed low high bytes).length ≤ bytes.length := by
  induction bytes generalizing needed low high with
  | nil => cases needed <;> exact Nat.le_refl 0
  | cons byte rest ih =>
      cases needed with
      | zero => exact Nat.zero_le _
      | succ needed =>
          rw [continuation]
          split
          · exact Nat.succ_le_succ (ih _ _ _)
          · exact Nat.zero_le _

/-- An ASCII character continues nothing. -/
theorem continuation_append {mark : UInt8} (ascii : mark.toNat < 0x80) {low : Nat}
    (bound : 0x80 ≤ low) (needed high : Nat) (bytes after : List UInt8) :
    continuation needed low high (bytes ++ mark :: after) =
      continuation needed low high bytes := by
  induction bytes generalizing needed low high with
  | nil =>
      cases needed with
      | zero => rfl
      | succ needed =>
          have outside : ¬(low ≤ mark.toNat ∧ mark.toNat ≤ high) := by omega
          rw [List.nil_append, continuation, if_neg outside]
          rfl
  | cons byte rest ih =>
      cases needed with
      | zero => rfl
      | succ needed =>
          rw [List.cons_append, continuation, continuation, ih (Nat.le_refl _)]

theorem decodeFirst_append {mark : UInt8} (ascii : mark.toNat < 0x80) (first : UInt8)
    (rest after : List UInt8) :
    decodeFirst first (rest ++ mark :: after) = decodeFirst first rest := by
  rw [decodeFirst, decodeFirst]
  cases begins : sequenceOf first.toNat with
  | none => rfl
  | some sequence =>
      dsimp only
      rw [continuation_append ascii (le_of_sequenceOf begins)]

theorem decodeFirst_length_le (first : UInt8) (rest : List UInt8) :
    (decodeFirst first rest).2 ≤ rest.length := by
  rw [decodeFirst]
  split
  · exact Nat.zero_le _
  · rename_i needed low high _
    have short := length_continuation_le needed low high rest
    dsimp only
    split
    · rename_i complete
      exact complete ▸ short
    · exact short

/-- The number does not matter where it is large enough. -/
theorem decodeUpTo_of_le {one other : Nat} {bytes : List UInt8} (fits : bytes.length ≤ one)
    (fitsOther : bytes.length ≤ other) : decodeUpTo one bytes = decodeUpTo other bytes := by
  induction one generalizing other bytes with
  | zero =>
      rw [List.length_eq_zero_iff.mp (Nat.le_zero.mp fits)]
      cases other <;> rfl
  | succ number ih =>
      cases bytes with
      | nil => cases other <;> rfl
      | cons first rest =>
          have short : (rest.drop (decodeFirst first rest).2).length ≤ rest.length := by
            rw [List.length_drop]
            exact Nat.sub_le _ _
          cases other with
          | zero => exact absurd fitsOther (by simp)
          | succ otherNumber =>
              rw [decodeUpTo, decodeUpTo, ih (short.trans (Nat.le_of_succ_le_succ fits))
                (short.trans (Nat.le_of_succ_le_succ fitsOther))]

theorem decode_cons (first : UInt8) (rest : List UInt8) :
    decode (first :: rest) =
      (decodeFirst first rest).1 :: decode (rest.drop (decodeFirst first rest).2) := by
  rw [decode, List.length_cons, decodeUpTo, decode]
  congr 1
  apply decodeUpTo_of_le _ (Nat.le_refl _)
  rw [List.length_drop]
  exact Nat.sub_le _ _

theorem decode_ascii {mark : UInt8} (ascii : mark.toNat < 0x80) (after : List UInt8) :
    decode (mark :: after) = Char.ofNat mark.toNat :: decode after := by
  have first : decodeFirst mark after = (Char.ofNat mark.toNat, 0) := by
    rw [decodeFirst, sequenceOf, if_pos ascii]
    cases after <;> rfl
  rw [decode_cons, first, List.drop_zero]

/-- Text falls apart at an ASCII character, whatever bytes are around it. -/
theorem decode_append {mark : UInt8} (ascii : mark.toNat < 0x80) (before after : List UInt8) :
    decode (before ++ mark :: after) =
      decode before ++ Char.ofNat mark.toNat :: decode after := by
  induction length : before.length using Nat.strong_induction_on generalizing before with
  | _ number ih =>
      cases before with
      | nil => exact decode_ascii ascii after
      | cons first rest =>
          have within := decodeFirst_length_le first rest
          have shorter : (rest.drop (decodeFirst first rest).2).length < number := by
            rw [← length, List.length_drop, List.length_cons]
            omega
          rw [List.cons_append, decode_cons, decodeFirst_append ascii,
            List.drop_append_of_le_length within, ih _ shorter _ rfl, decode_cons,
            List.cons_append]

end DSProd.Library.Utf8
