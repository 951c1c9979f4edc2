import CommandBridge.Text.Utf8
import Mathlib.Tactic.Common

/-!
# Text read back from its bytes

The bytes of a character bring that character out, and the reader is then as it was before. So
the bytes of a text read as that text, whatever follows them.
-/

set_option autoImplicit false

namespace CommandBridge.Text

/-- That a fixed text holds no control character is seen character by character. -/
theorem le_of_all {cs : List Char} (seen : cs.all (fun c => decide (0x20 ≤ c.toNat)) = true) :
    ∀ c ∈ cs, 0x20 ≤ c.toNat :=
  fun c there => of_decide_eq_true (List.all_eq_true.mp seen c there)

end CommandBridge.Text

namespace CommandBridge.Utf8

variable {c : Char} {cs : List Char}

theorem valid (c : Char) : c.toNat < 0xD800 ∨ 0xDFFF < c.toNat ∧ c.toNat < 0x110000 := c.valid

theorem toNat_byte {n : Nat} (h : n < 256) : (UInt8.ofNat n).toNat = n := by
  rw [UInt8.toNat_ofNat']
  omega

theorem read_cons (pending : Option Pending) (b : UInt8) (rest : List UInt8) :
    read pending (b :: rest) =
      (byte pending b.toNat).1 ++ read (byte pending b.toNat).2 rest := rfl

theorem byte_more {p : Pending} {b : Nat} (low : p.low ≤ b) (high : b ≤ p.high)
    (more : 1 < p.missing) :
    byte (some p) b = ([], some ⟨p.value * 64 + b % 64, p.missing - 1, 0x80, 0xBF⟩) := by
  rw [byte, if_pos ⟨low, high⟩, if_neg (by omega)]

theorem byte_last {p : Pending} {b : Nat} (low : p.low ≤ b) (high : b ≤ p.high)
    (last : p.missing = 1) :
    byte (some p) b = ([some (Char.ofNat (p.value * 64 + b % 64))], none) := by
  rw [byte, if_pos ⟨low, high⟩, if_pos (by omega)]

/-! The first byte of a longer character leaves bounds that its second byte keeps. -/

theorem begin_two {n : Nat} (large : 0x80 ≤ n) (small : n < 0x800) :
    begin (0xC0 + n / 64) = ([], some ⟨n / 64, 1, 0x80, 0xBF⟩) := by
  rw [begin, if_neg (by omega), if_neg (by omega), if_pos (by omega)]
  simp

theorem begin_three {n : Nat} (large : 0x800 ≤ n) (small : n < 0x10000)
    (valid : n < 0xD800 ∨ 0xDFFF < n) : ∃ low high,
    begin (0xE0 + n / 4096) = ([], some ⟨n / 4096, 2, low, high⟩) ∧
      low ≤ 0x80 + n / 64 % 64 ∧ 0x80 + n / 64 % 64 ≤ high := by
  rw [begin, if_neg (by omega), if_neg (by omega), if_neg (by omega)]
  by_cases least : n / 4096 = 0
  · rw [if_pos (by omega), least]
    exact ⟨_, _, rfl, by omega, by omega⟩
  · rw [if_neg (by omega)]
    by_cases surrogate : n / 4096 = 0xD
    · rw [if_pos (by omega), surrogate]
      exact ⟨_, _, rfl, by omega, by omega⟩
    · rw [if_neg (by omega), if_pos (by omega), Nat.add_sub_cancel_left]
      exact ⟨_, _, rfl, by omega, by omega⟩

theorem begin_four {n : Nat} (large : 0x10000 ≤ n) (small : n < 0x110000) : ∃ low high,
    begin (0xF0 + n / 262144) = ([], some ⟨n / 262144, 3, low, high⟩) ∧
      low ≤ 0x80 + n / 4096 % 64 ∧ 0x80 + n / 4096 % 64 ≤ high := by
  rw [begin, if_neg (by omega), if_neg (by omega), if_neg (by omega), if_neg (by omega),
    if_neg (by omega), if_neg (by omega)]
  by_cases least : n / 262144 = 0
  · rw [if_pos (by omega), least]
    exact ⟨_, _, rfl, by omega, by omega⟩
  · rw [if_neg (by omega)]
    by_cases inner : n / 262144 < 4
    · rw [if_pos (by omega), Nat.add_sub_cancel_left]
      exact ⟨_, _, rfl, by omega, by omega⟩
    · rw [if_neg (by omega), if_pos (by omega), show n / 262144 = 4 by omega]
      exact ⟨_, _, rfl, by omega, by omega⟩

theorem read_encodeChar (c : Char) (rest : List UInt8) :
    read none (encodeChar c ++ rest) = some c :: read none rest := by
  have self : Char.ofNat c.toNat = c := Char.ofNat_toNat c
  have bounds := valid c
  rw [encodeChar]
  generalize c.toNat = n at self bounds
  by_cases one : n < 0x80
  · rw [if_pos one, List.singleton_append, read_cons, toNat_byte (by omega), byte, begin,
      if_pos one, self]
    rfl
  · rw [if_neg one]
    by_cases two : n < 0x800
    · rw [if_pos two, List.cons_append, read_cons, toNat_byte (by omega), byte,
        begin_two (by omega) two, List.singleton_append, read_cons, toNat_byte (by omega),
        byte_last (by simp) (by simp; omega) rfl]
      have whole : n / 64 * 64 + (0x80 + n % 64) % 64 = n := by omega
      rw [whole, self]
      rfl
    · rw [if_neg two]
      by_cases three : n < 0x10000
      · obtain ⟨low, high, begins, above, below⟩ := begin_three (by omega) three (by omega)
        rw [if_pos three, List.cons_append, read_cons, toNat_byte (by omega), byte, begins,
          List.cons_append, read_cons, toNat_byte (by omega), byte_more above below (by simp),
          List.singleton_append, read_cons, toNat_byte (by omega),
          byte_last (by simp) (by simp; omega) rfl]
        have whole : (n / 4096 * 64 + (0x80 + n / 64 % 64) % 64) * 64 + (0x80 + n % 64) % 64 = n := by
          omega
        rw [whole, self]
        rfl
      · obtain ⟨low, high, begins, above, below⟩ := begin_four (by omega) (by omega : n < 0x110000)
        rw [if_neg three, List.cons_append, read_cons, toNat_byte (by omega), byte, begins,
          List.cons_append, read_cons, toNat_byte (by omega), byte_more above below (by simp),
          List.cons_append, read_cons, toNat_byte (by omega),
          byte_more (by simp) (by simp; omega) (by simp), List.singleton_append, read_cons,
          toNat_byte (by omega), byte_last (by simp) (by simp; omega) rfl]
        have whole : ((n / 262144 * 64 + (0x80 + n / 4096 % 64) % 64) * 64 +
            (0x80 + n / 64 % 64) % 64) * 64 + (0x80 + n % 64) % 64 = n := by omega
        rw [whole, self]
        rfl

theorem encode_cons (c : Char) (cs : List Char) : encode (c :: cs) = encodeChar c ++ encode cs := rfl

theorem encode_append (cs ds : List Char) : encode (cs ++ ds) = encode cs ++ encode ds :=
  List.flatMap_append

/-- The bytes of a text bring out that text, and then what follows. -/
theorem read_encode (cs : List Char) (rest : List UInt8) :
    read none (encode cs ++ rest) = cs.map some ++ read none rest := by
  induction cs with
  | nil => rfl
  | cons c cs ih => rw [encode_cons, List.append_assoc, read_encodeChar, ih]; rfl

theorem decodeLossy_encode (cs : List Char) : decodeLossy (encode cs) = cs := by
  have whole := read_encode cs []
  rw [List.append_nil, read] at whole
  rw [decodeLossy, whole]
  simp [Function.comp_def]

/-- A character that is no control has no control among its bytes. -/
theorem le_of_mem_encodeChar {b : UInt8} (printable : 0x20 ≤ c.toNat) (h : b ∈ encodeChar c) :
    0x20 ≤ b.toNat := by
  have bounds := valid c
  rw [encodeChar] at h
  generalize c.toNat = n at printable bounds h
  have byte (m : Nat) (large : 0x20 ≤ m) (small : m < 256) : 0x20 ≤ (UInt8.ofNat m).toNat := by
    rw [toNat_byte small]
    exact large
  split at h
  · rw [List.mem_singleton.mp h]
    exact byte n printable (by omega)
  split at h
  · rcases List.mem_cons.mp h with rfl | h
    · exact byte _ (by omega) (by omega)
    · rw [List.mem_singleton.mp h]
      exact byte _ (by omega) (by omega)
  split at h
  · simp only [List.mem_cons, List.not_mem_nil, or_false] at h
    rcases h with rfl | rfl | rfl <;> exact byte _ (by omega) (by omega)
  · simp only [List.mem_cons, List.not_mem_nil, or_false] at h
    rcases h with rfl | rfl | rfl | rfl <;> exact byte _ (by omega) (by omega)

theorem le_of_mem_encode {b : UInt8} (printable : ∀ c ∈ cs, 0x20 ≤ c.toNat) (h : b ∈ encode cs) :
    0x20 ≤ b.toNat := by
  obtain ⟨c, there, h⟩ := List.mem_flatMap.mp h
  exact le_of_mem_encodeChar (printable c there) h

end CommandBridge.Utf8
