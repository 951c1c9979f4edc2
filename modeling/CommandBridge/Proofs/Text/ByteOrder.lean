import CommandBridge.Proofs.Text.Utf8
import Mathlib.Data.String.Basic

/-!
# The order of texts and of their bytes

Texts are in the order of their code points. Their bytes, compared one by one, are in the same order:
where two texts part, the bytes of the smaller character part from those of the greater one before either end.
-/

set_option autoImplicit false

namespace CommandBridge.Utf8

variable {cs ds : List Char} {xs ys : List UInt8}

theorem byte_cons_lt {m n : Nat} (hm : m < 256) (hn : n < 256) :
    UInt8.ofNat m :: xs < UInt8.ofNat n :: ys ↔ m < n ∨ m = n ∧ xs < ys := by
  rw [List.cons_lt_cons_iff, UInt8.lt_iff_toNat_lt, ← UInt8.toNat_inj, toNat_byte hm, toNat_byte hn]

/-- The bytes of a smaller character stand before those of a greater one, whatever follows either. -/
theorem encodeChar_lt {c d : Char} (h : c.toNat < d.toNat) :
    encodeChar c ++ xs < encodeChar d ++ ys := by
  have hc := valid c
  have hd := valid d
  simp only [encodeChar]
  generalize c.toNat = m at h hc
  generalize d.toNat = n at h hd
  split_ifs
  all_goals
    simp (disch := omega) only [List.cons_append, List.nil_append, byte_cons_lt]
    omega

theorem exists_encodeChar (c : Char) : ∃ b bytes, encodeChar c = b :: bytes := by
  simp only [encodeChar]
  split_ifs <;> exact ⟨_, _, rfl⟩

theorem encode_lt (h : cs < ds) : encode cs < encode ds := by
  induction h with
  | @nil d ds =>
    obtain ⟨b, bytes, shape⟩ := exists_encodeChar d
    rw [encode_cons, shape]
    exact .nil
  | @cons c cs ds _ ih =>
    rw [encode_cons, encode_cons]
    exact List.Lex.append_left _ ih _
  | rel smaller => exact encodeChar_lt smaller

theorem encode_lt_iff : encode cs < encode ds ↔ cs < ds := by
  refine ⟨fun h => ?_, encode_lt⟩
  rcases lt_trichotomy cs ds with less | rfl | more
  · exact less
  · exact absurd h (List.lt_irrefl _)
  · exact absurd h (List.lt_asymm (encode_lt more))

end CommandBridge.Utf8
