import CommandBridge.Proofs.Json.Numbers
import CommandBridge.Proofs.Text.Utf8

/-!
# What a text is made of

The compact text of a value holds no control character: strings escape theirs, and everything else
is written in digits, letters and signs. So a text is one line.
-/

set_option autoImplicit false

namespace CommandBridge.Json

theorem le_of_isDigit {c : Char} (h : c.isDigit = true) : 0x20 ≤ c.toNat := by
  rw [Char.isDigit_iff_toNat] at h
  exact Nat.le_trans (by decide) h.1

theorem le_hexDigit (n : Nat) : 0x20 ≤ (hexDigit n).toNat := by
  have all : ∀ m < 16, 0x20 ≤ (Nat.digitChar m).toNat := by decide
  exact all (n % 16) (Nat.mod_lt n (by decide))

theorem le_of_mem_escapeChar {c d : Char} (h : d ∈ escapeChar c) : 0x20 ≤ d.toNat := by
  have two {a b : Char} (pair : d ∈ [a, b]) (ha : 0x20 ≤ a.toNat) (hb : 0x20 ≤ b.toNat) :
      0x20 ≤ d.toNat := by
    rcases List.mem_cons.mp pair with rfl | pair
    · exact ha
    · exact List.mem_singleton.mp pair ▸ hb
  rw [escapeChar] at h
  split_ifs at h with _ _ _ _ _ _ _ control
  iterate 7 exact two h (by decide) (by decide)
  · simp only [List.mem_cons, List.not_mem_nil, or_false] at h
    rcases h with rfl | rfl | rfl | rfl | rfl | rfl
    iterate 4 decide
    · exact le_hexDigit _
    · exact le_hexDigit _
  · rw [List.mem_singleton.mp h]
    omega

theorem le_of_mem_quote {s : String} {c : Char} (h : c ∈ quote s) : 0x20 ≤ c.toNat := by
  rw [quote, List.mem_cons, List.mem_append, List.mem_singleton, List.mem_flatMap] at h
  rcases h with rfl | ⟨d, -, h⟩ | rfl
  · decide
  · exact le_of_mem_escapeChar h
  · decide

theorem le_of_mem_intText {n : Int} {c : Char} (h : c ∈ intText n) : 0x20 ≤ c.toNat := by
  rw [intText] at h
  split at h
  · rcases List.mem_cons.mp h with rfl | h
    · decide
    · exact le_of_isDigit (isDigit_of_mem_digits h)
  · exact le_of_isDigit (isDigit_of_mem_digits h)

theorem le_of_mem_positional {digits : List Char} (all : ∀ c ∈ digits, 0x20 ≤ c.toNat) {point : Int}
    {c : Char} (h : c ∈ Binary64.positional digits point) : 0x20 ≤ c.toNat := by
  have zero : 0x20 ≤ '0'.toNat := by decide
  have dot : 0x20 ≤ '.'.toNat := by decide
  rw [Binary64.positional] at h
  split at h
  · simp only [List.mem_cons, List.mem_append, List.mem_replicate] at h
    rcases h with rfl | rfl | ⟨-, rfl⟩ | h
    · exact zero
    · exact dot
    · exact zero
    · exact all c h
  · simp only [List.mem_cons, List.mem_append, List.mem_replicate] at h
    rcases h with (h | ⟨-, rfl⟩) | rfl | h
    · exact all c (List.mem_of_mem_take h)
    · exact zero
    · exact dot
    · split at h
      · rw [List.mem_singleton.mp h]
        exact zero
      · exact all c (List.mem_of_mem_drop h)

theorem le_of_mem_scientific {digits : List Char} (all : ∀ c ∈ digits, 0x20 ≤ c.toNat)
    {exponent : Int} {c : Char} (h : c ∈ Binary64.scientific floatLayout digits exponent) :
    0x20 ≤ c.toNat := by
  simp only [Binary64.scientific, List.mem_append, List.mem_cons] at h
  rcases h with h | rfl | h | h
  · split at h
    · rw [List.mem_singleton.mp h]
      decide
    · exact all c h
    · next d rest =>
      rcases List.mem_cons.mp h with rfl | h
      · exact all c List.mem_cons_self
      · rcases List.mem_cons.mp h with rfl | h
        · decide
        · exact all c (List.mem_cons_of_mem _ h)
  · decide
  · split at h
    · exact Text.le_of_all rfl c h
    · exact Text.le_of_all rfl c h
  · exact le_of_isDigit (isDigit_of_mem_digits h)

theorem le_of_mem_format {x : Binary64} {c : Char} (h : c ∈ x.format floatLayout) :
    0x20 ≤ c.toNat := by
  have digits {n : Nat} : ∀ c ∈ Binary64.trimZeros (Nat.toDigits 10 n), 0x20 ≤ c.toNat := by
    intro c there
    rw [Binary64.trimZeros, List.mem_reverse] at there
    have listed := (List.dropWhile_sublist _).subset there
    exact le_of_isDigit (isDigit_of_mem_digits (List.mem_reverse.mp listed))
  have signed {tail : List Char} (h : c ∈ (if x.negative then ['-'] else []) ++ tail)
      (others : c ∈ tail → 0x20 ≤ c.toNat) : 0x20 ≤ c.toNat := by
    rcases List.mem_append.mp h with h | h
    · split at h
      · rw [List.mem_singleton.mp h]
        decide
      · cases h
    · exact others h
  have zero : ∀ c ∈ ['0', '.', '0'], 0x20 ≤ c.toNat := Text.le_of_all rfl
  rw [Binary64.format] at h
  generalize x.shortest = d at h
  dsimp only at h
  split at h
  · exact signed h (zero c)
  · split at h
    · exact signed h (le_of_mem_positional digits)
    · exact signed h (le_of_mem_scientific digits)

mutual
theorem le_of_mem_text : ∀ {v : Json} {c : Char}, c ∈ text v → 0x20 ≤ c.toNat
  | .null, _, h => Text.le_of_all rfl _ h
  | .bool true, _, h => Text.le_of_all rfl _ h
  | .bool false, _, h => Text.le_of_all rfl _ h
  | .number (.int n _), c, h => le_of_mem_intText h
  | .number (.float x), c, h => le_of_mem_format h
  | .string s, c, h => le_of_mem_quote h
  | .array [], _, h => Text.le_of_all rfl _ h
  | .array (v :: rest), c, h => by
    rw [text, List.mem_cons, List.mem_append] at h
    rcases h with rfl | h | h
    · decide
    · exact le_of_mem_text h
    · exact le_of_mem_itemsText h
  | .object [], _, h => Text.le_of_all rfl _ h
  | .object ((k, v) :: rest), c, h => by
    rw [text, List.mem_cons, List.mem_append, List.mem_cons, List.mem_append] at h
    rcases h with rfl | h | rfl | h | h
    · decide
    · exact le_of_mem_quote h
    · decide
    · exact le_of_mem_text h
    · exact le_of_mem_membersText h

theorem le_of_mem_itemsText : ∀ {items : List Json} {c : Char}, c ∈ itemsText items → 0x20 ≤ c.toNat
  | [], _, h => Text.le_of_all rfl _ h
  | v :: rest, c, h => by
    rw [itemsText, List.mem_cons, List.mem_append] at h
    rcases h with rfl | h | h
    · decide
    · exact le_of_mem_text h
    · exact le_of_mem_itemsText h

theorem le_of_mem_membersText : ∀ {members : List (String × Json)} {c : Char},
    c ∈ membersText members → 0x20 ≤ c.toNat
  | [], _, h => Text.le_of_all rfl _ h
  | (k, v) :: rest, c, h => by
    rw [membersText, List.mem_cons, List.mem_append, List.mem_cons, List.mem_append] at h
    rcases h with rfl | h | rfl | h | h
    · decide
    · exact le_of_mem_quote h
    · decide
    · exact le_of_mem_text h
    · exact le_of_mem_membersText h
end

theorem le_of_mem_print {v : Json} {c : Char} (h : c ∈ v.print.toList) : 0x20 ≤ c.toNat := by
  rw [print, String.toList_ofList] at h
  exact le_of_mem_text h

end CommandBridge.Json
