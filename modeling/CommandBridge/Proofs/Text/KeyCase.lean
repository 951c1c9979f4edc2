import CommandBridge.Text.KeyCase
import Mathlib.Data.List.Chain
import Mathlib.Data.Set.Function
import Mathlib.Data.String.Basic
import Mathlib.Tactic.Common

/-!
# Keys of the two cases

A transport key has no capital. A client key has no small letter after an underscore. Conversion
to the one case and conversion to the other are inverse to each other between these keys, and each
leaves a key of its own case as it is. No other key survives the way there and back, because
whatever a conversion writes is of its case.
-/

set_option autoImplicit false

namespace CommandBridge.KeyCase

/-- No capital stands in the key. -/
def IsTransport (key : String) : Prop := ∀ c ∈ key.toList, c.isUpper = false

def Apart (a b : Char) : Prop := ¬(a = '_' ∧ b.isLower = true)

/-- No small letter stands after an underscore in the key. -/
def IsClient (key : String) : Prop := key.toList.IsChain Apart

instance : DecidableRel Apart := fun a b =>
  inferInstanceAs (Decidable (¬(a = '_' ∧ b.isLower = true)))

-- Characters are finitely many, so the instance is named: a search may choose to try them all.
instance (key : String) : Decidable (IsTransport key) :=
  List.decidableBAll (fun c : Char => c.isUpper = false) key.toList

instance (key : String) : Decidable (IsClient key) :=
  inferInstanceAs (Decidable (key.toList.IsChain Apart))

theorem exists_of_isUpper {c : Char} (h : c.isUpper = true) : ∃ n < 26, c = Char.ofNat (65 + n) := by
  have bounds : 'A'.val ≤ c.val ∧ c.val ≤ 'Z'.val := of_decide_eq_true h
  have low : 65 ≤ c.toNat := bounds.1
  have high : c.toNat ≤ 90 := bounds.2
  refine ⟨c.toNat - 65, by omega, ?_⟩
  rw [Nat.add_sub_cancel' low, Char.ofNat_toNat]

theorem exists_of_isLower {c : Char} (h : c.isLower = true) : ∃ n < 26, c = Char.ofNat (97 + n) := by
  have bounds : decide ('a'.val ≤ c.val) = true ∧ decide (c.val ≤ 'z'.val) = true :=
    Bool.and_eq_true_iff.mp h
  have low : 97 ≤ c.toNat := of_decide_eq_true bounds.1
  have high : c.toNat ≤ 122 := of_decide_eq_true bounds.2
  refine ⟨c.toNat - 97, by omega, ?_⟩
  rw [Nat.add_sub_cancel' low, Char.ofNat_toNat]

theorem toLower_of_isUpper {c : Char} (h : c.isUpper = true) :
    c.toLower.isLower = true ∧ c.toLower.isUpper = false ∧ c.toLower.toUpper = c := by
  obtain ⟨n, bound, rfl⟩ := exists_of_isUpper h
  revert n
  decide

theorem toUpper_of_isLower {c : Char} (h : c.isLower = true) :
    c.toUpper.isUpper = true ∧ c.toUpper.isLower = false ∧ c.toUpper ≠ '_' ∧
      c.toUpper.toLower = c := by
  obtain ⟨n, bound, rfl⟩ := exists_of_isLower h
  revert n
  decide

theorem isUpper_of_mem_transportChars {cs : List Char} {c : Char} (h : c ∈ transportChars cs) :
    c.isUpper = false := by
  induction cs with
  | nil => cases h
  | cons d rest ih =>
    rw [transportChars] at h
    by_cases capital : d.isUpper = true
    · rw [if_pos capital, List.mem_cons, List.mem_cons] at h
      rcases h with rfl | rfl | later
      · rfl
      · exact (toLower_of_isUpper capital).2.1
      · exact ih later
    · rw [if_neg capital, List.mem_cons] at h
      rcases h with rfl | later
      · exact Bool.not_eq_true _ ▸ capital
      · exact ih later

theorem head_clientChars {c y : Char} {rest : List Char}
    (h : y ∈ (clientChars (c :: rest)).head?) : y = c ∨ y.isLower = false := by
  cases rest with
  | nil => exact .inl (by simpa [clientChars, eq_comm] using h)
  | cons d rest =>
    rw [clientChars] at h
    by_cases pair : c = '_' ∧ d.isLower = true
    · rw [if_pos pair, List.head?_cons, Option.mem_some_iff] at h
      exact .inr (h ▸ (toUpper_of_isLower pair.2).2.1)
    · rw [if_neg pair, List.head?_cons, Option.mem_some_iff] at h
      exact .inl h.symm

theorem isChain_clientChars (cs : List Char) : (clientChars cs).IsChain Apart := by
  induction cs using clientChars.induct with
  | case1 => exact .nil
  | case2 c => exact .singleton c
  | case3 c d rest pair ih =>
    rw [clientChars, if_pos pair]
    apply ih.cons
    intro y _ bad
    exact (toUpper_of_isLower pair.2).2.2.1 bad.1
  | case4 c d rest single ih =>
    rw [clientChars, if_neg single]
    apply ih.cons
    intro y first bad
    rcases head_clientChars first with rfl | small
    · exact single bad
    · rw [bad.2] at small
      cases small

/-- Capitals aside, a conversion to transport case keeps the first character. -/
theorem head_transportChars {c y : Char} {rest : List Char}
    (h : y ∈ (transportChars (c :: rest)).head?) : y = c ∨ y = '_' := by
  rw [transportChars] at h
  by_cases capital : c.isUpper = true
  · rw [if_pos capital] at h
    exact .inr (Option.mem_some_iff.mp h).symm
  · rw [if_neg capital] at h
    exact .inl (Option.mem_some_iff.mp h).symm

theorem clientChars_cons {c : Char} {cs : List Char} (apart : ∀ d ∈ cs.head?, Apart c d) :
    clientChars (c :: cs) = c :: clientChars cs := by
  cases cs with
  | nil => rfl
  | cons d rest => rw [clientChars, if_neg (apart d rfl)]

theorem clientChars_transportChars {cs : List Char} (h : cs.IsChain Apart) :
    clientChars (transportChars cs) = cs := by
  induction cs with
  | nil => rfl
  | cons c rest ih =>
    have back := ih h.tail
    rw [transportChars]
    by_cases capital : c.isUpper = true
    · have letter := toLower_of_isUpper capital
      rw [if_pos capital, clientChars, if_pos ⟨rfl, letter.1⟩, letter.2.2, back]
    · rw [if_neg capital, clientChars_cons, back]
      intro y first bad
      cases rest with
      | nil => cases first
      | cons d rest =>
        rcases head_transportChars first with rfl | rfl
        · exact h.rel bad
        · cases bad.2

theorem transportChars_clientChars {cs : List Char} (h : ∀ c ∈ cs, c.isUpper = false) :
    transportChars (clientChars cs) = cs := by
  induction cs using clientChars.induct with
  | case1 => rfl
  | case2 c => simp [clientChars, transportChars, h c List.mem_cons_self]
  | case3 c d rest pair ih =>
    have letter := toUpper_of_isLower pair.2
    have later := ih fun x there => h x (List.mem_cons_of_mem c (List.mem_cons_of_mem d there))
    rw [clientChars, if_pos pair, transportChars, if_pos letter.1, letter.2.2.2, later, pair.1]
  | case4 c d rest single ih =>
    have later := ih fun x there => h x (List.mem_cons_of_mem c there)
    rw [clientChars, if_neg single, transportChars, if_neg (by simp [h c List.mem_cons_self]), later]

theorem transportChars_eq_self {cs : List Char} (h : ∀ c ∈ cs, c.isUpper = false) :
    transportChars cs = cs := by
  induction cs with
  | nil => rfl
  | cons c rest ih =>
    rw [List.forall_mem_cons] at h
    rw [transportChars, if_neg (by simp [h.1]), ih h.2]

/-- A capital is smaller than the underscore that is written for it. -/
theorem not_transportChars_lt (cs : List Char) : ¬transportChars cs < cs := by
  induction cs with
  | nil => exact List.not_lt_nil _
  | cons c rest ih =>
    rw [transportChars]
    split
    · next capital =>
      have bounds : 'A'.val ≤ c.val ∧ c.val ≤ 'Z'.val := of_decide_eq_true capital
      have smaller : c < '_' := lt_of_le_of_lt (show c ≤ 'Z' from bounds.2) (by decide)
      rw [List.cons_lt_cons_iff, not_or]
      exact ⟨lt_asymm smaller, fun h => absurd h.1.symm (ne_of_lt smaller)⟩
    · rw [List.cons_lt_cons_iff, not_or]
      exact ⟨lt_irrefl c, fun h => ih h.2⟩

theorem clientChars_eq_self {cs : List Char} (h : cs.IsChain Apart) : clientChars cs = cs := by
  induction cs with
  | nil => rfl
  | cons c rest ih =>
    rw [clientChars_cons fun d first => h.rel_head? first, ih h.tail]

theorem toUpper_ne_underscore {c : Char} (h : c ≠ '_') : c.toUpper ≠ '_' := by
  by_cases small : c.isLower = true
  · exact (toUpper_of_isLower small).2.2.1
  · have same : c.toUpper = c := dif_neg fun letter =>
      small (Bool.and_eq_true_iff.mpr ⟨decide_eq_true letter.1, decide_eq_true letter.2⟩)
    rwa [same]

theorem countP_clientChars (cs : List Char) :
    (clientChars cs).countP (· ≠ '_') = cs.countP (· ≠ '_') := by
  induction cs using clientChars.induct with
  | case1 | case2 => rfl
  | case3 c d rest pair ih =>
    have raised : d.toUpper ≠ '_' := (toUpper_of_isLower pair.2).2.2.1
    have small : d ≠ '_' := by
      rintro rfl
      cases pair.2
    rw [clientChars, if_pos pair, pair.1]
    simpa [raised, small] using ih
  | case4 c d rest single ih =>
    rw [clientChars, if_neg single, List.countP_cons, ih, ← List.countP_cons]

theorem countP_pascalChars (start : Bool) (cs : List Char) :
    (pascalChars start cs).countP (· ≠ '_') = cs.countP (· ≠ '_') := by
  induction cs generalizing start with
  | nil => rfl
  | cons c rest ih =>
    rw [pascalChars]
    by_cases gap : c = '_'
    · rw [if_pos gap, ih]
      simp [gap]
    · have kept : (if start then c.toUpper else c) ≠ '_' := by
        cases start with
        | true => exact toUpper_ne_underscore gap
        | false => exact gap
      rw [if_neg gap, List.countP_cons, ih, List.countP_cons]
      simp [gap, kept]

/-- A name in client case is not its Pascal case with a suffix. -/
theorem toClient_ne_toPascal_append (name : String) {suffix : String}
    (letters : 0 < suffix.toList.countP (· ≠ '_')) : toClient name ≠ toPascal name ++ suffix := by
  intro same
  have count := congrArg (fun s : String => s.toList.countP (· ≠ '_')) same
  simp only [toClient, toPascal, String.toList_append, String.toList_ofList, List.countP_append,
    countP_clientChars, countP_pascalChars] at count
  omega

theorem isTransport_toTransport (key : String) : IsTransport (toTransport key) := by
  intro c there
  rw [toTransport, String.toList_ofList] at there
  exact isUpper_of_mem_transportChars there

theorem isClient_toClient (key : String) : IsClient (toClient key) := by
  rw [IsClient, toClient, String.toList_ofList]
  exact isChain_clientChars key.toList

theorem toTransport_eq_self {key : String} (h : IsTransport key) : toTransport key = key := by
  rw [toTransport, transportChars_eq_self h, String.ofList_toList]

theorem le_toTransport (key : String) : key ≤ toTransport key := by
  rw [← not_lt, String.lt_iff_toList_lt, toTransport, String.toList_ofList]
  exact not_transportChars_lt key.toList

theorem toClient_eq_self {key : String} (h : IsClient key) : toClient key = key := by
  rw [toClient, clientChars_eq_self h, String.ofList_toList]

/-- A key comes back from transport case when it is a client key, and only then. -/
theorem toClient_toTransport_iff {key : String} :
    toClient (toTransport key) = key ↔ IsClient key := by
  constructor
  · intro h
    exact h ▸ isClient_toClient _
  · intro h
    rw [toClient, toTransport, String.toList_ofList, clientChars_transportChars h,
      String.ofList_toList]

/-- A key comes back from client case when it is a transport key, and only then. -/
theorem toTransport_toClient_iff {key : String} :
    toTransport (toClient key) = key ↔ IsTransport key := by
  constructor
  · intro h
    exact h ▸ isTransport_toTransport _
  · intro h
    rw [toTransport, toClient, String.toList_ofList, transportChars_clientChars h,
      String.ofList_toList]

/-- Between client keys and transport keys the conversions are inverse to each other. -/
theorem invOn_toClient : Set.InvOn toClient toTransport {k | IsClient k} {k | IsTransport k} :=
  ⟨fun _ h => toClient_toTransport_iff.mpr h, fun _ h => toTransport_toClient_iff.mpr h⟩

theorem injOn_toTransport : Set.InjOn toTransport {k | IsClient k} := invOn_toClient.1.injOn

theorem injOn_toClient : Set.InjOn toClient {k | IsTransport k} := invOn_toClient.2.injOn

end CommandBridge.KeyCase
