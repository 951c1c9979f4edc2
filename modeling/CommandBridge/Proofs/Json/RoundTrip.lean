import CommandBridge.Proofs.Json.Canonical
import CommandBridge.Proofs.Json.Numbers

/-!
# Values read back

The compact text of a value is read as that value when its containers are not nested too deep and
its doubles are read from their own texts. Where a value stands inside a container its text is
read the same, for what follows it there cannot belong to it.
-/

set_option autoImplicit false

namespace CommandBridge.Json

theorem hexFour_control : ∀ n < 0x20,
    hexFour '0' '0' (hexDigit (n / 16)) (hexDigit n) = some n := by decide

theorem stringBody_plain {c : Char} (quote : c ≠ '"') (slash : c ≠ '\\') (printable : 0x20 ≤ c.toNat)
    (rest : List Char) :
    stringBody (c :: rest) = (stringBody rest).map fun r => (c :: r.1, r.2) := by
  rw [stringBody.eq_def]
  split
  all_goals simp_all

theorem stringBody_escapeChar (c : Char) (rest : List Char) :
    stringBody (escapeChar c ++ rest) = (stringBody rest).map fun r => (c :: r.1, r.2) := by
  rw [escapeChar]
  split_ifs with quote slash back tab feed form ret control
  · subst quote
    simp [stringBody, simpleEscape]
  · subst slash
    simp [stringBody, simpleEscape]
  · subst back
    simp [stringBody, simpleEscape]
  · subst tab
    simp [stringBody, simpleEscape]
  · subst feed
    simp [stringBody, simpleEscape]
  · subst form
    simp [stringBody, simpleEscape]
  · subst ret
    simp [stringBody, simpleEscape]
  · have low : c.toNat < 0xD800 := by omega
    simp [stringBody, hexFour_control c.toNat control, low, Char.ofNat_toNat]
  · exact stringBody_plain quote slash (by omega) rest

theorem stringBody_quoted (cs rest : List Char) :
    stringBody (cs.flatMap escapeChar ++ '"' :: rest) = some (cs, rest) := by
  induction cs with
  | nil => rw [List.flatMap_nil, List.nil_append, stringBody]
  | cons c cs ih => rw [List.flatMap_cons, List.append_assoc, stringBody_escapeChar, ih]; rfl

mutual
def depth : Json → Nat
  | array items => depthItems items + 1
  | object members => depthMembers members + 1
  | _ => 0

def depthItems : List Json → Nat
  | [] => 0
  | v :: rest => max (depth v) (depthItems rest)

def depthMembers : List (String × Json) → Nat
  | [] => 0
  | (_, v) :: rest => max (depth v) (depthMembers rest)
end

mutual
def Exact : Json → Prop
  | number (.float x) => ReadsBack x
  | array items => ExactItems items
  | object members => ExactMembers members
  | _ => True

def ExactItems : List Json → Prop
  | [] => True
  | v :: rest => Exact v ∧ ExactItems rest

def ExactMembers : List (String × Json) → Prop
  | [] => True
  | (_, v) :: rest => Exact v ∧ ExactMembers rest
end

theorem skipBlanks_cons {c : Char} (visible : isBlank c = false) (cs : List Char) :
    skipBlanks (c :: cs) = c :: cs := by
  rw [skipBlanks, List.dropWhile_cons, visible]
  rfl

theorem numeral_ne {c : Char} (numeral : c = '-' ∨ c.isDigit = true) : isBlank c = false ∧
    c ≠ '"' ∧ c ≠ '[' ∧ c ≠ ']' ∧ c ≠ '\x7b' ∧ c ≠ 'n' ∧ c ≠ 't' ∧ c ≠ 'f' := by
  have differs (other : Char) (no : ¬(other = '-' ∨ other.isDigit = true)) : c ≠ other :=
    fun same => no (same ▸ numeral)
  refine ⟨?_, differs _ (by decide), differs _ (by decide), differs _ (by decide), differs _ (by decide),
    differs _ (by decide), differs _ (by decide), differs _ (by decide)⟩
  simp [isBlank, differs ' ' (by decide), differs '\n' (by decide),
    differs '\t' (by decide), differs '\r' (by decide)]

theorem value_numeral {c : Char} (numeral : c = '-' ∨ c.isDigit = true) (fuel depth : Nat)
    (cs : List Char) : value (fuel + 1) depth (c :: cs) =
      (numberValue (c :: cs)).map fun r => (.number r.1, r.2) := by
  obtain ⟨visible, quote, bracket, -, brace, n, t, f⟩ := numeral_ne numeral
  rw [value, skipBlanks_cons visible]
  split <;> simp_all

/-- A text of a value begins with a character that is no blank and closes no array. -/
theorem text_head {v : Json} (doubles : v.Exact) :
    ∃ c more, text v = c :: more ∧ isBlank c = false ∧ c ≠ ']' := by
  cases v with
  | null => exact ⟨_, _, rfl, by decide, by decide⟩
  | bool b => cases b <;> exact ⟨_, _, rfl, by decide, by decide⟩
  | number n =>
    have read := numberValue_numberText (n := n) fun x same => by subst same; exact doubles
    obtain ⟨c, more, same, numeral⟩ := head_of_numberValue read
    obtain ⟨visible, -, -, bracket, -⟩ := numeral_ne numeral
    exact ⟨c, more, same, visible, bracket⟩
  | string s => exact ⟨_, _, rfl, by decide, by decide⟩
  | array items => cases items <;> exact ⟨_, _, rfl, by decide, by decide⟩
  | object members =>
    cases members with
    | nil => exact ⟨_, _, rfl, by decide, by decide⟩
    | cons m rest =>
      obtain ⟨k, v⟩ := m
      exact ⟨_, _, rfl, by decide, by decide⟩

theorem stops_itemsText (items : List Json) (rest : List Char) : Stops (itemsText items ++ rest) := by
  cases items with
  | nil => exact stops_cons (.inr (.inl rfl)) rest
  | cons v items => exact stops_cons (.inl rfl) _

theorem stops_membersText (members : List (String × Json)) (rest : List Char) :
    Stops (membersText members ++ rest) := by
  cases members with
  | nil => exact stops_cons (.inr (.inr rfl)) rest
  | cons m members =>
    obtain ⟨k, v⟩ := m
    exact stops_cons (.inl rfl) _

def Reads (v : Json) : Prop :=
  ∀ fuel depth rest, v.depth ≤ depth → (text v).length < fuel → Stops rest →
    value fuel depth (text v ++ rest) = some (v, rest)

theorem items_succ {v : Json} {fuel depth : Nat} {tail : List Char}
    (read : value fuel depth (text v ++ tail) = some (v, tail)) :
    items (fuel + 1) depth (text v ++ tail) =
      match skipBlanks tail with
      | ']' :: rest => some ([v], rest)
      | ',' :: rest => (items fuel depth rest).map fun r => (v :: r.1, r.2)
      | _ => none := by
  rw [items]
  generalize value fuel depth (text v ++ tail) = found at read ⊢
  subst read
  rfl

theorem items_text {v : Json} {more : List Json} (each : ∀ u ∈ v :: more, u.Reads)
    {fuel depth : Nat} (rest : List Char) (shallow : depthItems (v :: more) ≤ depth)
    (long : (text v ++ itemsText more).length < fuel) :
    items fuel depth (text v ++ (itemsText more ++ rest)) = some (v :: more, rest) := by
  induction more generalizing v fuel with
  | nil =>
    obtain ⟨fuel, rfl⟩ : ∃ less, fuel = less + 1 := ⟨fuel - 1, by omega⟩
    rw [List.length_append, itemsText, List.length_singleton] at long
    rw [depthItems] at shallow
    rw [items_succ (each v List.mem_cons_self fuel depth _ (by omega) (by omega)
      (stops_itemsText [] rest))]
    rfl
  | cons next more ih =>
    obtain ⟨fuel, rfl⟩ : ∃ less, fuel = less + 1 := ⟨fuel - 1, by omega⟩
    rw [List.length_append, itemsText, List.length_cons] at long
    rw [depthItems] at shallow
    have others : items fuel depth (text next ++ (itemsText more ++ rest)) =
        some (next :: more, rest) :=
      ih (fun u there => each u (List.mem_cons_of_mem v there)) (by omega) (by omega)
    rw [items_succ (each v List.mem_cons_self fuel depth _ (by omega) (by omega)
      (stops_itemsText (next :: more) rest)), itemsText, List.cons_append,
      skipBlanks_cons (by decide), List.append_assoc]
    simp only [others, Option.map_some]

theorem members_succ {k : String} {v : Json} {fuel depth : Nat} {tail : List Char}
    (read : value fuel depth (text v ++ tail) = some (v, tail)) :
    members (fuel + 1) depth (quote k ++ ':' :: (text v ++ tail)) =
      match skipBlanks tail with
      | '\x7d' :: rest => some ([(k, v)], rest)
      | ',' :: rest => (members fuel depth rest).map fun r => ((k, v) :: r.1, r.2)
      | _ => none := by
  have key : skipBlanks (quote k ++ ':' :: (text v ++ tail)) =
      '"' :: (k.toList.flatMap escapeChar ++ '"' :: ':' :: (text v ++ tail)) := by
    rw [quote, List.cons_append, skipBlanks_cons (by decide), List.append_assoc]
    rfl
  rw [members, key]
  simp only [stringBody_quoted, skipBlanks_cons (show isBlank ':' = false by decide),
    String.ofList_toList]
  generalize value fuel depth (text v ++ tail) = found at read ⊢
  subst read
  rfl

theorem members_text {k : String} {v : Json} {more : List (String × Json)}
    (each : ∀ m ∈ (k, v) :: more, m.2.Reads) {fuel depth : Nat} (rest : List Char)
    (shallow : depthMembers ((k, v) :: more) ≤ depth)
    (long : (quote k ++ ':' :: (text v ++ membersText more)).length < fuel) :
    members fuel depth (quote k ++ ':' :: (text v ++ (membersText more ++ rest))) =
      some ((k, v) :: more, rest) := by
  induction more generalizing k v fuel with
  | nil =>
    obtain ⟨fuel, rfl⟩ : ∃ less, fuel = less + 1 := ⟨fuel - 1, by omega⟩
    simp only [List.length_append, List.length_cons, membersText, List.length_nil] at long
    rw [depthMembers] at shallow
    have first : v.Reads := each (k, v) List.mem_cons_self
    rw [members_succ (first fuel depth _ (by omega) (by omega) (stops_membersText [] rest))]
    rfl
  | cons next more ih =>
    obtain ⟨k', v'⟩ := next
    obtain ⟨fuel, rfl⟩ : ∃ less, fuel = less + 1 := ⟨fuel - 1, by omega⟩
    rw [List.length_append, List.length_cons, List.length_append, membersText,
      List.length_cons] at long
    rw [depthMembers] at shallow
    have first : v.Reads := each (k, v) List.mem_cons_self
    have others : members fuel depth (quote k' ++ ':' :: (text v' ++ (membersText more ++ rest))) =
        some ((k', v') :: more, rest) :=
      ih (fun m there => each m (List.mem_cons_of_mem _ there)) (by omega) (by omega)
    rw [members_succ (first fuel depth _ (by omega) (by omega)
      (stops_membersText ((k', v') :: more) rest)), membersText, List.cons_append,
      skipBlanks_cons (by decide)]
    simp only [List.append_assoc, List.cons_append, others, Option.map_some]

theorem exactItems_iff {all : List Json} : ExactItems all ↔ ∀ v ∈ all, v.Exact := by
  induction all with
  | nil => exact ⟨fun _ => nofun, fun _ => trivial⟩
  | cons v rest ih => rw [ExactItems, ih, List.forall_mem_cons]

theorem exactMembers_iff {all : List (String × Json)} :
    ExactMembers all ↔ ∀ m ∈ all, m.2.Exact := by
  induction all with
  | nil => exact ⟨fun _ => nofun, fun _ => trivial⟩
  | cons m rest ih =>
    obtain ⟨k, v⟩ := m
    rw [ExactMembers, ih, List.forall_mem_cons]

/-- A value whose doubles are read from their own texts is read from its own text. -/
theorem reads_of_exact : ∀ {v : Json}, v.Exact → v.Reads
  | .null, _ => fun fuel depth rest _ long _ => by
    obtain ⟨fuel, rfl⟩ : ∃ less, fuel = less + 1 := ⟨fuel - 1, by omega⟩
    rfl
  | .bool b, _ => fun fuel depth rest _ long _ => by
    obtain ⟨fuel, rfl⟩ : ∃ less, fuel = less + 1 := ⟨fuel - 1, by omega⟩
    cases b <;> rfl
  | .number n, doubles => fun fuel depth rest _ long stops => by
    obtain ⟨fuel, rfl⟩ : ∃ less, fuel = less + 1 := ⟨fuel - 1, by omega⟩
    have read := numberValue_numberText (n := n) fun x same => by subst same; exact doubles
    obtain ⟨c, more, same, numeral⟩ := head_of_numberValue read
    rw [text, same, List.cons_append, value_numeral numeral, ← List.cons_append, ← same,
      numberValue_append stops, read]
    rfl
  | .string s, _ => fun fuel depth rest _ long _ => by
    obtain ⟨fuel, rfl⟩ : ∃ less, fuel = less + 1 := ⟨fuel - 1, by omega⟩
    rw [text, quote, List.cons_append, List.append_assoc, value, skipBlanks_cons (by decide)]
    simp [stringBody_quoted]
  | .array all, doubles => fun fuel depth rest shallow long _ => by
    have each : ∀ u ∈ all, u.Reads := fun u there => reads_of_exact (exactItems_iff.mp doubles u there)
    rw [Json.depth] at shallow
    obtain ⟨fuel, rfl⟩ : ∃ less, fuel = less + 1 := ⟨fuel - 1, by omega⟩
    obtain ⟨depth, rfl⟩ : ∃ less, depth = less + 1 := ⟨depth - 1, by omega⟩
    cases all with
    | nil => rfl
    | cons v more =>
      rw [text, List.length_cons] at long
      have inner : items fuel depth (text v ++ (itemsText more ++ rest)) = some (v :: more, rest) :=
        items_text each rest (by omega) (by omega)
      obtain ⟨c, tail, same, visible, bracket⟩ := text_head doubles.1
      have starts : skipBlanks (text v ++ (itemsText more ++ rest)) =
          text v ++ (itemsText more ++ rest) := by
        rw [same]
        exact skipBlanks_cons visible _
      rw [text, List.cons_append, value, skipBlanks_cons (by decide)]
      simp only [List.append_assoc, starts]
      split
      · next ends =>
        rw [same] at ends
        exact absurd (List.cons.inj ends).1 bracket
      · rw [inner]
        rfl
  | .object all, doubles => fun fuel depth rest shallow long _ => by
    have each : ∀ m ∈ all, m.2.Reads := fun m there => reads_of_exact (exactMembers_iff.mp doubles m there)
    rw [Json.depth] at shallow
    obtain ⟨fuel, rfl⟩ : ∃ less, fuel = less + 1 := ⟨fuel - 1, by omega⟩
    obtain ⟨depth, rfl⟩ : ∃ less, depth = less + 1 := ⟨depth - 1, by omega⟩
    cases all with
    | nil => rfl
    | cons m more =>
      obtain ⟨k, v⟩ := m
      rw [text, List.length_cons] at long
      have inner : members fuel depth (quote k ++ ':' :: (text v ++ (membersText more ++ rest))) =
          some ((k, v) :: more, rest) := members_text each rest (by omega) (by omega)
      have starts (tail : List Char) : skipBlanks (quote k ++ tail) = quote k ++ tail :=
        skipBlanks_cons (by decide) _
      rw [text, List.cons_append, value, skipBlanks_cons (by decide)]
      simp only [List.append_assoc, List.cons_append, starts]
      split
      · next ends => exact absurd (List.cons.inj ends).1 (by decide)
      · rw [inner]
        rfl
termination_by v => sizeOf v
decreasing_by
  · have := List.sizeOf_lt_of_mem there
    simp
    omega
  · have := List.sizeOf_lt_of_mem there
    have : sizeOf m = 1 + sizeOf m.1 + sizeOf m.2 := rfl
    simp
    omega

theorem readDeep_text {v : Json} (doubles : v.Exact) {n : Nat} (shallow : v.depth ≤ n) :
    readDeep n (text v) = some v := by
  have read := reads_of_exact doubles ((text v).length + 1) n [] shallow (Nat.lt_succ_self _)
    stops_nil
  rw [List.append_nil] at read
  rw [readDeep, read]
  rfl

/-- What a value needs to come back from its text: a parser would make it, it is not nested too
deep, and its doubles come back from theirs. -/
structure Faithful (v : Json) : Prop where
  canonical : v.Canonical
  shallow : v.depth ≤ maxDepth
  doubles : v.Exact

theorem parse_print {v : Json} (h : v.Faithful) : parse v.print = some v := by
  rw [parse, read, print, String.toList_ofList, readDeep_text h.doubles h.shallow, Option.map_some,
    canonical_eq_self h.canonical]

end CommandBridge.Json
