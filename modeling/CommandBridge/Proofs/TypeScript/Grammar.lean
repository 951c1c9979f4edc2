import CommandBridge.TypeScript.Expression
import Mathlib.Tactic.Common

/-!
# The grammar of type expressions

A type expression is one or more terms between bars, and a pair of brackets behind a term binds
tighter than a bar. The trees are those of this grammar and no others. A text is that of one tree
at most: a reader that looks at one character at a time gets back the tree of which it is the text.
-/

set_option autoImplicit false

namespace CommandBridge.TypeScript

def isMark (c : Char) : Bool := " |()[]<>,".toList.contains c

def IsWord (s : String) : Prop := s ≠ "" ∧ ∀ c ∈ s.toList, isMark c = false

-- Characters are finitely many, so the instance is named: a search may choose to try them all.
instance (s : String) : Decidable (IsWord s) :=
  @instDecidableAnd _ _ inferInstance (List.decidableBAll _ s.toList)

abbrev Word := {s : String // IsWord s}

mutual
inductive TypeExpr where
  | one (term : TypeTerm)
  | or (term : TypeTerm) (rest : TypeExpr)

inductive TypeTerm where
  | name (word : Word)
  | mapping (key : Word) (value : TypeExpr)
  | tuple (items : List TypeExpr)
  | group (inner : TypeExpr)
  | array (item : TypeTerm)
end

mutual
def TypeExpr.text : TypeExpr → String
  | .one term => term.text
  | .or term rest => term.text ++ " | " ++ rest.text

def TypeTerm.text : TypeTerm → String
  | .name word => word.val
  | .mapping key value => "Record<" ++ key.val ++ ", " ++ value.text ++ ">"
  | .tuple items => "[" ++ itemsText items ++ "]"
  | .group inner => "(" ++ inner.text ++ ")"
  | .array item => item.text ++ "[]"

def itemsText : List TypeExpr → String
  | [] => ""
  | e :: rest => e.text ++ moreText rest

def moreText : List TypeExpr → String
  | [] => ""
  | e :: rest => ", " ++ e.text ++ moreText rest
end

theorem itemsText_eq (items : List TypeExpr) :
    itemsText items = String.intercalate ", " (items.map TypeExpr.text) := by
  cases items with
  | nil => rfl
  | cons first rest =>
    induction rest generalizing first with
    | nil => simp [itemsText, moreText]
    | cons second rest ih =>
      rw [List.map_cons, List.map_cons, String.intercalate_cons_cons, ← List.map_cons, ← ih]
      simp [itemsText, moreText, String.append_assoc]

def readWord (cs : List Char) : Option (Word × List Char) :=
  let word := String.ofList (cs.takeWhile fun c => !isMark c)
  if h : IsWord word then some (⟨word, h⟩, cs.dropWhile fun c => !isMark c) else none

def readArrays : TypeTerm → List Char → TypeTerm × List Char
  | t, '[' :: ']' :: rest => readArrays (.array t) rest
  | t, rest => (t, rest)

mutual
def readExpr : Nat → List Char → Option (TypeExpr × List Char)
  | 0, _ => none
  | fuel + 1, cs =>
    match readTerm fuel cs with
    | some (t, ' ' :: '|' :: ' ' :: cs) => (readExpr fuel cs).map fun r => (.or t r.1, r.2)
    | some (t, cs) => some (.one t, cs)
    | none => none

def readTerm : Nat → List Char → Option (TypeTerm × List Char)
  | 0, _ => none
  | fuel + 1, cs =>
    match readWord cs with
    | some (word, '<' :: cs) =>
      if word.val = "Record" then
        match readWord cs with
        | some (key, ',' :: ' ' :: cs) =>
          match readExpr fuel cs with
          | some (value, '>' :: cs) => some (readArrays (.mapping key value) cs)
          | _ => none
        | _ => none
      else none
    | some (word, cs) => some (readArrays (.name word) cs)
    | none =>
      match cs with
      | '(' :: cs =>
        match readExpr fuel cs with
        | some (inner, ')' :: cs) => some (readArrays (.group inner) cs)
        | _ => none
      | '[' :: ']' :: cs => some (readArrays (.tuple []) cs)
      | '[' :: cs => (readItems fuel cs).map fun r => readArrays (.tuple r.1) r.2
      | _ => none

def readItems : Nat → List Char → Option (List TypeExpr × List Char)
  | 0, _ => none
  | fuel + 1, cs =>
    match readExpr fuel cs with
    | some (e, ']' :: cs) => some ([e], cs)
    | some (e, ',' :: ' ' :: cs) => (readItems fuel cs).map fun r => (e :: r.1, r.2)
    | _ => none
end

def Ends (rest : List Char) : Prop := ∀ c ∈ rest.head?, isMark c = true ∧ c ≠ '<'

def Closes (rest : List Char) : Prop := ∀ c ∈ rest.head?, c ∈ [')', ']', ',', '>']

theorem Closes.ends {rest : List Char} (h : Closes rest) : Ends rest := by
  intro c there
  have one : c = ')' ∨ c = ']' ∨ c = ',' ∨ c = '>' := by simpa using h c there
  rcases one with rfl | rfl | rfl | rfl <;> decide

theorem readWord_append (word : Word) {rest : List Char}
    (ends : ∀ c ∈ rest.head?, isMark c = true) :
    readWord (word.val.toList ++ rest) = some (word, rest) := by
  have inside : ∀ c ∈ word.val.toList, (!isMark c) = true := by simpa using word.property.2
  have behind : rest.takeWhile (fun c => !isMark c) = [] ∧
      rest.dropWhile (fun c => !isMark c) = rest := by
    cases rest with
    | nil => exact ⟨rfl, rfl⟩
    | cons c rest =>
      have mark : isMark c = true := ends c rfl
      simp [mark]
  simp [readWord, List.takeWhile_append_of_pos inside, List.dropWhile_append_of_pos inside,
    behind, word.property]

theorem readWord_mark {c : Char} (mark : isMark c = true) (cs : List Char) :
    readWord (c :: cs) = none := by
  have empty : ¬IsWord "" := by decide
  simp [readWord, mark, empty]

theorem readArrays_of_closes (t : TypeTerm) {rest : List Char} (closes : Closes rest) :
    readArrays t rest = (t, rest) := by
  unfold readArrays
  split
  · have := closes '[' rfl
    simp at this
  · rfl

theorem TypeTerm.head_text (t : TypeTerm) : ∃ c cs, t.text.toList = c :: cs ∧ c ≠ ']' := by
  cases t with
  | name word =>
    obtain ⟨nonempty, plain⟩ := word.property
    cases spelled : word.val.toList with
    | nil => exact absurd (String.toList_eq_nil_iff.mp spelled) nonempty
    | cons c cs =>
      refine ⟨c, cs, spelled, ?_⟩
      rintro rfl
      have plain := plain ']' (by simp [spelled])
      exact absurd plain (by decide)
  | array item =>
    obtain ⟨c, cs, spelled, other⟩ := item.head_text
    exact ⟨c, cs ++ "[]".toList, by rw [TypeTerm.text, String.toList_append, spelled]; rfl, other⟩
  | mapping | tuple | group => simp [TypeTerm.text]

theorem TypeExpr.head_text (e : TypeExpr) : ∃ c cs, e.text.toList = c :: cs ∧ c ≠ ']' := by
  cases e with
  | one term => exact term.head_text
  | or term more =>
    obtain ⟨c, cs, spelled, other⟩ := term.head_text
    refine ⟨c, cs ++ (" | ".toList ++ more.text.toList), ?_, other⟩
    rw [TypeExpr.text, String.toList_append, String.toList_append, spelled, List.append_assoc]
    rfl

mutual
theorem readExpr_text (e : TypeExpr) {fuel : Nat} (enough : sizeOf e ≤ fuel) {rest : List Char}
    (closes : Closes rest) : readExpr fuel (e.text.toList ++ rest) = some (e, rest) := by
  cases fuel with
  | zero => cases e <;> simp at enough
  | succ fuel =>
    cases e with
    | one term =>
      rw [TypeExpr.one.sizeOf_spec] at enough
      rw [readExpr, TypeExpr.text, readTerm_text term (by omega) closes.ends,
        readArrays_of_closes term closes]
      split
      · next same =>
        cases same
        have blank := closes ' ' rfl
        simp at blank
      · next same =>
        cases same
        rfl
      · next same => cases same
    | or term more =>
      rw [TypeExpr.or.sizeOf_spec] at enough
      have bar : Ends (" | ".toList ++ (more.text.toList ++ rest)) := by
        intro c there
        cases there
        decide
      have behind : readExpr fuel (more.text.toList ++ rest) = some (more, rest) :=
        readExpr_text more (by omega) closes
      rw [readExpr, TypeExpr.text, String.toList_append, String.toList_append, List.append_assoc,
        List.append_assoc, readTerm_text term (by omega) bar]
      simp [readArrays, behind]

theorem readTerm_text (t : TypeTerm) {fuel : Nat} (enough : sizeOf t ≤ fuel) {rest : List Char}
    (ends : Ends rest) : readTerm fuel (t.text.toList ++ rest) = some (readArrays t rest) := by
  cases fuel with
  | zero => cases t <;> simp at enough
  | succ fuel =>
    cases t with
    | name word =>
      have read : readWord (word.val.toList ++ rest) = some (word, rest) :=
        readWord_append word fun c there => (ends c there).1
      unfold readTerm
      rw [TypeTerm.text, read]
      split
      · next same =>
        cases same
        exact absurd rfl (ends '<' rfl).2
      · next same =>
        cases same
        rfl
      · next same => cases same
    | mapping key value =>
      rw [TypeTerm.mapping.sizeOf_spec] at enough
      have record : readWord ("Record".toList ++ '<' :: (key.val.toList ++
          ',' :: ' ' :: (value.text.toList ++ '>' :: rest))) = some (⟨"Record", by decide⟩, _) :=
        readWord_append ⟨"Record", by decide⟩ (by simp [isMark])
      have word : readWord (key.val.toList ++ ',' :: ' ' :: (value.text.toList ++ '>' :: rest)) =
          some (key, _) := readWord_append key (by simp [isMark])
      have inner : readExpr fuel (value.text.toList ++ '>' :: rest) = some (value, '>' :: rest) :=
        readExpr_text value (by omega) (by simp [Closes])
      have shown : (TypeTerm.mapping key value).text.toList ++ rest =
          "Record".toList ++ '<' :: (key.val.toList ++
            ',' :: ' ' :: (value.text.toList ++ '>' :: rest)) := by
        simp [TypeTerm.text]
      unfold readTerm
      rw [shown, record]
      simp [word, inner]
    | tuple items =>
      rw [TypeTerm.tuple.sizeOf_spec] at enough
      have unnamed (cs : List Char) : readWord ('[' :: cs) = none := readWord_mark (by decide) cs
      unfold readTerm
      cases items with
      | nil => simp [TypeTerm.text, itemsText, unnamed]
      | cons first items =>
        have read : readItems fuel ((itemsText (first :: items)).toList ++ ']' :: rest) =
            some (first :: items, rest) := readItems_text (first :: items) nofun (by omega) rest
        have shown : (TypeTerm.tuple (first :: items)).text.toList ++ rest =
            '[' :: ((itemsText (first :: items)).toList ++ ']' :: rest) := by simp [TypeTerm.text]
        obtain ⟨c, cs, spelled, other⟩ := first.head_text
        rw [itemsText, String.toList_append, spelled, List.cons_append, List.cons_append,
          List.append_assoc] at read shown
        rw [shown, unnamed]
        simp [other, read]
    | group inner =>
      rw [TypeTerm.group.sizeOf_spec] at enough
      have read : readExpr fuel (inner.text.toList ++ ')' :: rest) = some (inner, ')' :: rest) :=
        readExpr_text inner (by omega) (by simp [Closes])
      have shown : (TypeTerm.group inner).text.toList ++ rest =
          '(' :: (inner.text.toList ++ ')' :: rest) := by simp [TypeTerm.text]
      unfold readTerm
      rw [shown, readWord_mark (by decide)]
      simp [read]
    | array item =>
      rw [TypeTerm.array.sizeOf_spec] at enough
      have bracket : Ends ("[]".toList ++ rest) := by
        intro c there
        cases there
        decide
      rw [TypeTerm.text, String.toList_append, List.append_assoc,
        readTerm_text item (by omega) bracket]
      rfl

theorem readItems_text (items : List TypeExpr) (given : items ≠ []) {fuel : Nat}
    (enough : sizeOf items ≤ fuel) (rest : List Char) :
    readItems fuel ((itemsText items).toList ++ ']' :: rest) = some (items, rest) := by
  cases fuel with
  | zero => cases items <;> simp at enough
  | succ fuel =>
    match items with
    | [] => exact absurd rfl given
    | [first] =>
      simp only [List.cons.sizeOf_spec] at enough
      have read : readExpr fuel (first.text.toList ++ ']' :: rest) = some (first, ']' :: rest) :=
        readExpr_text first (by omega) (by simp [Closes])
      rw [readItems]
      simp [itemsText, moreText, read]
    | first :: second :: items =>
      rw [List.cons.sizeOf_spec] at enough
      have read : readExpr fuel (first.text.toList ++
          ',' :: ' ' :: ((itemsText (second :: items)).toList ++ ']' :: rest)) = some (first, _) :=
        readExpr_text first (by omega) (by simp [Closes])
      have behind : readItems fuel ((itemsText (second :: items)).toList ++ ']' :: rest) =
          some (second :: items, rest) := readItems_text (second :: items) nofun (by omega) rest
      have shown : (itemsText (first :: second :: items)).toList ++ ']' :: rest =
          first.text.toList ++
            ',' :: ' ' :: ((itemsText (second :: items)).toList ++ ']' :: rest) := by
        simp [itemsText, moreText]
      rw [readItems, shown, read]
      simp [behind]
end

theorem text_injective : Function.Injective TypeExpr.text := by
  intro e f same
  have closed : Closes [] := nofun
  have first := readExpr_text e (Nat.le_max_left (sizeOf e) (sizeOf f)) closed
  have second := readExpr_text f (Nat.le_max_right (sizeOf e) (sizeOf f)) closed
  rw [same, second] at first
  cases first
  rfl

end CommandBridge.TypeScript
