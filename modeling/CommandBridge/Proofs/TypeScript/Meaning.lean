import CommandBridge.Proofs.TypeScript.Expressible
import CommandBridge.Proofs.TypeScript.Grammar
import Mathlib.Data.Set.Insert

/-!
# What type expressions mean

An expression denotes a set of values once names and constructors are read. The expression that is
written for a type denotes what the type means by its structure. The writer decides on brackets,
on `null` and on copies by the text that it has so far; the text tells enough, because it is that of
one tree only.
-/

set_option autoImplicit false

universe u

namespace CommandBridge.TypeScript

open Descriptor Definitions

/-- How names and type constructors are read. -/
structure Reading (V : Type u) where
  named : String → Set V
  null : V
  booleans : Set V
  numbers : Set V
  strings : Set V
  array : Set V → Set V
  tuple : List (Set V) → Set V
  record : Set V → Set V → Set V

def builtins : List String := ["string", "number", "boolean", "null", "unknown", "never"]

variable {V : Type u} (R : Reading V)

def Reading.word (word : String) : Set V :=
  if word = "string" then R.strings
  else if word = "number" then R.numbers
  else if word = "boolean" then R.booleans
  else if word = "null" then {R.null}
  else if word = "unknown" then Set.univ
  else if word = "never" then ∅
  else R.named word

theorem Reading.word_of_not_builtin {name : String} (other : name ∉ builtins) :
    R.word name = R.named name := by
  simp only [builtins, List.mem_cons, List.not_mem_nil, or_false, not_or] at other
  simp [word, other]

mutual
def TypeExpr.values : TypeExpr → Set V
  | .one term => term.values
  | .or term rest => term.values ∪ rest.values

def TypeTerm.values : TypeTerm → Set V
  | .name word => R.word word.val
  | .mapping key value => R.record (R.word key.val) value.values
  | .tuple items => R.tuple (itemValues items)
  | .group inner => inner.values
  | .array item => R.array item.values

def itemValues : List TypeExpr → List (Set V)
  | [] => []
  | e :: rest => e.values :: itemValues rest
end

def keyMeaning : Descriptor → Set V
  | .primitive .integer | .primitive .float => R.numbers
  | _ => R.strings

def primitiveMeaning : Primitive → Set V
  | .string | .bytes => R.strings
  | .integer | .float => R.numbers
  | .boolean => R.booleans
  | .null => {R.null}
  | .unknown => Set.univ

mutual
/-- The values of a type by its structure. A stream has none. -/
def meaning : Descriptor → Set V
  | .primitive p => primitiveMeaning R p
  | .optional t => meaning t ∪ {R.null}
  | .sequence t => R.array (meaning t)
  | .mapping k v => R.record (keyMeaning R k) (meaning v)
  | .tuple ts => R.tuple (meanings ts)
  | .record name _ _ => R.named name
  | .enum shape => R.named shape.name
  | .union ts => {v | ∃ s ∈ meanings ts, v ∈ s}
  | .reference name => R.named name
  | .stream _ => ∅

def meanings : List Descriptor → List (Set V)
  | [] => []
  | t :: rest => meaning t :: meanings rest
end

namespace TypeExpr

def append : TypeExpr → TypeExpr → TypeExpr
  | .one term, f => .or term f
  | .or term rest, f => .or term (rest.append f)

def join (e : TypeExpr) : List TypeExpr → TypeExpr
  | [] => e
  | f :: rest => e.append (f.join rest)

def last : TypeExpr → TypeTerm
  | .one term => term
  | .or _ rest => rest.last

theorem text_append : ∀ e f : TypeExpr, (e.append f).text = e.text ++ " | " ++ f.text
  | .one _, _ => rfl
  | .or term rest, f => by
    rw [append, text, text_append rest f, text]
    simp only [String.append_assoc]

theorem values_append : ∀ e f : TypeExpr, (e.append f).values R = e.values R ∪ f.values R
  | .one _, _ => rfl
  | .or term rest, f => by
    rw [append, values, values_append rest f, values, Set.union_assoc]

theorem text_join (e : TypeExpr) (rest : List TypeExpr) :
    (e.join rest).text = String.intercalate " | " ((e :: rest).map text) := by
  induction rest generalizing e with
  | nil => simp [join]
  | cons f rest ih =>
    rw [join, text_append, ih, List.map_cons, List.map_cons, List.map_cons,
      String.intercalate_cons_cons]

theorem mem_values_join (e : TypeExpr) (rest : List TypeExpr) (v : V) :
    v ∈ (e.join rest).values R ↔ ∃ f ∈ e :: rest, v ∈ f.values R := by
  induction rest generalizing e with
  | nil => simp [join]
  | cons f rest ih =>
    rw [join, values_append, Set.mem_union, ih]
    simp

theorem values_last_subset : ∀ e : TypeExpr, e.last.values R ⊆ e.values R
  | .one _ => subset_rfl
  | .or _ rest => (values_last_subset rest).trans Set.subset_union_right

theorem exists_text_last : ∀ e : TypeExpr, ∃ front, e.text.toList = front ++ e.last.text.toList ∧
    ∀ c ∈ front.getLast?, c = ' '
  | .one term => ⟨[], rfl, nofun⟩
  | .or term rest => by
    obtain ⟨front, shown, blank⟩ := exists_text_last rest
    refine ⟨term.text.toList ++ " | ".toList ++ front, ?_, ?_⟩
    · rw [text, String.toList_append, String.toList_append, shown, last]
      simp only [List.append_assoc]
    · intro c there
      rw [List.getLast?_append, Option.mem_def, Option.or_eq_some_iff] at there
      rcases there with inner | ⟨-, bar⟩
      · exact blank c inner
      · simpa [eq_comm] using bar

end TypeExpr

/-- Texts without copies are those of the expressions without copies. -/
theorem exists_distinct (es : List TypeExpr) : ∃ ds : List TypeExpr,
    ds.map TypeExpr.text = distinct (es.map TypeExpr.text) ∧ ∀ e, e ∈ ds ↔ e ∈ es := by
  induction es with
  | nil => exact ⟨[], rfl, fun _ => .rfl⟩
  | cons e rest ih =>
    obtain ⟨ds, texts, same⟩ := ih
    refine ⟨e :: ds.filter fun f => decide (f.text ≠ e.text), ?_, fun f => ?_⟩
    · rw [List.map_cons, List.map_cons, distinct, ← texts, List.filter_map]
      rfl
    · rw [List.mem_cons, List.mem_cons, List.mem_filter, same, decide_eq_true_eq,
        text_injective.ne_iff]
      by_cases first : f = e <;> simp [first]

theorem TypeTerm.getLast_text (t : TypeTerm) :
    (∃ word, t = .name word) ∨ ∃ c ∈ t.text.toList.getLast?, c ∈ ['>', ']', ')'] := by
  cases t with
  | name word => exact .inl ⟨word, rfl⟩
  | mapping | tuple | group | array =>
    right
    rw [TypeTerm.text, String.toList_append, List.getLast?_append]
    exact ⟨_, rfl, by decide⟩

theorem eq_of_append_eq {front behind word other : List Char}
    (blank : ∀ c ∈ front.getLast?, c = ' ') (plain : ' ' ∉ word)
    (blank' : ∀ c ∈ behind.getLast?, c = ' ') (plain' : ' ' ∉ other)
    (same : front ++ word = behind ++ other) : word = other := by
  have read {front word : List Char} (blank : ∀ c ∈ front.getLast?, c = ' ') (plain : ' ' ∉ word) :
      (front ++ word).reverse.takeWhile (fun c => decide (c ≠ ' ')) = word.reverse := by
    have inside : ∀ c ∈ word.reverse, decide (c ≠ ' ') = true := by
      intro c there
      rw [decide_eq_true_eq]
      rintro rfl
      exact plain (List.mem_reverse.mp there)
    rw [List.reverse_append, List.takeWhile_append_of_pos inside]
    rw [List.getLast?_eq_head?_reverse] at blank
    cases spelled : front.reverse with
    | nil => simp
    | cons c cs =>
      have space : c = ' ' := blank c (by simp [spelled])
      simp [space]
  have first := read blank plain
  rw [same, read blank' plain', List.reverse_inj] at first
  exact first.symm

/-- An expression whose text ends in `null` behind a bar has the value. -/
theorem null_mem_values {e : TypeExpr} (h : " | null".toList <:+ e.text.toList) :
    R.null ∈ e.values R := by
  obtain ⟨before, ends⟩ := h
  obtain ⟨front, shown, blank⟩ := e.exists_text_last
  apply e.values_last_subset R
  rcases e.last.getLast_text with ⟨word, last⟩ | ⟨c, there, bracket⟩
  · rw [last] at shown ⊢
    have plain : ' ' ∉ word.val.toList := fun there =>
      absurd (word.property.2 ' ' there) (by decide)
    have same : front ++ word.val.toList = (before ++ " | ".toList) ++ "null".toList := by
      rw [← TypeTerm.text, ← shown, ← ends, List.append_assoc]
      rfl
    have null := eq_of_append_eq blank plain (by simp [eq_comm]) (by decide) same
    rw [TypeTerm.values, String.toList_inj.mp null]
    exact Set.mem_singleton R.null
  · have ended := congrArg List.getLast? (ends.trans shown)
    rw [List.getLast?_append, List.getLast?_append, Option.mem_def.mp there] at ended
    cases ended
    exact absurd bracket (by decide)

theorem holds_append (part front behind : List Char) :
    holds part (front ++ (part ++ behind)) = true := by
  induction front with
  | nil =>
    cases spelled : part ++ behind with
    | nil => simp [holds, (List.append_eq_nil_iff.mp spelled).1]
    | cons c cs =>
      have first : part <+: c :: cs := ⟨behind, spelled⟩
      simp [holds, List.isPrefixOf_iff_prefix.mpr first]
  | cons c rest ih => simp [holds, ih]

theorem eq_one_of_not_holds {e : TypeExpr} (h : ¬holds " | ".toList e.text.toList = true) :
    ∃ term, e = .one term := by
  cases e with
  | one term => exact ⟨term, rfl⟩
  | or term rest =>
    rw [TypeExpr.text, String.toList_append, String.toList_append, List.append_assoc] at h
    exact absurd (holds_append _ _ _) h

def Written (text : String) (t : Descriptor) : Prop :=
  ∃ e : TypeExpr, e.text = text ∧ ∀ (V : Type u) (R : Reading V), e.values R = meaning R t

variable {text : String} {t : Descriptor}

theorem written_name {name : String} (word : IsWord name)
    (same : ∀ (V : Type u) (R : Reading V), R.word name = meaning R t) : Written.{u} name t :=
  ⟨.one (.name ⟨name, word⟩), rfl, same⟩

theorem written_primitive (p : Primitive) : Written.{u} (primitive p) (.primitive p) := by
  cases p <;> exact written_name (by decide) fun V R => rfl

namespace Written

/-- No second `null` is missed: an expression that is not followed by one has the value already. -/
theorem optional (h : Written.{u} text t) : Written.{u} (nullable text) (.optional t) := by
  obtain ⟨e, rfl, same⟩ := h
  have null : IsWord "null" := by decide
  unfold nullable
  split
  · next given =>
    refine ⟨e, rfl, fun V R => ?_⟩
    rw [meaning, ← same, eq_comm, Set.union_eq_left, Set.singleton_subset_iff]
    rcases given with alone | behind | unknown
    · have whole : e = .one (.name ⟨"null", null⟩) := text_injective alone
      rw [whole]
      exact Set.mem_singleton R.null
    · exact null_mem_values R (List.isSuffixOf_iff_suffix.mp behind)
    · have whole : e = .one (.name ⟨"unknown", by decide⟩) := text_injective unknown
      rw [whole]
      exact Set.mem_univ R.null
  · refine ⟨e.append (.one (.name ⟨"null", null⟩)), ?_, fun V R => ?_⟩
    · rw [TypeExpr.text_append, String.append_assoc]
      rfl
    · rw [TypeExpr.values_append, meaning, ← same]
      rfl

theorem sequence (h : Written.{u} text t) : Written.{u} (arrayOf text) (.sequence t) := by
  obtain ⟨e, rfl, same⟩ := h
  unfold arrayOf
  split
  · refine ⟨.one (.array (.group e)), ?_, fun V R => ?_⟩
    · rw [TypeExpr.text, TypeTerm.text, TypeTerm.text, String.append_assoc]
      rfl
    · rw [meaning, ← same]
      rfl
  · next single =>
    obtain ⟨term, rfl⟩ := eq_one_of_not_holds single
    refine ⟨.one (.array term), rfl, fun V R => ?_⟩
    rw [meaning, ← same]
    rfl

theorem mapping (k : Descriptor) (h : Written.{u} text t) :
    Written.{u} ("Record<" ++ keyType k ++ ", " ++ text ++ ">") (.mapping k t) := by
  obtain ⟨e, rfl, same⟩ := h
  have word : IsWord (keyType k) := by unfold keyType; split <;> decide
  refine ⟨.one (.mapping ⟨keyType k, word⟩ e), rfl, fun V R => ?_⟩
  have key : R.word (keyType k) = keyMeaning R k := by
    cases k with
    | primitive p => cases p <;> rfl
    | _ => rfl
  rw [meaning, ← same, ← key]
  rfl

end Written

theorem itemValues_eq (items : List TypeExpr) :
    itemValues R items = items.map (TypeExpr.values R) := by
  induction items with
  | nil => rfl
  | cons e rest ih => rw [itemValues, ih, List.map_cons]

/-- Texts of several types are those of as many expressions. -/
theorem exists_expressions {texts : List String} {ts : List Descriptor}
    (h : List.Forall₂ Written.{u} texts ts) : ∃ es : List TypeExpr, es.map TypeExpr.text = texts ∧
      ∀ (V : Type u) (R : Reading V), itemValues R es = meanings R ts := by
  induction h with
  | nil => exact ⟨[], rfl, fun V R => rfl⟩
  | cons first _ ih =>
    obtain ⟨e, rfl, same⟩ := first
    obtain ⟨es, rfl, others⟩ := ih
    refine ⟨e :: es, rfl, fun V R => ?_⟩
    rw [itemValues, meanings, same, others]

theorem written_tuple {texts : List String} {ts : List Descriptor}
    (h : List.Forall₂ Written.{u} texts ts) :
    Written.{u} ("[" ++ String.intercalate ", " texts ++ "]") (.tuple ts) := by
  obtain ⟨es, rfl, same⟩ := exists_expressions h
  refine ⟨.one (.tuple es), ?_, fun V R => ?_⟩
  · rw [TypeExpr.text, TypeTerm.text, itemsText_eq]
  · rw [meaning, ← same]
    rfl

/-- Members that are written alike mean the same, so only the first of them is needed. -/
theorem written_union {texts : List String} {ts : List Descriptor}
    (h : List.Forall₂ Written.{u} texts ts) : Written.{u} (unionOf texts) (.union ts) := by
  obtain ⟨es, rfl, same⟩ := exists_expressions h
  have means (V : Type u) (R : Reading V) :
      meaning R (.union ts) = {v | ∃ e ∈ es, v ∈ e.values R} := by
    rw [meaning, ← same, itemValues_eq]
    simp
  unfold unionOf
  split
  · next empty =>
    have none : es = [] := by simpa using empty
    refine written_name (by decide) fun V R => ?_
    rw [means, none]
    simp [Reading.word]
  · next given =>
    obtain ⟨ds, texts, members⟩ := exists_distinct es
    cases ds with
    | nil =>
      have none : es = [] := List.eq_nil_iff_forall_not_mem.mpr fun e there =>
        List.not_mem_nil ((members e).mpr there)
      exact absurd (by simp [none]) given
    | cons d rest =>
      refine ⟨d.join rest, ?_, fun V R => ?_⟩
      · rw [TypeExpr.text_join, texts]
      · ext v
        rw [TypeExpr.mem_values_join, means, Set.mem_ofPred_eq]
        simp only [members]

variable {table : Definitions} {owner : Owner}

theorem itemExpressions_written {ts : List Descriptor} {path : String} {index : Nat}
    (each : ∀ t ∈ ts, ∀ path, ∃ text, expression table owner path t = .ok text ∧
      Written.{u} text t) : ∃ texts, itemExpressions table owner path index ts = .ok texts ∧
        List.Forall₂ Written.{u} texts ts := by
  induction ts generalizing index with
  | nil => exact ⟨[], rfl, .nil⟩
  | cons t rest ih =>
    rw [List.forall_mem_cons] at each
    obtain ⟨text, first, means⟩ := each.1 (path ++ "[" ++ toString index ++ "]")
    obtain ⟨texts, others, behind⟩ := ih each.2
    refine ⟨text :: texts, ?_, .cons means behind⟩
    rw [itemExpressions, first, others]
    rfl

theorem memberExpressions_written {ts : List Descriptor} {path : String}
    (each : ∀ t ∈ ts, ∃ text, expression table owner path t = .ok text ∧ Written.{u} text t) :
    ∃ texts, memberExpressions table owner path ts = .ok texts ∧
      List.Forall₂ Written.{u} texts ts := by
  induction ts with
  | nil => exact ⟨[], rfl, .nil⟩
  | cons t rest ih =>
    rw [List.forall_mem_cons] at each
    obtain ⟨text, first, means⟩ := each.1
    obtain ⟨texts, others, behind⟩ := ih each.2
    refine ⟨text :: texts, ?_, .cons means behind⟩
    rw [memberExpressions, first, others]
    rfl

/-- A type without streams whose references resolve, and whose names are words of their own, is
written as an expression that means what the type does. -/
theorem expression_written : ∀ path, t.Streamless → table.Resolves t →
    (∀ name, t.Names children name → IsWord name ∧ name ∉ builtins) →
    ∃ text, expression table owner path t = .ok text ∧ Written.{u} text t := by
  induction t using child_induction with
  | step t ih =>
    intro path streamless resolves names
    have part {c : Descriptor} (hc : c ∈ t.children) (path : String) :
        ∃ text, expression table owner path c = .ok text ∧ Written.{u} text c :=
      ih c hc path ((streamless_iff.mp streamless).2 c hc) ((resolves_iff.mp resolves).2 c hc)
        fun name named => names name (names_iff.mpr (.inr ⟨c, hc, named⟩))
    have own {name : String} (named : t.typeName? = some name)
        (means : ∀ (V : Type u) (R : Reading V), meaning R t = R.named name) :
        Written.{u} name t := by
      obtain ⟨word, other⟩ := names name (names_iff.mpr (.inl named))
      refine written_name word fun V R => ?_
      rw [R.word_of_not_builtin other, means]
    cases t with
    | primitive p => exact ⟨_, rfl, written_primitive p⟩
    | optional t =>
      obtain ⟨text, written, means⟩ := part List.mem_cons_self path
      exact ⟨_, by rw [expression, written]; rfl, means.optional⟩
    | sequence t =>
      obtain ⟨text, written, means⟩ := part List.mem_cons_self (path ++ "[]")
      exact ⟨_, by rw [expression, written]; rfl, means.sequence⟩
    | mapping k v =>
      obtain ⟨text, written, means⟩ := part (c := v) (by simp [children]) (path ++ "\x7b\x7d")
      exact ⟨_, by rw [expression, written]; rfl, means.mapping k⟩
    | tuple ts =>
      have each : ∀ u ∈ ts, ∀ path, ∃ text, expression table owner path u = .ok text ∧
          Written.{u} text u := fun _ there path => part there path
      obtain ⟨texts, written, means⟩ := itemExpressions_written each
      exact ⟨_, by rw [expression, written]; rfl, written_tuple means⟩
    | union ts =>
      have each : ∀ u ∈ ts, ∃ text, expression table owner path u = .ok text ∧
          Written.{u} text u := fun _ there => part there path
      obtain ⟨texts, written, means⟩ := memberExpressions_written each
      exact ⟨_, by rw [expression, written]; rfl, written_union means⟩
    | record name => exact ⟨name, rfl, own rfl fun V R => rfl⟩
    | enum shape => exact ⟨shape.name, rfl, own rfl fun V R => rfl⟩
    | reference name =>
      have defined := (resolves_iff.mp resolves).1 name rfl
      exact ⟨name, by rw [expression, if_pos defined], own rfl fun V R => rfl⟩
    | stream t => exact absurd rfl ((streamless_iff.mp streamless).1 t)

/-- A type without streams whose references resolve, and whose names are words that are not the
language's own, is written. The text is that of one expression, which means what the type does by
its structure, however names and constructors are read. -/
theorem expression_has_meaning (streamless : t.Streamless) (resolves : table.Resolves t)
    (names : ∀ name, t.Names children name → IsWord name ∧ name ∉ builtins) (owner : Owner)
    (path : String) : ∃ text e, expression table owner path t = .ok text ∧
      (∀ other : TypeExpr, other.text = text ↔ other = e) ∧
        ∀ (V : Type u) (R : Reading V), e.values R = meaning R t := by
  obtain ⟨_, written, e, rfl, means⟩ := expression_written path streamless resolves names
  exact ⟨e.text, e, written, fun other => text_injective.eq_iff, means⟩

theorem isWord_of_isIdentifier {name : String} (h : isIdentifier name = true) : IsWord name := by
  have none : " |()[]<>,".toList.all (fun c => !(isIdentStart c || isIdentPart c)) = true := by
    decide
  have plain {c : Char} (part : (isIdentStart c || isIdentPart c) = true) : isMark c = false := by
    rw [isMark, ← Bool.not_eq_true, List.contains_iff_mem]
    intro listed
    have other := List.all_eq_true.mp none c listed
    rw [part] at other
    cases other
  unfold isIdentifier at h
  split at h
  · cases h
  · next c rest spelled =>
    rw [Bool.and_eq_true, List.all_eq_true] at h
    constructor
    · rintro rfl
      cases spelled
    · rw [spelled, List.forall_mem_cons]
      exact ⟨plain (Bool.or_inl h.1), fun d there => plain (Bool.or_inr (h.2 d there))⟩

def mixed : Descriptor := .sequence (.optional (.union [.string, .reference "User", .string]))

def users : Definitions := ⟨[("User", ⟨.record ⟨"User", none, []⟩, .model none⟩)]⟩

theorem mixed_names {name : String} (h : mixed.Names children name) : name = "User" := by
  obtain ⟨u, inner, typed⟩ := h
  rcases within_iff.mp inner with rfl | ⟨_, part, inner⟩
  · cases typed
  cases List.mem_singleton.mp part
  rcases within_iff.mp inner with rfl | ⟨_, part, inner⟩
  · cases typed
  cases List.mem_singleton.mp part
  rcases within_iff.mp inner with rfl | ⟨c, part, inner⟩
  · cases typed
  have leaf : c.children = [] := by
    simp only [children, List.mem_cons, List.not_mem_nil, or_false] at part
    rcases part with rfl | rfl | rfl <;> rfl
  rcases within_iff.mp inner with rfl | ⟨_, none, _⟩
  · simp only [children, List.mem_cons, List.not_mem_nil, or_false] at part
    rcases part with rfl | rfl | rfl <;> cases typed
    rfl
  · rw [leaf] at none
    cases none

theorem mixed_has_meaning : mixed.Streamless ∧ users.Resolves mixed ∧
    (∀ name, mixed.Names children name → IsWord name ∧ name ∉ builtins) ∧
      ∃ e : TypeExpr, expression users (.record "Team") "members" mixed = .ok e.text ∧
        e.text = "(string | User | null)[]" ∧
          ∀ (V : Type u) (R : Reading V), e.values R = meaning R mixed := by
  have streamless : mixed.Streamless := (streamPath?_eq_none "").mp rfl
  have resolves : users.Resolves mixed := Definitions.unresolved?_eq_none.mp rfl
  have names : ∀ name, mixed.Names children name → IsWord name ∧ name ∉ builtins := by
    intro name named
    rw [mixed_names named]
    exact ⟨isWord_of_isIdentifier rfl, by decide⟩
  refine ⟨streamless, resolves, names, ?_⟩
  obtain ⟨text, e, written, one, means⟩ :=
    expression_has_meaning.{u} streamless resolves names (.record "Team") "members"
  obtain rfl := (one e).mpr rfl
  have shown : expression users (.record "Team") "members" mixed =
    .ok "(string | User | null)[]" := by rfl
  exact ⟨e, written, Except.ok.inj (written.symm.trans shown), means⟩

end CommandBridge.TypeScript
