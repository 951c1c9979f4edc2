import CommandBridge.Keyed
import Mathlib.Data.List.Forall2

/-!
# Related data

What is made in the same way of related parts is related. A function that sees no difference
between related elements gives the same result on related lists.
-/

set_option autoImplicit false

open scoped Relator

namespace Option.Rel

variable {α α' β β' : Type} {R : α → α' → Prop} {S : β → β' → Prop}

theorem map {f : α → β} {f' : α' → β'} (step : (R ⇒ S) f f') {o : Option α} {o' : Option α'}
    (h : Option.Rel R o o') : Option.Rel S (o.map f) (o'.map f') := by
  cases h with
  | none => exact .none
  | some related => exact .some (step related)

theorem bind {f : α → Option β} {f' : α' → Option β'} (step : (R ⇒ Option.Rel S) f f')
    {o : Option α} {o' : Option α'} (h : Option.Rel R o o') :
    Option.Rel S (o.bind f) (o'.bind f') := by
  cases h with
  | none => exact .none
  | some related => exact step related

theorem isSome_eq {o : Option α} {o' : Option α'} (h : Option.Rel R o o') :
    o.isSome = o'.isSome := by
  cases h <;> rfl

theorem isNone_eq {o : Option α} {o' : Option α'} (h : Option.Rel R o o') :
    o.isNone = o'.isNone := by
  cases h <;> rfl

theorem getD {o : Option α} {o' : Option α'} (h : Option.Rel R o o') {x : α} {x' : α'}
    (default : R x x') : R (o.getD x) (o'.getD x') := by
  cases h with
  | none => exact default
  | some related => exact related

end Option.Rel

namespace List.Forall₂

variable {α α' : Type} {R : α → α' → Prop} {xs : List α} {ys : List α'} {x : α} {y : α'}

theorem getElem? (h : Forall₂ R xs ys) (i : Nat) : Option.Rel R xs[i]? ys[i]? := by
  induction h generalizing i with
  | nil => exact .none
  | cons first _ ih =>
    cases i with
    | zero => exact .some first
    | succ i => exact ih i

theorem set (h : Forall₂ R xs ys) (i : Nat) (at' : R x y) : Forall₂ R (xs.set i x) (ys.set i y) := by
  induction h generalizing i with
  | nil => exact .nil
  | cons first rest ih =>
    cases i with
    | zero => exact .cons at' rest
    | succ i => exact .cons first (ih i)

theorem concat (h : Forall₂ R xs ys) (last : R x y) : Forall₂ R (xs ++ [x]) (ys ++ [y]) :=
  List.rel_append h (.cons last .nil)

theorem all_isNone_eq {os : List (Option α)} {os' : List (Option α')}
    (h : Forall₂ (Option.Rel R) os os') : os.all Option.isNone = os'.all Option.isNone := by
  induction h with
  | nil => rfl
  | cons first _ ih => rw [List.all_cons, List.all_cons, first.isNone_eq, ih]

end List.Forall₂

namespace List.Forall₂

variable {α α' β ε : Type} {R : α → α' → Prop} {xs : List α} {ys : List α'}

theorem map_eq {f : α → β} {g : α' → β} (h : Forall₂ R xs ys) (same : ∀ x y, R x y → f x = g y) :
    xs.map f = ys.map g := by
  induction h with
  | nil => rfl
  | cons first _ ih => rw [List.map_cons, List.map_cons, same _ _ first, ih]

theorem mapM_eq {f : α → Except ε β} {g : α' → Except ε β} (h : Forall₂ R xs ys)
    (same : ∀ x y, R x y → f x = g y) : xs.mapM f = ys.mapM g := by
  induction h with
  | nil => rfl
  | cons first _ ih => rw [List.mapM_cons, List.mapM_cons, same _ _ first, ih]

theorem forM_eq {f : α → Except ε PUnit} {g : α' → Except ε PUnit} (h : Forall₂ R xs ys)
    (same : ∀ x y, R x y → f x = g y) : xs.forM f = ys.forM g := by
  induction h with
  | nil => rfl
  | cons first _ ih =>
    change (f _ >>= fun _ => List.forM _ f) = (g _ >>= fun _ => List.forM _ g)
    rw [same _ _ first, ih]

theorem foldlM_eq {f : β → α → Except ε β} {g : β → α' → Except ε β} (h : Forall₂ R xs ys)
    (same : ∀ b x y, R x y → f b x = g b y) (b : β) : xs.foldlM f b = ys.foldlM g b := by
  induction h generalizing b with
  | nil => rfl
  | cons first _ ih =>
    rw [List.foldlM_cons, List.foldlM_cons, same b _ _ first]
    exact bind_congr ih

theorem eq_of_mem {R : α → α → Prop} {xs ys : List α} (h : Forall₂ R xs ys)
    (same : ∀ x ∈ xs, ∀ y, R x y → x = y) : xs = ys := by
  induction h with
  | nil => rfl
  | cons first _ ih =>
    rw [same _ List.mem_cons_self _ first, ih fun x hx => same x (List.mem_cons_of_mem _ hx)]

end List.Forall₂

namespace CommandBridge

def Both {α α' β β' : Type} (R : α → α' → Prop) (S : β → β' → Prop) (p : α × β)
    (q : α' × β') : Prop :=
  R p.1 q.1 ∧ S p.2 q.2

inductive Except.Rel {ε α α' : Type} (R : α → α' → Prop) : Except ε α → Except ε α' → Prop where
  | error (e : ε) : Rel R (.error e) (.error e)
  | ok {x : α} {x' : α'} (result : R x x') : Rel R (.ok x) (.ok x')

theorem Except.Rel.map {ε α α' β β' : Type} {R : α → α' → Prop} {S : β → β' → Prop} {f : α → β}
    {f' : α' → β'} (step : (R ⇒ S) f f') {x : Except ε α} {x' : Except ε α'}
    (h : Except.Rel R x x') : Except.Rel S (x.map f) (x'.map f') := by
  cases h with
  | error e => exact .error e
  | ok related => exact .ok (step related)

theorem Except.Rel.getD {ε α α' : Type} {R : α → α' → Prop} {x : Except ε α} {x' : Except ε α'}
    (h : Except.Rel R x x') {d : α} {d' : α'} (before : R d d') :
    R (x.toOption.getD d) (x'.toOption.getD d') := by
  cases h with
  | error e => exact before
  | ok related => exact related

theorem ite_related {α α' : Type} {R : α → α' → Prop} {p p' : Prop} [Decidable p] [Decidable p']
    {x y : α} {x' y' : α'} (same : p ↔ p') (yes : R x x') (no : R y y') :
    R (if p then x else y) (if p' then x' else y') := by
  by_cases h : p
  · rw [if_pos h, if_pos (same.mp h)]
    exact yes
  · rw [if_neg h, if_neg (mt same.mpr h)]
    exact no

namespace Keyed

variable {α α' : Type} {R : α → α' → Prop} {xs : List (String × α)} {ys : List (String × α')}

theorem lookup_related (h : List.Forall₂ (Both Eq R) xs ys) (key : String) :
    Option.Rel R (lookup key xs) (lookup key ys) := by
  induction h with
  | nil => exact .none
  | cons first _ ih => exact ite_related (by rw [first.1]) (.some first.2) ih

theorem insert_related (h : List.Forall₂ (Both Eq R) xs ys) {k : String} {v : α} {v' : α'}
    (values : R v v') : List.Forall₂ (Both Eq R) (insert k v xs) (insert k v' ys) := by
  have entry : Both Eq R (k, v) (k, v') := ⟨rfl, values⟩
  induction h with
  | nil => exact .cons entry .nil
  | cons first rest ih =>
    apply ite_related (by rw [first.1])
    · exact .cons entry (.cons first rest)
    apply ite_related (by rw [first.1])
    · exact .cons entry rest
    · exact .cons first ih

theorem sort_related (h : List.Forall₂ (Both Eq R) xs ys) :
    List.Forall₂ (Both Eq R) (sort xs) (sort ys) := by
  refine List.rel_foldl ?_ .nil h
  rintro sorted sorted' so ⟨k, v⟩ ⟨_, v'⟩ ⟨rfl, values⟩
  exact insert_related so values

end Keyed

end CommandBridge
