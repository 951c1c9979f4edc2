import CommandBridge.Proofs.Bridge.Run

/-!
# A bridge as seen by one of its sessions

An act on the bridge is an act on one session of a kind, on all of them or on none. So what
is kept by every act on a session, together with what is noted of it, holds of each session
of a bridge after every run, whatever the other sessions do in between.
-/

set_option autoImplicit false

namespace CommandBridge.Bridge

section Added

variable {C : Type} {xs ys : List C} {i : Nat} {c d : C}

theorem getElem?_ne_some_of_length (h : xs[i]? = none) (same : ys.length = xs.length) :
    ys[i]? ≠ some c := by
  intro added
  rw [List.getElem?_eq_none_iff] at h
  obtain ⟨bound, -⟩ := List.getElem?_eq_some_iff.mp added
  omega

theorem eq_of_getElem?_concat (h : xs[i]? = none) (added : (xs ++ [d])[i]? = some c) : c = d := by
  rw [List.getElem?_eq_none_iff] at h
  rw [List.getElem?_append_right h] at added
  exact List.mem_singleton.mp (List.mem_of_getElem? added)

theorem length_of_getElem?_concat (h : xs[i]? = none) (added : (xs ++ [d])[i]? = some c) :
    xs.length = i := by
  obtain ⟨bound, -⟩ := List.getElem?_eq_some_iff.mp added
  rw [List.getElem?_eq_none_iff] at h
  rw [List.length_append, List.length_singleton] at bound
  omega

end Added

/-- A kind of session: where its sessions are, what may befall one, and what is noted of it. -/
structure Sessions (A : Application) (C X L : Type) where
  all : Bridge A → List C
  seen? : Bridge A → Nat → Act A → Option X
  act : A.World → C → X → C
  note : C → L → X → L
  Fresh : C → Prop
  changed : ∀ {b : Bridge A} {i : Nat} {c : C}, (all b)[i]? = some c → ∀ a,
    (all (b.act a))[i]? = some (((seen? b i a).map (act b.world c)).getD c)
  added : ∀ {b : Bridge A} {i : Nat} {c : C}, (all b)[i]? = none → ∀ a,
    (all (b.act a))[i]? = some c → Fresh c

namespace Sessions

variable {A : Application} {C X L : Type} {s : Sessions A C X L} {b : Bridge A} {i : Nat} {c : C}

def noted (s : Sessions A C X L) (i : Nat) (b : Bridge A) (l : L) (a : Act A) : L :=
  match (s.all b)[i]?, s.seen? b i a with
  | some c, some x => s.note c l x
  | _, _ => l

def history (s : Sessions A C X L) (i : Nat) : Bridge A → List (Act A) → L → L
  | _, [], l => l
  | b, a :: rest, l => s.history i (b.act a) rest (s.noted i b l a)

theorem history_append (b : Bridge A) (acts more : List (Act A)) (l : L) :
    s.history i b (acts ++ more) l = s.history i (b.run acts) more (s.history i b acts l) := by
  induction acts generalizing b l with
  | nil => rfl
  | cons a rest ih => exact ih (b.act a) (s.noted i b l a)

theorem noted_kept {P : C → L → Prop} (step : ∀ c l w x, P c l → P (s.act w c x) (s.note c l x))
    {l : L} (there : (s.all b)[i]? = some c) (h : P c l) (a : Act A) :
    ∃ d, (s.all (b.act a))[i]? = some d ∧ P d (s.noted i b l a) := by
  refine ⟨_, s.changed there a, ?_⟩
  cases seen : s.seen? b i a with
  | none => simpa [noted, there, seen] using h
  | some x => simpa [noted, there, seen] using step c l b.world x h

/-- What every act on a session keeps is kept by every run of the bridge. -/
theorem history_kept {P : C → L → Prop} (step : ∀ c l w x, P c l → P (s.act w c x) (s.note c l x))
    (acts : List (Act A)) {b : Bridge A} {c : C} {l : L} (there : (s.all b)[i]? = some c)
    (h : P c l) : ∃ d, (s.all (b.run acts))[i]? = some d ∧ P d (s.history i b acts l) := by
  induction acts generalizing b c l with
  | nil => exact ⟨c, there, h⟩
  | cons a rest ih =>
    obtain ⟨d, next, kept⟩ := noted_kept step there h a
    exact ih next kept

/-- What every act on a session keeps, whatever is noted of it, is kept by every run. -/
theorem run_kept {P : C → Prop} (step : ∀ c w x, P c → P (s.act w c x)) (acts : List (Act A))
    {b : Bridge A} {c : C} (there : (s.all b)[i]? = some c) (h : P c) :
    ∃ d, (s.all (b.run acts))[i]? = some d ∧ P d := by
  induction acts generalizing b c with
  | nil => exact ⟨c, there, h⟩
  | cons a rest ih =>
    refine ih (s.changed there a) ?_
    cases s.seen? b i a with
    | none => exact h
    | some x => exact step c b.world x h

/-- Every session of a run was begun by one act of it. What holds of a session as an act begins it,
before anything is noted, and is kept by every act on a session together with what is noted, holds
of it and of its notes after the run. -/
theorem history_origin {P : Bridge A → Act A → C → L → Prop} {l : L}
    (begun : ∀ {b a c}, (s.all b)[i]? = none → (s.all (b.act a))[i]? = some c → P b a c l)
    (step : ∀ {b a c l} w x, P b a c l → P b a (s.act w c x) (s.note c l x)) (acts : List (Act A))
    {b : Bridge A} (absent : (s.all b)[i]? = none) (there : (s.all (b.run acts))[i]? = some c) :
    ∃ before a after, acts = before ++ a :: after ∧
      P (b.run before) a c (s.history i b acts l) := by
  induction acts generalizing b with
  | nil => rw [run_nil, absent] at there; cases there
  | cons a rest ih =>
    have unseen : s.noted i b l a = l := by simp only [noted, absent]
    rw [history, unseen]
    cases after : (s.all (b.act a))[i]? with
    | none =>
      obtain ⟨before, a', later, rfl, origin⟩ := ih after there
      exact ⟨a :: before, a', later, rfl, origin⟩
    | some d =>
      refine ⟨[], a, rest, rfl, ?_⟩
      obtain ⟨d', same, kept⟩ :=
        history_kept (fun c l w x => step w x) rest after (begun absent after)
      rw [run_cons, same] at there
      cases there
      exact kept

/-- What holds of a session just begun and is kept by every act on it holds of the session of
number `i` and of its notes after every run. -/
theorem history_induction {P : C → L → Prop} {l : L} (fresh : ∀ c, s.Fresh c → P c l)
    (step : ∀ c l w x, P c l → P (s.act w c x) (s.note c l x)) (acts : List (Act A))
    {b : Bridge A} (absent : (s.all b)[i]? = none) (there : (s.all (b.run acts))[i]? = some c) :
    P c (s.history i b acts l) := by
  obtain ⟨-, -, -, -, holds⟩ := history_origin (P := fun _ _ c l => P c l)
    (fun absent added => fresh _ (s.added absent _ added)) (fun w x => step _ _ w x) acts absent there
  exact holds

/-- Every session of a run was begun by one act of it. What holds of a session as an act begins it
and is kept by every act on a session holds of it after the run. -/
theorem run_origin {P : Bridge A → Act A → C → Prop}
    (begun : ∀ {b a c}, (s.all b)[i]? = none → (s.all (b.act a))[i]? = some c → P b a c)
    (step : ∀ {b a c} w x, P b a c → P b a (s.act w c x)) (acts : List (Act A)) {b : Bridge A}
    (absent : (s.all b)[i]? = none) (there : (s.all (b.run acts))[i]? = some c) :
    ∃ before a after, acts = before ++ a :: after ∧ P (b.run before) a c := by
  induction acts generalizing b with
  | nil => rw [run_nil, absent] at there; cases there
  | cons a rest ih =>
    cases after : (s.all (b.act a))[i]? with
    | none =>
      obtain ⟨before, a', later, rfl, origin⟩ := ih after there
      exact ⟨a :: before, a', later, rfl, origin⟩
    | some d =>
      refine ⟨[], a, rest, rfl, ?_⟩
      obtain ⟨d', same, kept⟩ := run_kept (fun c w x => step w x) rest after (begun absent after)
      rw [run_cons, same] at there
      cases there
      exact kept

end Sessions
end CommandBridge.Bridge
