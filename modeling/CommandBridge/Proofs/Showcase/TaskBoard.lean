import CommandBridge.Proofs.Showcase.Forest
import CommandBridge.Showcase.Application

/-!
# The task board in the course of calls

Whatever calls were made, the numbers on the board tell its tasks apart, grow from each task to its
subtasks and along every row, and none is above the number that was given last. A new task therefore
shows at one place that was vacant, and a change of a status at the one place of that number.
-/

set_option autoImplicit false

namespace CommandBridge.Showcase

theorem nextInt64?_eq_some {m n : Int64} (next : nextInt64? m = some n) : m < n := by
  unfold nextInt64? at next
  split at next
  · cases next
  · cases next
    grind

namespace Board

open Forest

variable {b : Board} {title : String} {parentId assignedTo : Option Int64} {tags : List String}
  {p : List Nat} {row roots : Forest} {n : Int64}

def ParentAt (ts : Forest) (p : List Nat) : Option Int64 → Prop
  | none => p = []
  | some n => id? p ts = some n

/-- What the creation of a task comes to: the numbers have run out, the parent is not there, or the
task is the last of the row below its parent and nothing else is changed. -/
inductive Creation (b : Board) (title : String) (parentId assignedTo : Option Int64)
    (tags : List String) : Board × Outcome TaskItem → Prop where
  | exhausted (last : b.lastId = Int64.maxValue) :
    Creation b title parentId assignedTo tags (b, .panicked overflow)
  | orphaned {n parent : Int64} (next : nextInt64? b.lastId = some n) (named : parentId = some parent)
    (absent : parent ∉ ids b.roots) :
    Creation b title parentId assignedTo tags (⟨n, b.roots⟩, .failed (notFound parent))
  | added {n : Int64} {p : List Nat} {row roots : Forest} (next : nextInt64? b.lastId = some n)
    (parent : ParentAt b.roots p parentId) (under : row? p b.roots = some row)
    (shows : ∀ q, label? q roots = if q = p ++ [row.length]
      then some (.mk n title .todo assignedTo tags []) else label? q b.roots) :
    Creation b title parentId assignedTo tags (⟨n, roots⟩, .done (.mk n title .todo assignedTo tags []))

theorem creation (b : Board) (title : String) (parentId assignedTo : Option Int64)
    (tags : List String) :
    Creation b title parentId assignedTo tags (b.create title parentId assignedTo tags) := by
  rw [create]
  cases next : nextInt64? b.lastId with
  | none =>
    refine .exhausted ?_
    unfold nextInt64? at next
    split at next
    · assumption
    · cases next
  | some n =>
    cases parentId with
    | none => exact .added next rfl rfl (label?_concat rfl b.roots)
    | some parent =>
      dsimp only
      cases found : change? parent (TaskItem.adopt (.mk n title .todo assignedTo tags [])) b.roots with
      | none => exact .orphaned next rfl (change?_eq_none.mp found)
      | some r =>
        obtain ⟨p, t, there, named, rfl⟩ := change?_eq_some found
        have under : row? p b.roots = some t.subtasks := by
          cases p with
          | nil => cases there
          | cons i rest => rw [row?, there, Option.map_some]
        exact .added next (Option.map_eq_some_iff.mpr ⟨t, there, named⟩) under
          (label?_changeAt there (label?_adopt rfl t))

theorem setStatus_of_not_mem (absent : n ∉ ids b.roots) (status : TaskStatus) :
    b.setStatus n status = (b, .failed (notFound n)) := by
  rw [setStatus, change?_eq_none.mpr absent]

/-- A task that is there gets the status, and no place but its own shows it. -/
theorem setStatus_of_mem (there : n ∈ ids b.roots) (status : TaskStatus) :
    ∃ p t roots, at? p b.roots = some t ∧ t.id = n ∧
      b.setStatus n status = (⟨b.lastId, roots⟩, .done (t.withStatus status)) ∧
      ∀ q, label? q roots = if q = p then some (t.alone.withStatus status) else label? q b.roots := by
  cases found : change? n (TaskItem.withStatus status) b.roots with
  | none => exact absurd there (change?_eq_none.mp found)
  | some r =>
    obtain ⟨p, t, here, named, rfl⟩ := change?_eq_some found
    refine ⟨p, t, changeAt (TaskItem.withStatus status) p b.roots, here, named, ?_, fun q => ?_⟩
    · rw [setStatus, found]
    · rw [label?_changeAt here (label?_withStatus status t), List.append_nil]

structure WellNumbered (b : Board) : Prop where
  counted : 0 ≤ b.lastId
  given : ∀ p n, id? p b.roots = some n → 0 < n ∧ n ≤ b.lastId
  distinct : ∀ p q n, id? p b.roots = some n → id? q b.roots = some n → p = q
  nested : ∀ p i m n, id? p b.roots = some m → id? (p ++ [i]) b.roots = some n → m < n
  ordered : ∀ p i j m n, i < j → id? (p ++ [i]) b.roots = some m →
    id? (p ++ [j]) b.roots = some n → m < n

namespace WellNumbered

theorem empty : WellNumbered .empty where
  counted := by decide
  given p n there := by cases p <;> cases there
  distinct p q n there := by cases p <;> cases there
  nested p i m n there := by cases p <;> cases there
  ordered p i j m n _ there := by cases p <;> cases there

theorem congr (h : b.WellNumbered) (same : ∀ q, id? q roots = id? q b.roots) :
    WellNumbered ⟨b.lastId, roots⟩ where
  counted := h.counted
  given p n there := h.given p n (same p ▸ there)
  distinct p q n hp hq := h.distinct p q n (same p ▸ hp) (same q ▸ hq)
  nested p i m n hp hi := h.nested p i m n (same p ▸ hp) (same _ ▸ hi)
  ordered p i j m n before hi hj := h.ordered p i j m n before (same _ ▸ hi) (same _ ▸ hj)

theorem skip (h : b.WellNumbered) (next : b.lastId < n) : WellNumbered ⟨n, b.roots⟩ where
  counted := Int64.le_trans h.counted (Int64.le_of_lt next)
  given p m there :=
    ⟨(h.given p m there).1, Int64.le_trans (h.given p m there).2 (Int64.le_of_lt next)⟩
  distinct := h.distinct
  nested := h.nested
  ordered := h.ordered

/-- A number above the last one may be given to a task that is the last of its row. -/
theorem add (h : b.WellNumbered) (next : b.lastId < n) (under : row? p b.roots = some row)
    (shows : ∀ q, id? q roots = if q = p ++ [row.length] then some n else id? q b.roots) :
    WellNumbered ⟨n, roots⟩ := by
  have above (q : List Nat) (m : Int64) (there : id? q b.roots = some m) : m < n :=
    Int64.lt_of_le_of_lt (h.given q m there).2 next
  have place {q : List Nat} {m : Int64} (there : id? q roots = some m) :
      (q = p ++ [row.length] ∧ m = n) ∨ id? q b.roots = some m := by
    rw [shows] at there
    split at there
    · next same => exact .inl ⟨same, (Option.some.inj there).symm⟩
    · exact .inr there
  have last {q : List Nat} {i : Nat} (same : q ++ [i] = p ++ [row.length]) : q = p ∧ i = row.length :=
    (List.append_inj' same rfl).imp_right fun h => (List.cons.inj h).1
  constructor
  case counted => exact Int64.le_trans h.counted (Int64.le_of_lt next)
  case given =>
    intro q m there
    rcases place there with ⟨-, rfl⟩ | old
    · exact ⟨Int64.lt_of_le_of_lt h.counted next, Int64.le_refl _⟩
    · exact ⟨(h.given q m old).1, Int64.le_of_lt (above q m old)⟩
  case distinct =>
    intro q q' m hq hq'
    rcases place hq with ⟨same, rfl⟩ | old <;> rcases place hq' with ⟨same', given⟩ | old'
    · rw [same, same']
    · exact absurd (above _ _ old') Int64.lt_irrefl
    · exact absurd (above _ _ (given ▸ old)) Int64.lt_irrefl
    · exact h.distinct q q' m old old'
  case nested =>
    intro q i m m' hq hi
    rcases place hq with ⟨same, -⟩ | old <;> rcases place hi with ⟨same', given⟩ | old'
    · exact absurd (same'.trans same.symm) (by simp)
    · rw [same, id?_below_eq_none under] at old'
      cases old'
    · exact given ▸ above q m old
    · exact h.nested q i m m' old old'
  case ordered =>
    intro q i j m m' before hi hj
    rcases place hi with ⟨same, -⟩ | old <;> rcases place hj with ⟨same', given⟩ | old'
    · have := last same
      have := last same'
      omega
    · obtain ⟨rfl, rfl⟩ := last same
      rw [id?_eq_none_of_row? under (Nat.le_of_lt before)] at old'
      cases old'
    · exact given ▸ above (q ++ [i]) m old
    · exact h.ordered q i j m m' before old old'

theorem create (h : b.WellNumbered) (title : String) (parentId assignedTo : Option Int64)
    (tags : List String) : (b.create title parentId assignedTo tags).1.WellNumbered := by
  have comes := creation b title parentId assignedTo tags
  generalize b.create title parentId assignedTo tags = r at comes
  cases comes with
  | exhausted => exact h
  | orphaned next => exact h.skip (nextInt64?_eq_some next)
  | added next _ under shows =>
    refine h.add (nextInt64?_eq_some next) under fun q => ?_
    rw [id?_eq, id?_eq, shows]
    split <;> rfl

theorem setStatus (h : b.WellNumbered) (n : Int64) (status : TaskStatus) :
    (b.setStatus n status).1.WellNumbered := by
  by_cases there : n ∈ ids b.roots
  · obtain ⟨p, t, roots, found, -, done, shows⟩ := setStatus_of_mem there status
    rw [done]
    refine h.congr fun q => ?_
    rw [id?_eq, id?_eq, shows]
    split
    · next same =>
      rw [same, label?, found]
      cases t
      rfl
    · rfl
  · rwa [setStatus_of_not_mem there]

theorem roots_ordered (h : b.WellNumbered) : b.roots.Pairwise fun t u => t.id < u.id := by
  have root (i : Nat) (hi : i < b.roots.length) : id? ([] ++ [i]) b.roots = some b.roots[i].id := by
    rw [id?, at?_concat, row?, Option.bind_some, List.getElem?_eq_getElem hi, Option.map_some]
  rw [List.pairwise_iff_getElem]
  intro i j hi hj before
  exact h.ordered [] i j _ _ before (root i hi) (root j hj)

end WellNumbered

theorem pairwise_list (h : b.WellNumbered) (status : Option TaskStatus) :
    (b.list status).Pairwise fun t u => t.id < u.id := h.roots_ordered.filter _

theorem mem_list_iff {status : Option TaskStatus} {t : TaskItem} :
    t ∈ b.list status ↔ t ∈ b.roots ∧ ∀ s, status = some s → t.status = s := by
  cases status <;> simp [list]

theorem create_succeeds_iff :
    (∃ b' task, b.create title parentId assignedTo tags = (b', .done task)) ↔
      b.lastId ≠ Int64.maxValue ∧ ∀ n, parentId = some n → n ∈ ids b.roots := by
  have comes := creation b title parentId assignedTo tags
  generalize b.create title parentId assignedTo tags = r at comes
  cases comes with
  | exhausted last => exact iff_of_false nofun fun h => h.1 last
  | orphaned next named absent => exact iff_of_false nofun fun h => absent (h.2 _ named)
  | added next parent =>
    refine iff_of_true ⟨_, _, rfl⟩ ⟨?_, ?_⟩
    · intro last
      simp [nextInt64?, last] at next
    · rintro n rfl
      exact mem_ids_iff.mpr ⟨_, parent⟩

/-- A task that is created has a number that nobody had and shows at the end of one row. -/
theorem WellNumbered.created (h : b.WellNumbered) {b' : Board} {task : TaskItem}
    (made : b.create title parentId assignedTo tags = (b', .done task)) :
    task = .mk b'.lastId title .todo assignedTo tags [] ∧ b'.lastId ∉ ids b.roots ∧
      ∃ p row, ParentAt b.roots p parentId ∧ row? p b.roots = some row ∧
        ∀ q, label? q b'.roots = if q = p ++ [row.length] then some task else label? q b.roots := by
  have comes := creation b title parentId assignedTo tags
  rw [made] at comes
  cases comes with
  | added next parent under shows =>
    refine ⟨rfl, fun there => ?_, _, _, parent, under, shows⟩
    obtain ⟨q, there⟩ := mem_ids_iff.mp there
    exact absurd (Int64.lt_of_le_of_lt (h.given q _ there).2 (nextInt64?_eq_some next)) Int64.lt_irrefl

/-- The board after requests to a fresh showcase, answered in their order. -/
def after (requests : List Request) : Board :=
  (requests.foldl (fun w q => (q.perform w).1) World.fresh).board

theorem WellNumbered.perform {w : World} (h : w.board.WellNumbered) (q : Request) :
    (q.perform w).1.board.WellNumbered := by
  cases q with
  | createTask title parentId assignedTo tags => exact h.create title parentId assignedTo tags
  | setTaskStatus id status => exact h.setStatus id status
  | getUser | listUsers | createUser | listTasks | forecast => exact h

theorem wellNumbered_after (requests : List Request) : (after requests).WellNumbered := by
  have runs (w : World) (h : w.board.WellNumbered) :
      (requests.foldl (fun w q => (q.perform w).1) w).board.WellNumbered := by
    induction requests generalizing w with
    | nil => exact h
    | cons q rest ih => exact ih _ (h.perform q)
  exact runs World.fresh .empty

/-- Whatever was asked of a fresh showcase, the numbers on the board are distinct, positive, none above
the last one, and grow from every task to its subtasks. A task that is created is the last of the row
below its parent, with a number that nobody had; a status is changed of the one task of its number;
and nothing else is changed. Listed are the roots of a status, with all that stands under them, in the
order of their creation. -/
theorem task_board_kept (requests : List Request) :
    let b := after requests
    (ids b.roots).Nodup ∧ b.WellNumbered ∧
    (∀ title parentId assignedTo tags,
      ((∃ b' task, b.create title parentId assignedTo tags = (b', .done task)) ↔
        b.lastId ≠ Int64.maxValue ∧ ∀ n, parentId = some n → n ∈ ids b.roots) ∧
      ∀ b' task, b.create title parentId assignedTo tags = (b', .done task) →
        task = .mk b'.lastId title .todo assignedTo tags [] ∧ b'.lastId ∉ ids b.roots ∧
        ∃ p row, ParentAt b.roots p parentId ∧ row? p b.roots = some row ∧
          ∀ q, label? q b'.roots =
            if q = p ++ [row.length] then some task else label? q b.roots) ∧
    (∀ n status,
      (n ∉ ids b.roots → b.setStatus n status = (b, .failed (notFound n))) ∧
      (n ∈ ids b.roots → ∃ p t roots, at? p b.roots = some t ∧ t.id = n ∧
        b.setStatus n status = (⟨b.lastId, roots⟩, .done (t.withStatus status)) ∧
        ∀ q, label? q roots =
          if q = p then some (t.alone.withStatus status) else label? q b.roots)) ∧
    ∀ status, (b.list status).Pairwise (fun t u => t.id < u.id) ∧
      ∀ t, t ∈ b.list status ↔ t ∈ b.roots ∧ ∀ s, status = some s → t.status = s := by
  intro b
  have kept : b.WellNumbered := wellNumbered_after requests
  refine ⟨nodup_ids kept.distinct, kept, fun title parentId assignedTo tags => ?_,
    fun n status => ⟨fun absent => setStatus_of_not_mem absent status,
      fun there => setStatus_of_mem there status⟩,
    fun status => ⟨pairwise_list kept status, fun t => mem_list_iff⟩⟩
  exact ⟨create_succeeds_iff, fun b' task made => kept.created made⟩

end Board
end CommandBridge.Showcase
