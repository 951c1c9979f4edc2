import CommandBridge.Proofs.Keyed
import CommandBridge.Proofs.Showcase.TaskBoard

/-!
# A creation that fails

A task whose parent is not there is not created, but its number is gone: the board counts on one
ahead of a board on which nobody asked. No call shows that before the next task is created, and that
one shows it.
-/

set_option autoImplicit false

namespace CommandBridge.Showcase

def Request.Creates : Request → Prop
  | createTask .. => True
  | _ => False

def World.answers (w : World) : List Request → List (Outcome Payload)
  | [] => []
  | q :: rest => (q.perform w).2 :: World.answers (q.perform w).1 rest

def Orphaned (answer : Outcome Payload) : Prop := ∃ parent, answer = .failed (Board.notFound parent)

theorem TaskItem.member_id_toJson (t : TaskItem) : t.toJson.member "id" = .int t.id.toInt := by
  obtain ⟨id, title, status, assignedTo, tags, subtasks⟩ := t
  rw [TaskItem.toJson, Json.ofMembers, Json.member, Keyed.lookup_sort]
  by_cases untagged : tags.isEmpty = true <;> simp [untagged, Keyed.lookup, TaskItem.id]

/-- Integers of 64 bits that differ are written differently. -/
theorem int64_written_inj {m n : Int64} (same : Json.int m.toInt = .int n.toInt) : m = n := by
  have exact (n : Int64) : Number.ofInt n.toInt =
      .int n.toInt ⟨n.le_toInt, n.toInt_lt.trans (by decide)⟩ := dif_pos _
  have written := Json.number.inj same
  rw [exact, exact] at written
  exact Int64.toInt_inj.mp (Number.int.inj written)

theorem TaskItem.id_eq_of_toJson_eq {t u : TaskItem} (same : t.toJson = u.toJson) : t.id = u.id := by
  apply int64_written_inj
  rw [← member_id_toJson, ← member_id_toJson, same]

namespace Board

open Forest

variable {b : Board} {title : String} {assignedTo : Option Int64} {tags : List String}

theorem ne_maxValue_of_next {m n : Int64} (next : nextInt64? m = some n) : m ≠ Int64.maxValue := by
  rintro rfl
  simp [nextInt64?] at next

theorem create_orphaned {n parent : Int64} (next : nextInt64? b.lastId = some n)
    (absent : parent ∉ ids b.roots) :
    b.create title (some parent) assignedTo tags = (⟨n, b.roots⟩, .failed (notFound parent)) := by
  simp only [create, next, change?_eq_none.mpr absent]

end Board

open Board

/-- Two worlds that differ in that one number more is used up on the board of the second. -/
structure Ahead (w w' : World) : Prop where
  users : w'.users = w.users
  room : w'.room = w.room
  roots : w'.board.roots = w.board.roots
  next : nextInt64? w.board.lastId = some w'.board.lastId

namespace Ahead

variable {w w' : World} {q : Request}

theorem perform_of_not_creates (h : Ahead w w') (other : ¬q.Creates) :
    (q.perform w').2 = (q.perform w).2 ∧ Ahead (q.perform w).1 (q.perform w').1 := by
  obtain ⟨users, ⟨lastId, roots⟩, room⟩ := w
  obtain ⟨users', ⟨lastId', roots'⟩, room'⟩ := w'
  obtain ⟨rfl, rfl, rfl, next⟩ := h
  cases q with
  | createTask => exact absurd trivial other
  | setTaskStatus id status =>
    simp only [Request.perform, Board.setStatus]
    cases Forest.change? id (TaskItem.withStatus status) roots' with
    | none => exact ⟨rfl, rfl, rfl, rfl, next⟩
    | some r => exact ⟨rfl, rfl, rfl, rfl, next⟩
  | getUser | listUsers | createUser | listTasks | forecast => exact ⟨rfl, rfl, rfl, rfl, next⟩

/-- A creation that fails for want of its parent fails so with the smaller number too. -/
theorem perform_of_orphaned (h : Ahead w w') (creates : q.Creates)
    (refused : Orphaned (q.perform w').2) :
    (q.perform w').2 = (q.perform w).2 ∧ Ahead (q.perform w).1 (q.perform w').1 := by
  obtain ⟨parent, refused⟩ := refused
  cases q with
  | createTask title parentId assignedTo tags =>
    simp only [Request.perform] at refused ⊢
    have comes := creation w'.board title parentId assignedTo tags
    generalize w'.board.create title parentId assignedTo tags = r at comes refused ⊢
    cases comes with
    | exhausted => cases refused
    | added => cases refused
    | orphaned next named absent =>
      subst named
      rw [h.roots] at absent
      rw [create_orphaned h.next absent]
      exact ⟨rfl, h.users, h.room, h.roots, next⟩
  | _ => cases creates

/-- A creation that comes to anything else shows which number was given last. -/
theorem orphaned_of_same_answer (h : Ahead w w') (creates : q.Creates)
    (same : (q.perform w').2 = (q.perform w).2) : Orphaned (q.perform w').2 := by
  cases q with
  | createTask title parentId assignedTo tags =>
    simp only [Request.perform] at same ⊢
    have comes := creation w.board title parentId assignedTo tags
    have comes' := creation w'.board title parentId assignedTo tags
    generalize w.board.create title parentId assignedTo tags = r at comes same
    generalize w'.board.create title parentId assignedTo tags = r' at comes' same ⊢
    cases comes' with
    | orphaned => exact ⟨_, rfl⟩
    | exhausted =>
      cases comes with
      | exhausted last => exact absurd last (ne_maxValue_of_next h.next)
      | orphaned => cases same
      | added => cases same
    | @added n' _ _ _ next' =>
      cases comes with
      | exhausted => cases same
      | orphaned => cases same
      | @added n _ _ _ next =>
        have number : n' = n :=
          TaskItem.id_eq_of_toJson_eq (Payload.json.inj (Outcome.done.inj same))
        have last : w'.board.lastId = n := Option.some.inj (h.next.symm.trans next)
        have later : w'.board.lastId < n' := nextInt64?_eq_some next'
        rw [last, number] at later
        exact absurd later Int64.lt_irrefl
  | _ => cases creates

/-- From worlds of which one is a number ahead, answers are the same as long as no creation is
answered otherwise than for want of a parent, and no longer. -/
theorem answers_eq_iff (h : Ahead w w') (requests : List Request) :
    w'.answers requests = w.answers requests ↔
      ∀ p ∈ requests.zip (w'.answers requests), p.1.Creates → Orphaned p.2 := by
  induction requests generalizing w w' with
  | nil => exact iff_of_true rfl nofun
  | cons q rest ih =>
    rw [World.answers, World.answers, List.zip_cons_cons, List.forall_mem_cons, List.cons_eq_cons]
    by_cases creates : q.Creates
    · constructor
      · rintro ⟨same, later⟩
        have refused := h.orphaned_of_same_answer creates same
        exact ⟨fun _ => refused, (ih (h.perform_of_orphaned creates refused).2).mp later⟩
      · rintro ⟨refused, later⟩
        obtain ⟨same, ahead⟩ := h.perform_of_orphaned creates (refused creates)
        exact ⟨same, (ih ahead).mpr later⟩
    · obtain ⟨same, ahead⟩ := h.perform_of_not_creates creates
      rw [ih ahead]
      exact and_congr (iff_of_true same fun made => absurd made creates) Iff.rfl

end Ahead

theorem ahead_of_failed {w : World} {title : String} {parentId assignedTo : Option Int64}
    {tags : List String} {e : CommandError}
    (failed : ((Request.createTask title parentId assignedTo tags).perform w).2 = .failed e) :
    (∃ parent, parentId = some parent ∧ parent ∉ Forest.ids w.board.roots ∧ e = notFound parent) ∧
      Ahead w ((Request.createTask title parentId assignedTo tags).perform w).1 := by
  simp only [Request.perform] at failed ⊢
  have comes := creation w.board title parentId assignedTo tags
  generalize w.board.create title parentId assignedTo tags = r at comes failed ⊢
  cases comes with
  | exhausted => cases failed
  | added => cases failed
  | orphaned next named absent =>
    cases failed
    exact ⟨⟨_, named, absent, rfl⟩, rfl, rfl, rfl, next⟩

/-- A creation fails for want of its parent, and on any board it then leaves all tasks as they are and
takes a number. Requests made later, whatever they are and however many, are answered as if it had not
been made exactly when every creation among them fails for want of its parent as well. -/
theorem failed_creation_unseen_iff (w : World) (title : String) (parentId assignedTo : Option Int64)
    (tags : List String) (e : CommandError)
    (failed : ((Request.createTask title parentId assignedTo tags).perform w).2 = .failed e) :
    let w' := ((Request.createTask title parentId assignedTo tags).perform w).1
    (∃ parent, parentId = some parent ∧ parent ∉ Forest.ids w.board.roots ∧ e = notFound parent) ∧
      w'.users = w.users ∧ w'.room = w.room ∧ w'.board.roots = w.board.roots ∧
      nextInt64? w.board.lastId = some w'.board.lastId ∧
      ∀ requests, w'.answers requests = w.answers requests ↔
        ∀ p ∈ requests.zip (w'.answers requests), p.1.Creates → Orphaned p.2 := by
  obtain ⟨why, ahead⟩ := ahead_of_failed failed
  exact ⟨why, ahead.users, ahead.room, ahead.roots, ahead.next, ahead.answers_eq_iff⟩

def stray : Request := .createTask "a" (some 9) none []

/-- A task that stands for itself. -/
def plain : Request := .createTask "b" none none []

/-- After a creation that failed, another that fails is answered as ever, and a new task is not. -/
theorem stray_seen :
    (stray.perform .fresh).2 = .failed (notFound 9) ∧
      (stray.perform .fresh).1.answers [stray] = World.fresh.answers [stray] ∧
      (stray.perform .fresh).1.answers [plain] ≠ World.fresh.answers [plain] := by
  obtain ⟨-, -, -, -, -, unseen⟩ := failed_creation_unseen_iff .fresh "a" (some 9) none [] _ rfl
  refine ⟨rfl, (unseen [stray]).mpr fun p there _ => ?_, fun same => ?_⟩
  · rw [List.mem_singleton.mp there]
    exact ⟨9, rfl⟩
  · obtain ⟨parent, refused⟩ := (unseen [plain]).mp same _ List.mem_cons_self trivial
    cases refused

/-- The first task of a fresh board has number 1, and number 2 if a subtask of no task was asked for
before. -/
theorem stray_takes_number :
    (stray.perform .fresh).2 = .failed (notFound 9) ∧
      (stray.perform .fresh).1.board.lastId ≠ World.fresh.board.lastId ∧
      World.fresh.answers [plain] = [.done (.json (TaskItem.mk 1 "b" .todo none [] []).toJson)] ∧
      (stray.perform .fresh).1.answers [plain] =
        [.done (.json (TaskItem.mk 2 "b" .todo none [] []).toJson)] ∧
      (TaskItem.mk 1 "b" .todo none [] []).toJson ≠ (TaskItem.mk 2 "b" .todo none [] []).toJson := by
  refine ⟨rfl, by decide, rfl, rfl, fun same => ?_⟩
  exact absurd (TaskItem.id_eq_of_toJson_eq same) (by decide)

end CommandBridge.Showcase
