import Curator.Proofs.Model.Pages
import Curator.Proofs.Model.Phases
/-!
# Checks before writes

Whatever the database replies and whatever the hooks return, a create or an update sends its write
after every check has been passed, and otherwise sends none and fails.
-/

set_option autoImplicit false

namespace Curator

open Sql Session

namespace OneWrite

variable {α : Type} {ready : List Exchange → Record → Prop} {sends : Record → Fragment → Prop}

/-- Without a row that is ready nothing is written and the work fails. -/
theorem none_ready {outcome : Except Failure α} {xs : List Exchange}
    (written : OneWrite ready sends outcome xs) (none : ∀ before row, before ⊆ xs → ¬ ready before row) :
    outcome.isOk = false ∧ ∀ x ∈ xs, x.statement.Selects := by
  obtain ⟨before, after, write, same, selects, reached⟩ := written
  have inside : before ⊆ xs := by
    rw [same, List.append_assoc]
    exact List.subset_append_left _ _
  have unreached : ¬ (write.isSome ∨ outcome.isOk = true) := by
    intro came
    obtain ⟨row, was_ready, _⟩ := reached came
    exact none before row inside was_ready
  obtain ⟨no_write, failed⟩ := not_or.mp unreached
  refine ⟨by simpa using failed, ?_⟩
  have nothing : write = Option.none := by simpa using no_write
  rw [same, nothing]
  simpa using selects

end OneWrite

namespace Model

variable {m : Model} {d : Dialect}

theorem Quiet.createMade (quiet : m.Quiet) (fields : Record) :
    Tells d (m.create fields) (OneWrite
      (fun before row => m.NewMade fields row ∧ m.NewReady d fields before row) fun row f =>
      insertion d m.schema.table row .fail (some m.schema.primaryKey) = .ok f) :=
  quiet.tracked (quiet.createRow fields) (fun _ => OneWrite.of_failed nofun)
    (fun _ _ written => written) (fun _ _ _ written => written.spoiled)

theorem Quiet.create (quiet : m.Quiet) (fields : Record) :
    Tells d (m.create fields) (OneWrite (m.NewReady d fields) fun row f =>
      insertion d m.schema.table row .fail (some m.schema.primaryKey) = .ok f) :=
  (quiet.createMade fields).mono fun _ _ written =>
    written.mono (fun _ _ _ ready => ready.2) fun _ _ => id

theorem Quiet.update (quiet : m.Quiet) (key : Value) (fields : Record) :
    Tells d (m.update key fields) (OneWrite (m.ChangeReady d key fields) fun row f =>
      updateSql d m.schema.table row [(m.schema.primaryKey, key)] = .ok f) :=
  quiet.tracked (quiet.updateRow key fields) (fun _ => OneWrite.of_failed nofun)
    (fun _ _ written => written) (fun _ _ _ written => written.spoiled)

theorem NewChecked.mono {fields values : Record} {xs ys : List Exchange}
    (checked : m.NewChecked d fields values xs) (sub : xs ⊆ ys) :
    m.NewChecked d fields values ys :=
  ⟨checked.required, checked.mutated, checked.cleared.mono sub⟩

/-- Checks before writes.  The hooks of the model ask for no operations, the connection is open, and
no upsert is under way; the database may reply as it likes, as long as its counts are not negative.
Then a create sends at most one statement that is no selection.  It is the plain insert of the row
that the mutators, the defaults and the hooks before the write make of the fields, and it is sent only
when, by what was exchanged before it, the required fields are there, every field keeps its rules,
related rows were found and unique values were not; unless all of this holds the create fails and has
only sent selections.  An update does likewise, with the statement that updates the row with its key;
the stored values fill in for those it leaves alone. -/
theorem writes_follow_checks (quiet : m.Quiet) {s : SessionState} {script : List Reply}
    (opened : s.Open d script) :
    (∀ fields, let ran := m.create fields s
      (∀ x ∈ ran.sent script, x.Natural d) →
      OneWrite
        (fun before row => ∃ values, m.NewChecked d fields values before ∧
          m.settledNew values = .ok row)
        (fun row f => f.Inserts ∧
          insertion d m.schema.table row .fail (some m.schema.primaryKey) = .ok f)
        ran.outcome (ran.sent script) ∧
      ((∀ values row, m.NewChecked d fields values (ran.sent script) →
          m.settledNew values ≠ .ok row) →
        ran.outcome.isOk = false ∧ ∀ x ∈ ran.sent script, x.statement.Selects)) ∧
    ∀ key fields, let ran := m.update key fields s
      (∀ x ∈ ran.sent script, x.Natural d) →
      OneWrite
        (fun before row => ∃ existing values stored rows,
          m.ChangeChecked d key fields values existing stored before ∧
          (rows = [] ∨ ∃ x ∈ before, ∃ answer, x.answer d = .ok answer ∧ answer.rows = rows) ∧
          m.settledChange existing values rows = .ok row)
        (fun row f => f.Updates ∧
          updateSql d m.schema.table row [(m.schema.primaryKey, key)] = .ok f)
        ran.outcome (ran.sent script) ∧
      ((∀ existing values stored rows row,
          m.ChangeChecked d key fields values existing stored (ran.sent script) →
          m.settledChange existing values rows ≠ .ok row) →
        ran.outcome.isOk = false ∧ ∀ x ∈ ran.sent script, x.statement.Selects) := by
  constructor
  · intro fields ran natural
    have written := (quiet.create fields s script opened).2
    have after_checks : OneWrite (fun before row => ∃ values, m.NewChecked d fields values before ∧
        m.settledNew values = .ok row) (fun row f => f.Inserts ∧
          insertion d m.schema.table row .fail (some m.schema.primaryKey) = .ok f)
        ran.outcome (ran.sent script) :=
      written.mono (fun before row inside ready => ready fun x member => natural x (inside member))
        fun row f made => ⟨insertion_inserts made, made⟩
    refine ⟨after_checks, fun unready => after_checks.none_ready ?_⟩
    rintro before row inside ⟨values, checked, settled⟩
    exact unready values row (checked.mono inside) settled
  · intro key fields ran natural
    have written := (quiet.update key fields s script opened).2
    have after_checks : OneWrite (fun before row => ∃ existing values stored rows,
        m.ChangeChecked d key fields values existing stored before ∧
        (rows = [] ∨ ∃ x ∈ before, ∃ answer, x.answer d = .ok answer ∧ answer.rows = rows) ∧
        m.settledChange existing values rows = .ok row) (fun row f => f.Updates ∧
          updateSql d m.schema.table row [(m.schema.primaryKey, key)] = .ok f)
        ran.outcome (ran.sent script) :=
      written.mono (fun before row inside ready => ready fun x member => natural x (inside member))
        fun row f made => ⟨updateSql_updates made, made⟩
    refine ⟨after_checks, fun unready => after_checks.none_ready ?_⟩
    rintro before row inside ⟨existing, values, stored, rows, checked, answered, settled⟩
    exact unready existing values stored rows row (checked.mono inside) settled

theorem quiet_of_no_hooks (none : m.engine.hooks = []) : m.Quiet := by
  intro point name _ hook registered
  rw [none] at registered
  cases name <;> cases registered

end Model

/-- Whether a reply read as a count is none that is negative. -/
def Exchange.plain (d : Dialect) (x : Exchange) : Bool :=
  match x.count d with
  | .ok n => decide (0 ≤ n)
  | .error _ => true

theorem Exchange.natural_of_plain {d : Dialect} {xs : List Exchange}
    (all : xs.all (Exchange.plain d) = true) : ∀ x ∈ xs, x.Natural d := by
  intro x member _ n counted
  have holds := List.all_eq_true.mp all x member
  unfold Exchange.plain at holds
  rw [counted] at holds
  exact of_decide_eq_true holds

namespace Sample

/-- A parent that is there, a slug that is free, and the page as it is stored. -/
def creationReplies : List Reply :=
  [countReply 1, countReply 0, writtenReply 7,
    rowsReply [[("id", .int 7), ("slug", .str "about-us"), ("parent_id", .int 3)]]]

/-- The page before a change, the stored page, a slug that is free, and the page after the change. -/
def changeReplies : List Reply :=
  [rowsReply [[("id", .int 7), ("slug", .str "about-us"), ("parent_id", .int 3)]],
    rowsReply [[("id", .int 7), ("slug", .str "about-us"), ("parent_id", .int 3)]],
    countReply 0, writtenReply 7,
    rowsReply [[("id", .int 7), ("slug", .str "about"), ("parent_id", .int 3)]]]

def creation : Ran Resource :=
  (pageModel []).create [("slug", .str "About us"), ("parent_id", .int 3)]
    (pageState creationReplies)

def change : Ran Resource :=
  (pageModel []).update (.int 7) [("slug", .str "About")] (pageState changeReplies)

/-- A create and an update that return, and what had to be passed for them to write. -/
theorem page_writes_follow_checks :
    creation.outcome.isOk = true ∧ change.outcome.isOk = true ∧
    (∃ values row, (pageModel []).NewChecked .sqlite
      [("slug", .str "About us"), ("parent_id", .int 3)] values (creation.sent creationReplies) ∧
      (pageModel []).settledNew values = .ok row) ∧
    ∃ existing values stored rows row, (pageModel []).ChangeChecked .sqlite (.int 7)
      [("slug", .str "About")] values existing stored (change.sent changeReplies) ∧
      (pageModel []).settledChange existing values rows = .ok row := by
  have quiet : (pageModel []).Quiet := Model.quiet_of_no_hooks rfl
  have opened : ∀ replies, (pageState replies).Open .sqlite replies := fun _ => ⟨rfl, rfl, rfl⟩
  have created : creation.outcome.isOk = true := by decide +kernel
  have changed : change.outcome.isOk = true := by decide +kernel
  refine ⟨created, changed, ?_, ?_⟩
  · have natural : ∀ x ∈ creation.sent creationReplies, x.Natural .sqlite :=
      Exchange.natural_of_plain (by decide +kernel)
    obtain ⟨before, after, write, same, _, reached⟩ :=
      ((Model.writes_follow_checks quiet (opened creationReplies)).1 _ natural).1
    obtain ⟨row, ⟨values, checked, settled⟩, _⟩ := reached (Or.inr created)
    refine ⟨values, row, checked.mono ?_, settled⟩
    rw [creation, same, List.append_assoc]
    exact List.subset_append_left _ _
  · have natural : ∀ x ∈ change.sent changeReplies, x.Natural .sqlite :=
      Exchange.natural_of_plain (by decide +kernel)
    obtain ⟨before, after, write, same, _, reached⟩ :=
      ((Model.writes_follow_checks quiet (opened changeReplies)).2 _ _ natural).1
    obtain ⟨row, ⟨existing, values, stored, rows, checked, _, settled⟩, _⟩ :=
      reached (Or.inr changed)
    refine ⟨existing, values, stored, rows, row, checked.mono ?_, settled⟩
    rw [change, same, List.append_assoc]
    exact List.subset_append_left _ _

end Sample

end Curator
