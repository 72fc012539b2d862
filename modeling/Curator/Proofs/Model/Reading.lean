import Curator.Proofs.Hook.Quiet
import Curator.Proofs.Plan.Parameters
/-!
# What reading sends

Reading a row sends one selection and makes of its answer what the plan and the hooks say.  The other
selections of a model are of rows on which tests of single columns hold.
-/

set_option autoImplicit false

namespace Curator

open Sql Outcome Session

/-! ## Selections by tests of columns -/

/-- A column of a table, an operator and its operand. -/
abbrev Sql.ColumnTest := String × Operator × Value

/-- The selection of the rows of a table on which tests of its columns hold. -/
def Sql.tested (d : Dialect) (table : String) (tests : List ColumnTest) : Except Failure Select := do
  let s ← (Select.new d).from_ table
  tests.foldlM (fun s (name, operator, operand) =>
    s.where_ .and ⟨name, some table, []⟩ operator operand) s

/-- The statement that counts these rows. -/
def Sql.counting (d : Dialect) (table : String) (tests : List ColumnTest) :
    Except Failure Fragment := do
  let s ← tested d table tests
  s.countSql

/-- The statement that fetches the first of these rows. -/
def Sql.firstRow (d : Dialect) (table : String) (tests : List ColumnTest) :
    Except Failure Fragment := do
  let s ← tested d table tests
  Select.toSql { s with limit := some 1 }

theorem Sql.tested_snoc {d : Dialect} {table name : String} {tests : List ColumnTest}
    {operator : Operator} {operand : Value} {s t : Select} (before : tested d table tests = .ok s)
    (narrow : s.where_ .and ⟨name, some table, []⟩ operator operand = .ok t) :
    tested d table (tests ++ [(name, operator, operand)]) = .ok t := by
  obtain ⟨start, opened, run⟩ := bind_ok before
  simp only [tested, opened, ok_bind, List.foldlM_append, run]
  simp only [List.foldlM_cons, List.foldlM_nil, narrow, ok_bind]
  rfl

theorem Sql.counting_counts {d : Dialect} {table : String} {tests : List ColumnTest} {f : Fragment}
    (ok : counting d table tests = .ok f) : f.Counts := by
  obtain ⟨s, _, ok⟩ := bind_ok ok
  obtain ⟨_, _, _, _, counts⟩ := Select.countSql_ok ok
  exact counts

/-- Some exchange counted the rows on which tests hold, and the answer was a given number. -/
def Counted (d : Dialect) (xs : List Exchange) (table : String) (tests : List ColumnTest)
    (n : Int) : Prop :=
  ∃ x ∈ xs, counting d table tests = .ok x.statement ∧ x.count d = .ok n

theorem Counted.mono {d : Dialect} {xs ys : List Exchange} {table : String}
    {tests : List ColumnTest} {n : Int} (counted : Counted d xs table tests n) (sub : xs ⊆ ys) :
    Counted d ys table tests n := by
  obtain ⟨x, member, rest⟩ := counted
  exact ⟨x, sub member, rest⟩

namespace Model

variable {m : Model} {d : Dialect} {α β : Type}

theorem tells_rowsOf_bind {table : String} {next : Select → Session β}
    {Q : Except Failure β → List Exchange → Prop} (fails : ∀ failure, Q (.error failure) [])
    (goes : ∀ s, tested d table [] = .ok s → Tells d (next s) Q) :
    Tells d (rowsOf table >>= next) Q := by
  unfold rowsOf
  rw [bind_assoc]
  refine tells_dialect_bind (tells_of_bind (fun failure _ => fails failure) fun s opened => ?_)
  refine goes s ?_
  simp only [tested, opened, ok_bind, List.foldlM_nil]
  rfl

theorem tells_narrowed_bind {table name : String} {tests : List ColumnTest} {s : Select}
    {operator : Operator} {operand : Value} {next : Select → Session β}
    {Q : Except Failure β → List Exchange → Prop} (fails : ∀ failure, Q (.error failure) [])
    (before : tested d table tests = .ok s)
    (goes : ∀ t, tested d table (tests ++ [(name, operator, operand)]) = .ok t →
      Tells d (next t) Q) :
    Tells d (narrowed s ⟨name, some table, []⟩ operator operand >>= next) Q :=
  tells_of_bind (fun failure _ => fails failure) fun t narrow => goes t (tested_snoc before narrow)

/-- Counting the rows of tests: the statement is the one for these tests, and the reply is read as a
number. -/
theorem tells_total_tested {table : String} {tests : List ColumnTest} {s : Select}
    {Q : Except Failure Int → List Exchange → Prop} (selected : tested d table tests = .ok s)
    (fails : ∀ failure, Q (.error failure) [])
    (sends : ∀ x : Exchange, counting d table tests = .ok x.statement → Q (x.count d) [x]) :
    Tells d (total s) Q := by
  refine tells_total (fun failure _ => fails failure) fun f made reply => sends ⟨f, reply⟩ ?_
  simp only [counting, selected, ok_bind]
  exact made

theorem tells_mode_bind {next : TrashedMode → Session β}
    {Q : Except Failure β → List Exchange → Prop} (goes : ∀ mode, Tells d (next mode) Q) :
    Tells d (mode >>= next) Q := by
  have read : Tells d mode fun outcome xs => ∃ mode, outcome = .ok mode ∧ xs = [] :=
    fun s _ opened => ⟨opened, s.model.trashed, rfl, rfl⟩
  refine Tells.bind (read.mono fun outcome xs told => ?_)
  obtain ⟨mode, rfl, rfl⟩ := told
  exact goes mode

theorem tells_storedRow {key : Value} {Q : Except Failure Record → List Exchange → Prop}
    (fails : ∀ failure, Q (.error failure) [])
    (sends : ∀ x : Exchange,
      firstRow d m.schema.table [(m.schema.primaryKey, .eq, key)] = .ok x.statement →
        Q (x.answer d >>= fun a => .ok (a.rows.head?.getD [])) [x]) :
    Tells d (m.storedRow key) Q := by
  refine tells_rowsOf_bind fails fun s selected => ?_
  refine tells_narrowed_bind fails selected fun t narrowed => ?_
  refine Tells.bind (tells_fetch (fun failure _ => fails failure) fun f made reply => ?_)
  have asked : tested d m.schema.table [(m.schema.primaryKey, .eq, key)] = .ok t := narrowed
  have told := sends ⟨f, reply⟩ (by simpa only [firstRow, asked, ok_bind] using made)
  cases came : (Exchange.mk f reply).answer d with
  | error failure =>
    rw [came] at told
    exact told
  | ok a =>
    rw [came] at told
    exact tells_pure told

/-! ## Rows by their key -/

/-- The plan by which the row with a key is read. -/
def keyPlan (m : Model) (key : Value) (mode : TrashedMode) : Except Failure Plan :=
  Plan.compile ⟨m.engine.registry, m.engine.registry.settings, m.engine.now⟩ m.schema
    (Spec.ofFields []) mode true [(m.schema.primaryKey, key)]

/-- What is handed out of an answer to a plan that reads one row. -/
def handedOut (m : Model) (plan : Plan) (answer : Answered) : Except Failure Record :=
  match answer.rows with
  | [] => .error (.absent .read)
  | row :: _ => do
    let record ← plan.reshape row
    m.hooked .afterRead record none

/-- Some exchange read the row with a key, and `data` was handed out of its answer. -/
def HandedOut (m : Model) (d : Dialect) (xs : List Exchange) (key : Value) (mode : TrashedMode)
    (data : Record) : Prop :=
  ∃ plan, m.keyPlan key mode = .ok plan ∧ ∃ x ∈ xs, plan.fetchSql d = .ok x.statement ∧
    (x.answer d >>= m.handedOut plan) = .ok data

theorem Quiet.fetchRow (quiet : m.Quiet) {key : Value} {mode : TrashedMode}
    {Q : Except Failure Record → List Exchange → Prop} (fails : ∀ failure, Q (.error failure) [])
    (sends : ∀ plan x, m.keyPlan key mode = .ok plan → plan.fetchSql d = .ok x.statement →
      Q (x.answer d >>= m.handedOut plan) [x]) :
    Tells d (m.fetchRow key [] mode) Q := by
  unfold Model.fetchRow planFor planRows
  simp only [bind_assoc, pure_bind]
  refine tells_of_bind (fun failure _ => fails failure) fun plan compiled => tells_log_bind ?_
  refine tells_dialect_bind (tells_of_bind (fun failure _ => fails failure) fun s selected => ?_)
  refine Tells.bind (tells_fetch (fun failure _ => fails failure) fun f made reply => ?_)
  have told := sends plan ⟨f, reply⟩ compiled
    (by simpa only [Plan.fetchSql, selected, ok_bind] using made)
  cases came : (Exchange.mk f reply).answer d with
  | error failure =>
    rw [came] at told
    exact told
  | ok answer =>
    rw [came, ok_bind] at told
    simp only [ok_bind]
    unfold handedOut at told
    cases found : answer.rows with
    | nil =>
      rw [found] at told
      exact tells_fail told
    | cons row rest =>
      rw [found] at told
      simp only at told ⊢
      unfold shown
      refine tells_of_bind (fun failure refused => ?_) fun record reshaped => ?_
      · rw [refused] at told
        exact told
      · rw [reshaped, ok_bind] at told
        refine quiet.atPoint ?_
        cases ran : m.hooked .afterRead record none with
        | error failure =>
          rw [ran] at told
          exact told
        | ok data =>
          rw [ran] at told
          exact told

theorem Quiet.resource (quiet : m.Quiet) {key : Value} {mode : TrashedMode}
    {Q : Except Failure Resource → List Exchange → Prop}
    (fails : ∀ failure, Q (.error failure) [])
    (sends : ∀ plan x, m.keyPlan key mode = .ok plan → plan.fetchSql d = .ok x.statement →
      Q ((x.answer d >>= m.handedOut plan).map fun data =>
        ⟨m.schema.name, m.schema.primaryKey, data⟩) [x]) :
    Tells d (m.resource key mode) Q := by
  refine Tells.bind (quiet.fetchRow fails fun plan x compiled asked => ?_)
  have told := sends plan x compiled asked
  cases handed : x.answer d >>= m.handedOut plan with
  | error failure =>
    rw [handed] at told
    exact told
  | ok data =>
    rw [handed] at told
    exact tells_pure told

theorem tells_visibleResource {key : Value} {Q : Except Failure Resource → List Exchange → Prop}
    (tells : ∀ mode, Tells d (m.resource key mode) Q) : Tells d (m.visibleResource key) Q :=
  tells_mode_bind tells

end Model

end Curator
