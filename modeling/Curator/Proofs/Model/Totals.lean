import Curator.Model.Collection
import Curator.Proofs.Database.Recorded
import Curator.Proofs.Database.World
import Curator.Proofs.Lifecycle.Visibility
import Curator.Proofs.Plan.Whole
/-!
# Counts and the rows they count

The total of a collection, the count of a resource and the look whether a key is there are questions
of their own, put to the database apart from the statements that fetch rows.  They are about the same
rows: whatever the tables, the numbers they find are those of the rows that would be fetched.
-/

set_option autoImplicit false

namespace Curator

open Sql Outcome Session

/-! ## One number of rows -/

namespace Sql

variable {d : Dialect} {table : String} {tests : List ColumnTest} {s : Select}

theorem Select.Begun.exists_countSql (begun : s.Begun) : ∃ f, s.countSql = .ok f := by
  obtain ⟨name, named⟩ := Option.isSome_iff_exists.mp begun.1
  have known : Aggregate.ofValue (.str "COUNT") = .ok ⟨"COUNT", "COUNT", false⟩ := by rfl
  unfold Select.countSql Select.aggregateSql Select.fromClause
  rw [known, named, begun.2]
  simp only [ok_bind]
  split
  · exact ⟨_, rfl⟩
  · exact ⟨_, rfl⟩

theorem tested_append (d : Dialect) (table : String) (tests others : List ColumnTest) :
    tested d table (tests ++ others) = tested d table tests >>= fun s =>
      others.foldlM (fun s (name, operator, operand) =>
        s.where_ .and ⟨name, some table, []⟩ operator operand) s := by
  simp only [tested, List.foldlM_append, bind_assoc]

/-- What is refused by itself is refused with more tests behind it. -/
theorem tested_refused {others : List ColumnTest} {failure : Failure}
    (refused : tested d table tests = .error failure) :
    tested d table (tests ++ others) = .error failure := by
  rw [tested_append, refused]
  rfl

theorem tested_made (ok : tested d table tests = .ok s) : s.Made := by
  obtain ⟨base, opened, run⟩ := bind_ok ok
  exact foldlM_keeps (P := Select.Made) (fun _ _ _ _ made ok => .where_ made ok)
    (.from_ (.new d) opened) run

theorem tested_begun (ok : tested d table tests = .ok s) : s.Begun ∧ s.dialect = d := by
  obtain ⟨fs, rfl, _⟩ := tested_ok ok
  exact ⟨⟨rfl, rfl⟩, rfl⟩

end Sql

section

variable {Row : Type} {d : Dialect} {mode : TrashedMode}

/-- Where the rows of a plan are fetched they can be counted, and the count is the number of rows that
the query has without its limits. -/
theorem Plan.exists_total (w : World Row) {plan : Plan} {f : Fragment}
    (ok : plan.fetchSql d = .ok f) : ∃ q t g, f.question? d = some (.rows q) ∧
      plan.selection d false = .ok t ∧ t.countSql = .ok g ∧
      ∀ x : Exchange, x.statement = g → w.Answers d x → x.count d = .ok (w.size q) := by
  obtain ⟨s, fetched, written⟩ := Plan.fetchSql_ok ok
  obtain ⟨counted, _⟩ := Plan.selection_core fetched
  obtain ⟨table, _, _, named, closed, _⟩ := Select.toSql_ok written
  have begun : s.core.Begun := ⟨Option.isSome_iff_exists.mpr ⟨table, named⟩, closed⟩
  obtain ⟨g, counts⟩ := begun.exists_countSql
  obtain ⟨q, asks, told, _⟩ := s.agrees_core.exists_size w (Plan.selection_made fetched)
    (Plan.selection_made counted) (Plan.selection_dialect fetched) (Plan.selection_dialect counted)
    written counts
  exact ⟨q, s.core, g, asks, counted, counts, told⟩

/-- The rows of a plan of a table can be fetched if those of the same tests can be counted, and both
tell the same number. -/
theorem Plan.OfTable.exists_number {schema : Schema} {tests others : List ColumnTest} {plan : Plan}
    {t : Select} (whole : plan.OfTable schema tests) (w : World Row) (checked : schema.Checked)
    (perm : tests.Perm others) (counted : tested d schema.table others = .ok t) :
    ∃ s f g, ∃ n : Nat, plan.selection d true = .ok s ∧ s.toSql = .ok f ∧ t.countSql = .ok g ∧
      (∀ x : Exchange, x.statement = f → w.Answers d x →
        ∃ answer, x.answer d = .ok answer ∧ answer.rows.length = n) ∧
      ∀ x : Exchange, x.statement = g → w.Answers d x → x.count d = .ok n := by
  have each := (exists_tested_iff checked.table).mp ⟨t, counted⟩
  obtain ⟨u, reordered⟩ := (exists_tested_iff checked.table).mpr fun test member =>
    each test (perm.mem_iff.mp member)
  obtain ⟨s, f, fetched, same, limit, offset, written⟩ := whole.exists_fetched checked reordered
  obtain ⟨begun, speaks⟩ := tested_begun counted
  obtain ⟨g, counts⟩ := begun.exists_countSql
  have agrees : s.Agrees t := by
    refine s.agrees_core.trans ?_
    rw [same]
    exact tested_agrees perm reordered counted
  obtain ⟨q, _, told, shown⟩ := agrees.exists_size w (Plan.selection_made fetched)
    (tested_made counted) (Plan.selection_dialect fetched) speaks written counts
  exact ⟨s, f, g, w.size q, fetched, written, counts, shown limit offset, told⟩

end

/-! ## The questions of a model -/

namespace Model

variable {m : Model} {d : Dialect} {mode : TrashedMode} {α : Type}

theorem visible_eq (m : Model) (s : Select) (mode : TrashedMode) : m.visible s mode =
    Session.of ((m.schema.visibleTests mode).foldlM (fun s (name, operator, operand) =>
      s.where_ .and ⟨name, some m.schema.table, []⟩ operator operand) s) := by
  have one : ∀ operator operand, narrowed s (m.column m.schema.deletedAtColumn) operator operand =
      Session.of ([(m.schema.deletedAtColumn, operator, operand)].foldlM
        (fun s (name, operator, operand) =>
          s.where_ .and ⟨name, some m.schema.table, []⟩ operator operand) s) := by
    intro operator operand
    rw [List.foldlM_cons]
    simp only [List.foldlM_nil, bind_pure]
    rfl
  unfold visible Schema.visibleTests
  cases m.schema.softDeletes with
  | false => rfl
  | true =>
    cases mode with
    | include_ => rfl
    | only => exact one _ _
    | exclude => exact one _ _

variable {β : Type} {tests : List ColumnTest} {s : Select} {next : Select → Session β}
  {R : Except Failure β → List Exchange → Prop}

theorem yields_rows_bind
    (fails : ∀ failure, tested d m.schema.table [] = .error failure → R (.error failure) [])
    (goes : ∀ s, tested d m.schema.table [] = .ok s → Yields d mode (next s) R) :
    Yields d mode (m.rows >>= next) R := by
  have alone : tested d m.schema.table [] = (Select.new d).from_ m.schema.table := bind_pure _
  rw [alone] at fails goes
  unfold rows rowsOf
  rw [bind_assoc]
  exact yields_dialect_bind (yields_of_bind fails goes)

theorem yields_narrowed_bind {name : String} {operator : Operator} {operand : Value}
    (before : tested d m.schema.table tests = .ok s)
    (fails : ∀ failure, tested d m.schema.table (tests ++ [(name, operator, operand)]) =
      .error failure → R (.error failure) [])
    (goes : ∀ t, tested d m.schema.table (tests ++ [(name, operator, operand)]) = .ok t →
      Yields d mode (next t) R) :
    Yields d mode (narrowed s (m.column name) operator operand >>= next) R := by
  have one : tested d m.schema.table (tests ++ [(name, operator, operand)]) =
      s.where_ .and (m.column name) operator operand := by
    rw [tested_append, before, ok_bind, List.foldlM_cons]
    simp only [List.foldlM_nil, bind_pure]
    rfl
  rw [one] at fails goes
  exact yields_of_bind fails goes

/-- Narrowing a selection to visible rows adds their tests to those it has. -/
theorem yields_visible_bind (before : tested d m.schema.table tests = .ok s)
    (fails : ∀ failure, tested d m.schema.table (tests ++ m.schema.visibleTests mode) =
      .error failure → R (.error failure) [])
    (goes : ∀ t, tested d m.schema.table (tests ++ m.schema.visibleTests mode) = .ok t →
      Yields d mode (next t) R) : Yields d mode (m.visible s mode >>= next) R := by
  rw [tested_append, before, ok_bind] at fails goes
  rw [visible_eq]
  exact yields_of_bind fails goes

/-- Counting asks for the number of the rows that a mode makes visible. -/
theorem yields_countVisible {Q : Except Failure Int → List Exchange → Prop}
    (fails : ∀ failure, tested d m.schema.table (m.schema.visibleTests mode) = .error failure →
      Q (.error failure) [])
    (goes : ∀ s, tested d m.schema.table (m.schema.visibleTests mode) = .ok s →
      Yields d mode (total s) Q) : Yields d mode m.countVisible Q := by
  refine yields_rows_bind (fun failure refused => fails failure (tested_refused refused))
    fun base opened => yields_mode_bind ?_
  exact yields_visible_bind opened fails goes

/-- The tests by which a key is looked for among the rows that a mode makes visible. -/
def keyTests (m : Model) (mode : TrashedMode) (key : Value) : List ColumnTest :=
  (m.schema.primaryKey, .eq, key) :: m.schema.visibleTests mode

theorem yields_hasKey {key : Value} {Q : Except Failure Bool → List Exchange → Prop}
    (fails : ∀ failure, tested d m.schema.table (m.keyTests mode key) = .error failure →
      Q (.error failure) [])
    (goes : ∀ s, tested d m.schema.table (m.keyTests mode key) = .ok s →
      Yields d mode (total s) fun outcome xs => Q (outcome.map fun n => decide (0 < n)) xs) :
    Yields d mode (m.hasKey key) Q := by
  refine yields_rows_bind (fun failure refused => fails failure (tested_refused refused))
    fun base opened => yields_narrowed_bind opened
      (fun failure refused => fails failure (tested_refused refused))
      fun s keyed => yields_mode_bind ?_
  exact yields_visible_bind keyed fails fun t seen => (goes t seen).map

/-! ## Plans -/

/-- Work with the rows of a plan, once it is compiled. -/
theorem yields_planned_bind {spec : Spec} {sees : TrashedMode} {all : Bool} {equals : Record}
    {plan : Plan} {next : Plan → List Record → Session β}
    (compiled : Plan.compile ⟨m.engine.registry, m.engine.registry.settings, m.engine.now⟩ m.schema
      spec sees all equals = .ok plan)
    (fails : ∀ failure, plan.selection d true = .error failure → R (.error failure) [])
    (goes : ∀ s, plan.selection d true = .ok s → Yields d mode (fetch s >>= next plan) R) :
    Yields d mode (do
      let plan ← m.planFor spec sees all equals
      let rows ← planRows plan
      next plan rows) R := by
  unfold planFor planRows
  simp only [bind_assoc, pure_bind]
  refine yields_of_bind (fun failure refused => nomatch compiled.symm.trans refused)
    fun other same => ?_
  cases Except.ok.inj (compiled.symm.trans same)
  exact yields_log_bind (yields_dialect_bind (yields_of_bind fails goes))

/-! ## What is shown -/

/-- Work on each of several rows has a result for each. -/
theorem records_each {f : Record → Session Record} (rows : List Record) :
    Records (fun _ => True) (fun records : List Record => records.length = rows.length)
      (rows.mapM f) := by
  induction rows with
  | nil => exact records_pure rfl
  | cons row rest ih =>
    have one : Records (fun _ => True) (fun _ => True) (f row) :=
      ⟨fun _ _ _ => trivial, fun _ _ _ => trivial⟩
    rw [List.mapM_cons]
    exact one.bind fun record _ => ih.bind fun records length => records_pure (by simp [length])

/-- A listing of all rows of a reply: it fails only where showing one of them does, and otherwise has
one record for each. -/
def ListsAll (m : Model) (d : Dialect) (n : Nat) (x : Exchange)
    (outcome : Except Failure Collection) : Prop :=
  ∃ answer plan s, x.answer d = .ok answer ∧ answer.rows.length = n ∧
    outcome.map (·.rows) = (answer.rows.mapM (m.shown plan) s).outcome ∧
    ∀ c, outcome = .ok c → c.rows.length = n

/-- A row that is read from a reply: the first one as it is shown, or none if there is none. -/
def ReadsFirst (m : Model) (d : Dialect) (n : Nat) (x : Exchange)
    (outcome : Except Failure Record) : Prop :=
  ∃ answer, x.answer d = .ok answer ∧ answer.rows.length = n ∧
    match answer.rows with
    | [] => outcome = .error (.absent .read)
    | row :: _ => ∃ plan s, outcome = (m.shown plan row s).outcome

/-- The plan of a request for everything. -/
def wholePlan (m : Model) (mode : TrashedMode) (equals : Record) : Except Failure Plan :=
  Plan.compile ⟨m.engine.registry, m.engine.registry.settings, m.engine.now⟩ m.schema Spec.all mode
    true equals

theorem yields_listing {plan : Plan} {Q : Except Failure Collection → List Exchange → Prop}
    (compiled : m.wholePlan mode [] = .ok plan)
    (fails : ∀ failure, plan.selection d true = .error failure → Q (.error failure) [])
    (goes : ∀ s, plan.selection d true = .ok s → Yields d mode (fetch s >>= fun rows =>
      rows.mapM (m.shown plan) >>= fun shown => pure ⟨plan, Spec.all, shown,
        rows.map fun row => (row.value? plan.schema.cursorField).getD .null, 1⟩) Q) :
    Yields d mode (m.listing .null true) Q := by
  have everything : Spec.ofRaw .null = .ok Spec.all := by rfl
  unfold listing
  refine yields_of_bind (fun failure refused => nomatch everything.symm.trans refused)
    fun spec same => yields_mode_bind ?_
  cases Except.ok.inj (everything.symm.trans same)
  exact yields_planned_bind compiled fails goes

theorem yields_readRow {key : Value} {plan : Plan} {Q : Except Failure Record → List Exchange → Prop}
    (compiled : m.wholePlan mode [(m.schema.primaryKey, key)] = .ok plan)
    (fails : ∀ failure, plan.selection d true = .error failure → Q (.error failure) [])
    (goes : ∀ s, plan.selection d true = .ok s → Yields d mode (fetch s >>= fun rows =>
      match rows with
      | [] => Session.fail (.absent .read)
      | row :: _ => m.shown plan row) Q) :
    Yields d mode (m.readRow key []) Q :=
  yields_mode_bind (yields_planned_bind compiled fails goes)

theorem lists_all {plan : Plan} {x : Exchange} {answer : Answered} {n : Nat}
    (answered : x.answer d = .ok answer) (length : answer.rows.length = n) (s : SessionState) :
    m.ListsAll d n x ((answer.rows.mapM (m.shown plan) >>= fun shown => pure ⟨plan, Spec.all, shown,
      answer.rows.map fun row => (row.value? plan.schema.cursorField).getD .null, 1⟩ :
        Session Collection) s).outcome := by
  have shown := records_each (f := m.shown plan) answer.rows
  rw [(ran_map _ _ s).1]
  refine ⟨answer, plan, s, answered, length, ?_, ?_⟩
  · cases (answer.rows.mapM (m.shown plan) s).outcome <;> rfl
  · intro c same
    cases came : (answer.rows.mapM (m.shown plan) s).outcome with
    | error failure =>
      rw [came] at same
      cases same
    | ok records =>
      rw [came] at same
      cases same
      exact (shown.result s records came).trans length

theorem reads_first (plan : Plan) {x : Exchange} {answer : Answered} {n : Nat}
    (answered : x.answer d = .ok answer) (length : answer.rows.length = n) (s : SessionState) :
    m.ReadsFirst d n x ((match answer.rows with
      | [] => Session.fail (.absent .read)
      | row :: _ => m.shown plan row) s).outcome := by
  refine ⟨answer, answered, length, ?_⟩
  cases answer.rows with
  | nil => rfl
  | cons row rest => exact ⟨plan, s, rfl⟩

end Model

/-! ## Totals, counts and keys -/

theorem Collection.yields_total {Row : Type} (w : World Row) {d : Dialect} (mode : TrashedMode)
    (c : Collection) {f : Fragment} (ok : c.plan.fetchSql d = .ok f) :
    ∃ q, f.question? d = some (.rows q) ∧ Yields d mode c.total
      (Asks w d fun _ outcome => outcome = .ok (w.returned q.unbounded : Int)) := by
  obtain ⟨q, t, g, asks, counted, counts, told⟩ := Plan.exists_total w ok
  refine ⟨q, asks, yields_dialect_bind (yields_of_bind
    (fun failure refused => nomatch counted.symm.trans refused) fun other same => ?_)⟩
  cases Except.ok.inj (counted.symm.trans same)
  rw [w.returned_unbounded]
  exact Session.yields_total counts told

namespace Model

variable {Row : Type} {m : Model} {d : Dialect} {mode : TrashedMode} {equals : Record}
  {others : List ColumnTest}

/-- A whole table by tests that can be made: its rows are counted and fetched, and the tables tell
one number for both. -/
theorem exists_wholeNumber (w : World Row) (checked : m.schema.Checked)
    (perm : (Plan.wholeTests m.schema mode equals).Perm others)
    (each : ∀ test ∈ others, ∃ f, testPredicate d m.schema.table test = .ok f) :
    ∃ plan s f t g, ∃ n : Nat, m.wholePlan mode equals = .ok plan ∧
      plan.selection d true = .ok s ∧ s.toSql = .ok f ∧
      tested d m.schema.table others = .ok t ∧ t.countSql = .ok g ∧
      (∀ x : Exchange, x.statement = f → w.Answers d x →
        ∃ answer, x.answer d = .ok answer ∧ answer.rows.length = n) ∧
      ∀ x : Exchange, x.statement = g → w.Answers d x → x.count d = .ok n := by
  obtain ⟨plan, compiled, whole⟩ := Plan.exists_whole checked
    ⟨m.engine.registry, m.engine.registry.settings, m.engine.now⟩ mode equals
  obtain ⟨t, counted⟩ := (exists_tested_iff checked.table).mpr each
  obtain ⟨s, f, g, n, fetched, written, counts, rows, number⟩ :=
    whole.exists_number w checked perm counted
  exact ⟨plan, s, f, t, g, n, compiled, fetched, written, counted, counts, rows, number⟩

/-- By tests that cannot be made a whole table is neither counted nor fetched. -/
theorem whole_refused (checked : m.schema.Checked)
    (perm : (Plan.wholeTests m.schema mode equals).Perm others)
    (none : ¬ ∀ test ∈ others, ∃ f, testPredicate d m.schema.table test = .ok f) :
    (∀ t, tested d m.schema.table others ≠ .ok t) ∧
      ∃ plan, m.wholePlan mode equals = .ok plan ∧ ∀ s, plan.selection d true ≠ .ok s := by
  obtain ⟨plan, compiled, whole⟩ := Plan.exists_whole checked
    ⟨m.engine.registry, m.engine.registry.settings, m.engine.now⟩ mode equals
  refine ⟨fun t counted => none ((exists_tested_iff checked.table).mp ⟨t, counted⟩), plan, compiled,
    fun s fetched => none fun test member => ?_⟩
  have counted := (Plan.selection_core fetched).1
  rw [whole.selection_eq] at counted
  exact (exists_tested_iff checked.table).mp ⟨_, counted⟩ test (perm.mem_iff.mpr member)

theorem perm_visibleTests (schema : Schema) (mode : TrashedMode) :
    (Plan.wholeTests schema mode []).Perm (schema.visibleTests mode) := by
  simp [Plan.wholeTests]

theorem perm_keyTests (m : Model) (mode : TrashedMode) (key : Value) :
    (Plan.wholeTests m.schema mode [(m.schema.primaryKey, key)]).Perm (m.keyTests mode key) :=
  List.perm_append_singleton _ _

theorem exists_keyTests_iff (checked : m.schema.Checked) {key : Value} :
    (∀ test ∈ m.keyTests mode key, ∃ f, testPredicate d m.schema.table test = .ok f) ↔
      (scalar key).isOk = true ∧ m.schema.MarkNamed mode := by
  rw [keyTests, List.forall_mem_cons, Schema.exists_keyed_iff checked,
    Schema.exists_visible_iff checked]

end Model

/-- Totals, counts and looks for a key are about the rows that are fetched, whatever the tables.  The
total of a collection is the number of rows, or of groups, that its statement has without limits.  In
every mode the count of a resource is the number of rows in a listing of everything, and a key is
there exactly if reading it finds a row.  Where the mark of trashed rows cannot be written in a
statement, or a key cannot be compared, both fail and ask nothing. -/
theorem counts_agree_with_rows {Row : Type} (w : World Row) (m : Model) (d : Dialect)
    (mode : TrashedMode) (declared : m.schema.Declared) :
    (∀ (c : Collection) (f : Fragment), c.plan.fetchSql d = .ok f →
      ∃ q, f.question? d = some (.rows q) ∧ Yields d mode c.total
        (Asks w d fun _ outcome => outcome = .ok (w.returned q.unbounded : Int))) ∧
    (m.schema.MarkNamed mode → ∃ n : Nat,
      Yields d mode m.countVisible (Asks w d fun _ outcome => outcome = .ok (n : Int)) ∧
      Yields d mode (m.listing .null true) (Asks w d (m.ListsAll d n))) ∧
    (¬ m.schema.MarkNamed mode →
      Yields d mode m.countVisible Refused ∧ Yields d mode (m.listing .null true) Refused) ∧
    ∀ key : Value,
      ((scalar key).isOk = true ∧ m.schema.MarkNamed mode → ∃ n : Nat,
        Yields d mode (m.hasKey key) (Asks w d fun _ outcome => outcome = .ok (decide (0 < n))) ∧
        Yields d mode (m.readRow key []) (Asks w d (m.ReadsFirst d n))) ∧
      (¬ ((scalar key).isOk = true ∧ m.schema.MarkNamed mode) →
        Yields d mode (m.hasKey key) Refused ∧ Yields d mode (m.readRow key []) Refused) := by
  have checked := declared.checked
  refine ⟨fun c f ok => c.yields_total w mode ok, fun named => ?_, fun unnamed => ?_,
    fun key => ⟨fun given => ?_, fun refused => ?_⟩⟩
  · obtain ⟨plan, s, f, t, g, n, compiled, fetched, written, counted, counts, rows, number⟩ :=
      Model.exists_wholeNumber (d := d) w checked (Model.perm_visibleTests m.schema mode)
        ((Schema.exists_visible_iff checked).mpr named)
    refine ⟨n, Model.yields_countVisible (fun _ failed => nomatch counted.symm.trans failed)
      fun u same => ?_, Model.yields_listing compiled
        (fun _ failed => nomatch fetched.symm.trans failed) fun u same => ?_⟩
    · cases Except.ok.inj (counted.symm.trans same)
      exact Session.yields_total counts number
    · cases Except.ok.inj (fetched.symm.trans same)
      exact yields_fetch_bind written rows fun x answer s answered length =>
        Model.lists_all answered length s
  · obtain ⟨uncounted, plan, compiled, unfetched⟩ :=
      Model.whole_refused (d := d) checked (Model.perm_visibleTests m.schema mode) fun each =>
        unnamed ((Schema.exists_visible_iff checked).mp each)
    exact ⟨Model.yields_countVisible (fun _ _ => refused_of) fun s same => absurd same (uncounted s),
      Model.yields_listing compiled (fun _ _ => refused_of)
        fun s same => absurd same (unfetched s)⟩
  · obtain ⟨plan, s, f, t, g, n, compiled, fetched, written, counted, counts, rows, number⟩ :=
      Model.exists_wholeNumber (d := d) w checked (m.perm_keyTests mode key)
        ((Model.exists_keyTests_iff checked).mpr given)
    refine ⟨n, Model.yields_hasKey (fun _ failed => nomatch counted.symm.trans failed)
      fun u same => ?_, Model.yields_readRow compiled
        (fun _ failed => nomatch fetched.symm.trans failed) fun u same => ?_⟩
    · cases Except.ok.inj (counted.symm.trans same)
      refine (Session.yields_total counts number).mono fun outcome xs asks => ?_
      obtain ⟨x, rest, exchanged, found⟩ := asks
      refine ⟨x, rest, exchanged, fun answers => ?_⟩
      rw [found answers]
      simp [Except.map]
    · cases Except.ok.inj (fetched.symm.trans same)
      exact yields_fetch_bind written rows fun x answer s answered length =>
        Model.reads_first plan answered length s
  · obtain ⟨uncounted, plan, compiled, unfetched⟩ :=
      Model.whole_refused (d := d) checked (m.perm_keyTests mode key) fun each =>
        refused ((Model.exists_keyTests_iff checked).mp each)
    exact ⟨Model.yields_hasKey (fun _ _ => refused_of) fun s same => absurd same (uncounted s),
      Model.yields_readRow compiled (fun _ _ => refused_of)
        fun s same => absurd same (unfetched s)⟩

namespace Sample

/-- Three folders, the last of which is in the trash. -/
def folderWorld : World Nat where
  rows table := if table = "folders" then [1, 2, 3] else []
  test
    | [(_, some row)], [.quoted _ _, .sign _, .quoted _ _, .word _, .word _] =>
      if row = 3 then .no else .yes
    | _, _ => .unknown
  group _ _ := 0

/-- The statement that counts folders. -/
def foldersCounted : Fragment :=
  ⟨"SELECT COUNT(*) AS \"aggregate\" FROM \"folders\" WHERE \"folders\".\"deleted_at\" IS NULL", []⟩

/-- The number of rows in these tables, where a question asks for one. -/
def folderNumber? : Question → Option Nat
  | .count q => some (folderWorld.returned q)
  | .rows _ => none

/-- Two is the true reply to it. -/
theorem folderWorld_answers :
    folderWorld.Answers .sqlite ⟨foldersCounted, some (countReply 2)⟩ := by
  have two : (foldersCounted.question? .sqlite).bind folderNumber? = some 2 := by decide +kernel
  constructor
  · intro q asks
    rw [asks] at two
    cases two
  · intro q asks
    rw [asks] at two
    rw [Option.some.inj two]
    rfl

/-- Folders that are not in the trash are two, whether they are counted or listed. -/
theorem two_folders_counted_and_listed :
    Yields .sqlite .exclude folderModel.countVisible
      (Asks folderWorld .sqlite fun _ outcome => outcome = .ok 2) ∧
    Yields .sqlite .exclude (folderModel.listing .null true)
      (Asks folderWorld .sqlite (folderModel.ListsAll .sqlite 2)) := by
  have named : folderModel.schema.MarkNamed .exclude := fun _ _ => by decide +kernel
  have agree := counts_agree_with_rows folderWorld folderModel .sqlite .exclude folder_declared
  obtain ⟨n, counts, lists⟩ := agree.2.1 named
  -- one true reply tells what the number is
  obtain ⟨x, rest, sent, found⟩ := counts (pageState [countReply 2]) [countReply 2] rfl rfl rfl
  have statement : statements (folderModel.countVisible (pageState [countReply 2])).entries =
      [foldersCounted] := statements_known [(foldersCounted.sql, [])] (by decide +kernel)
  rw [Ran.sent, statement] at sent
  obtain ⟨rfl, rfl⟩ := List.cons.inj sent
  have two : (folderModel.countVisible (pageState [countReply 2])).outcome.toOption = some 2 := by
    decide +kernel
  generalize (folderModel.countVisible (pageState [countReply 2])).outcome = outcome at two found
  have same := found folderWorld_answers
  rw [same] at two
  cases Int.ofNat.inj (Option.some.inj two)
  exact ⟨counts, lists⟩

end Sample

end Curator
