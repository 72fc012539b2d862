import Curator.Proofs.Model.Checking
import Curator.Proofs.Model.Parts
/-!
# What the parts of a write send

The checks of a create and of an update, what quiet hooks before the write leave, and the write: at
most one statement is no selection, and it comes after the checks.
-/

set_option autoImplicit false

namespace Curator

open Sql Outcome Session

namespace Model

/-! ## Creating -/

/-- Values for a new row that have passed every check. -/
structure NewChecked (m : Model) (d : Dialect) (fields values : Record) (xs : List Exchange) :
    Prop where
  required : ∀ name ∈ m.schema.required, fields.has name = true
  mutated : ∃ mutated, TransformTable.standard.transformed fields m.schema.mutators = .ok mutated ∧
    values = withDefaults m.schema mutated
  cleared : m.Cleared d fields values [] .null xs

/-- What the hooks before the write make of a new row. -/
def settledNew (m : Model) (values : Record) : Except Failure Record := do
  let values ← m.hooked .beforeWrite values none
  let values ← m.jsonFields values NullableJson.define
  m.hooked .beforeCreate values none

variable {m : Model} {d : Dialect}

theorem prepared_ok {schema : Schema} {kind : WriteKind} {fields values : Record}
    (ok : prepared schema kind fields = .ok values) :
    (∀ field value, (field, value) ∈ fields → schema.fieldErrors field value = .ok []) ∧
      TransformTable.standard.transformed fields schema.mutators = .ok values := by
  obtain ⟨_, checked, mutated⟩ := bind_ok ok
  exact ⟨Schema.fieldErrors_of_writeErrors (Schema.checkWrite_ok checked), mutated⟩

theorem tells_checkedNew (fields : Record) :
    Tells d (m.checkedNew fields) (Returns fun values xs =>
      (∃ mutated, TransformTable.standard.transformed fields m.schema.mutators = .ok mutated ∧
        values = withDefaults m.schema mutated) ∧
      m.Untaken d values [] .null xs ∧
      ((∀ x ∈ xs, x.Natural d) → m.NewChecked d fields values xs)) := by
  refine tells_upserting_bind ?_
  refine tells_of_bind (fun _ _ => nofun) fun _ required => ?_
  refine tells_of_bind (fun _ _ => nofun) fun mutated mutates => ?_
  obtain ⟨rules, transformed⟩ := prepared_ok mutates
  refine tells_checkRelated.bind_returns fun _ xs related => tells_upserting_bind ?_
  refine tells_checkUnique.bind_returns fun _ ys unique => tells_returned ?_
  rw [List.append_nil]
  -- related rows are counted first, so the counts for unique values are among the last
  have untaken : m.Untaken d (withDefaults m.schema mutated) [] .null (xs ++ ys) := by
    intro key member concerned
    obtain ⟨n, none, counted⟩ := unique key member concerned
    exact ⟨n, none, counted.mono (List.subset_append_right _ _)⟩
  refine ⟨⟨mutated, transformed, rfl⟩, untaken, fun natural => ?_⟩
  refine ⟨checkRequired_ok required, ⟨mutated, transformed, rfl⟩, rules, ?_, untaken.counted natural⟩
  intro field target member given
  have before : ∀ x ∈ xs, x.Natural d := fun x inside => natural x (List.mem_append_left _ inside)
  obtain ⟨schema, n, known, positive, counted⟩ := related before field target member given
  exact ⟨schema, n, known, positive, counted.mono (List.subset_append_left _ _)⟩

theorem Quiet.readiedNew (quiet : m.Quiet) {values : Record}
    {Q : Except Failure Record → List Exchange → Prop} (holds : Q (m.settledNew values) []) :
    Tells d (m.readiedNew values) Q := by
  unfold settledNew at holds
  refine Tells.bind (quiet.atPoint ?_)
  cases first : m.hooked .beforeWrite values none with
  | error failure =>
    rw [first] at holds
    exact holds
  | ok given =>
    rw [first, ok_bind] at holds
    refine Tells.bind (tells_definedFields ?_)
    cases json : m.jsonFields given NullableJson.define with
    | error failure =>
      rw [json] at holds
      exact holds
    | ok defined =>
      rw [json, ok_bind] at holds
      exact quiet.atPoint holds

theorem tells_insertRow {values : Record} {Q : Except Failure Unit → List Exchange → Prop}
    (fails : ∀ failure, Q (.error failure) [])
    (sends : ∀ x : Exchange, values ≠ [] → insertion d m.schema.table values .fail
      (some m.schema.primaryKey) = .ok x.statement → ∀ outcome, Q outcome [x]) :
    Tells d (m.insertRow values) Q := by
  refine tells_upserting_bind ?_
  simp only [Bool.false_eq_true, if_false]
  refine Tells.bind (tells_judges.insert (fun failure => fails failure)
    fun f given made reply outcome _ => ?_)
  cases outcome with
  | error failure => exact sends ⟨f, reply⟩ given made _
  | ok n =>
    refine tells_pure ?_
    rw [List.append_nil]
    exact sends ⟨f, reply⟩ given made _

/-- A new row is ready to be inserted once it is checked and the hooks before the write have
returned. -/
def NewReady (m : Model) (d : Dialect) (fields : Record) (before : List Exchange) (row : Record) :
    Prop :=
  (∀ x ∈ before, x.Natural d) → ∃ values, m.NewChecked d fields values before ∧
    m.settledNew values = .ok row

/-- A row is what the mutators, the defaults and the hooks before the write make of some fields. -/
def NewMade (m : Model) (fields row : Record) : Prop :=
  ∃ mutated, TransformTable.standard.transformed fields m.schema.mutators = .ok mutated ∧
    m.settledNew (withDefaults m.schema mutated) = .ok row

theorem Quiet.createRow (quiet : m.Quiet) (fields : Record) :
    Tells d (m.createRow fields) (OneWrite
      (fun before row => m.NewMade fields row ∧ m.NewReady d fields before row) fun row f =>
      insertion d m.schema.table row .fail (some m.schema.primaryKey) = .ok f) := by
  rw [createRow_eq]
  have checks := (checkedNew_reads selecting fields).and (tells_checkedNew (m := m) (d := d) fields)
  refine Tells.bind (checks.mono fun outcome xs checked => ?_)
  cases outcome with
  | error failure => exact OneWrite.of_failed checked.1
  | ok values =>
    refine Tells.bind (quiet.readiedNew ?_)
    cases settled : m.settledNew values with
    | error failure =>
      simp only [List.append_nil]
      exact OneWrite.of_failed checked.1
    | ok row =>
      obtain ⟨⟨mutated, mutates, rfl⟩, _, passed⟩ := checked.2 values rfl
      have ready : m.NewMade fields row ∧ m.NewReady d fields xs row :=
        ⟨⟨mutated, mutates, settled⟩, fun natural => ⟨_, passed natural, settled⟩⟩
      refine tells_log_bind (Tells.bind (tells_insertRow (fun failure => ?_)
        fun x _ made outcome => ?_))
      · simp only [List.append_nil]
        exact OneWrite.of_failed checked.1
      · have sent : ∀ y ∈ some x, insertion d m.schema.table row .fail
            (some m.schema.primaryKey) = .ok y.statement := by
          intro y same
          cases same
          exact made
        cases outcome with
        | error failure => exact OneWrite.of_write (some x) checked.1 ready sent nofun
        | ok u =>
          refine (concludedNew_reads selecting announces_every quiet.steps row).mono fun outcome ys selects => ?_
          exact OneWrite.of_write (some x) checked.1 ready sent selects

/-! ## Updating -/

/-- New values for the row with a key that have passed every check, with the row as it was handed out
and as it is stored. -/
structure ChangeChecked (m : Model) (d : Dialect) (key : Value) (fields values existing stored : Record)
    (xs : List Exchange) : Prop where
  handedOut : ∃ mode, m.HandedOut d xs key mode existing
  mutated : TransformTable.standard.transformed fields m.schema.mutators = .ok values
  found : ∃ x ∈ xs, firstRow d m.schema.table [(m.schema.primaryKey, .eq, key)] = .ok x.statement ∧
    ∃ answer, x.answer d = .ok answer ∧ answer.rows.head?.getD [] = stored
  cleared : m.Cleared d fields values stored key xs

theorem ChangeChecked.mono {m : Model} {d : Dialect} {key : Value}
    {fields values existing stored : Record} {xs ys : List Exchange}
    (checked : m.ChangeChecked d key fields values existing stored xs) (sub : xs ⊆ ys) :
    m.ChangeChecked d key fields values existing stored ys := by
  obtain ⟨mode, plan, compiled, x, member, rest⟩ := checked.handedOut
  obtain ⟨z, inside, found⟩ := checked.found
  exact ⟨⟨mode, plan, compiled, x, sub member, rest⟩, checked.mutated, ⟨z, sub inside, found⟩,
    checked.cleared.mono sub⟩

/-- What the hooks before the write make of the new values, where the JSON column was answered with
given rows. -/
def settledChange (m : Model) (existing values : Record) (rows : List Record) :
    Except Failure Record := do
  let values ← m.hooked .beforeWrite values none
  let values ← m.jsonFields values (mergedJson rows)
  m.hooked .beforeUpdate values (some existing)

theorem Quiet.checkedChange (quiet : m.Quiet) (key : Value) (fields : Record) :
    Tells d (m.checkedChange key fields) (Returns fun found xs => (∀ x ∈ xs, x.Natural d) →
      ∃ stored, m.ChangeChecked d key fields found.2 found.1.data stored xs) := by
  have read : Tells d (m.visibleResource key) (Returns fun existing xs =>
      ∃ mode, m.HandedOut d xs key mode existing.data) := by
    refine tells_visibleResource fun mode => ?_
    refine quiet.resource (fun _ => nofun) fun plan x compiled asked existing same => ?_
    cases handed : x.answer d >>= m.handedOut plan with
    | error failure =>
      rw [handed] at same
      cases same
    | ok data =>
      rw [handed] at same
      cases same
      exact ⟨mode, plan, compiled, x, List.mem_cons_self, asked, handed⟩
  have fetched : Tells d (m.storedRow key) (Returns fun stored xs => ∃ x ∈ xs,
      firstRow d m.schema.table [(m.schema.primaryKey, .eq, key)] = .ok x.statement ∧
        ∃ answer, x.answer d = .ok answer ∧ answer.rows.head?.getD [] = stored) := by
    refine tells_storedRow (fun _ => nofun) fun x asked stored same => ?_
    obtain ⟨answer, answered, made⟩ := bind_ok same
    cases made
    exact ⟨x, List.mem_cons_self, asked, answer, answered, rfl⟩
  refine read.bind_returns fun existing ws handed => ?_
  refine tells_of_bind (fun _ _ => nofun) fun values mutates => ?_
  obtain ⟨rules, transformed⟩ := prepared_ok mutates
  refine tells_checkRelated.bind_returns fun _ xs related => ?_
  refine fetched.bind_returns fun stored ys found => ?_
  refine tells_checkUnique.bind_returns fun _ zs unique => tells_returned fun natural => ⟨stored, ?_⟩
  simp only [List.append_nil, List.forall_mem_append] at natural ⊢
  obtain ⟨_, before, _, after⟩ := natural
  have untaken : m.Untaken d values stored key zs := unique
  obtain ⟨mode, plan, compiled, w, wmember, asked⟩ := handed
  obtain ⟨y, ymember, fetch⟩ := found
  refine ⟨⟨mode, plan, compiled, w, by simp [wmember], asked⟩, transformed,
    ⟨y, by simp [ymember], fetch⟩, rules, ?_, ?_⟩
  · intro field target member given
    obtain ⟨schema, n, known, positive, counted⟩ := related before field target member given
    exact ⟨schema, n, known, positive, counted.mono fun x inside => by simp [inside]⟩
  · intro other member concerned
    exact (untaken.counted after other member concerned).mono fun x inside => by simp [inside]

theorem Quiet.readiedChange (quiet : m.Quiet) (existing : Resource) (values : Record) :
    Tells d (m.readiedChange existing values) (Returns fun row xs =>
      ∃ rows, (rows = [] ∨ ∃ x ∈ xs, ∃ answer, x.answer d = .ok answer ∧ answer.rows = rows) ∧
        m.settledChange existing.data values rows = .ok row) := by
  refine Tells.bind (quiet.atPoint ?_)
  cases first : m.hooked .beforeWrite values none with
  | error failure => exact nofun
  | ok given =>
    refine tells_updatedFields.bind_returns fun json xs told => quiet.atPoint fun row ran => ?_
    obtain ⟨rows, answered, merged⟩ := told
    rw [List.append_nil]
    refine ⟨rows, answered, ?_⟩
    simp only [settledChange, first, merged, ok_bind, ran]

theorem tells_writtenChange {key : Value} {values : Record}
    {Q : Except Failure Unit → List Exchange → Prop} (nothing : values = [] → Q (.ok ()) [])
    (fails : ∀ failure, Q (.error failure) [])
    (sends : ∀ x : Exchange, values ≠ [] →
      updateSql d m.schema.table values [(m.schema.primaryKey, key)] = .ok x.statement →
        ∀ outcome, Q outcome [x]) :
    Tells d (m.writtenChange key values) Q := by
  unfold writtenChange
  split
  · rename_i empty
    exact tells_pure (nothing (List.isEmpty_iff.mp empty))
  · rename_i given
    refine tells_log_bind (Tells.bind (tells_judges.update ?_ (fun failure => fails failure)
      fun f some_values made reply => ?_))
    · intro empty
      rw [empty] at given
      exact absurd rfl given
    · have sent := sends ⟨f, reply⟩ some_values made
      cases (Exchange.mk f reply).answer d with
      | error failure => exact sent _
      | ok answer => exact tells_pure (sent _)

/-- New values are ready to be written once they are checked and the hooks before the write have
returned. -/
def ChangeReady (m : Model) (d : Dialect) (key : Value) (fields : Record) (before : List Exchange)
    (row : Record) : Prop :=
  (∀ x ∈ before, x.Natural d) → ∃ existing values stored rows,
    m.ChangeChecked d key fields values existing stored before ∧
    (rows = [] ∨ ∃ x ∈ before, ∃ answer, x.answer d = .ok answer ∧ answer.rows = rows) ∧
    m.settledChange existing values rows = .ok row

theorem Quiet.updateRow (quiet : m.Quiet) (key : Value) (fields : Record) :
    Tells d (m.updateRow key fields) (OneWrite (m.ChangeReady d key fields) fun row f =>
      updateSql d m.schema.table row [(m.schema.primaryKey, key)] = .ok f) := by
  rw [updateRow_eq]
  have checks := (checkedChange_reads selecting quiet.steps key fields).and
    (quiet.checkedChange (d := d) key fields)
  refine Tells.bind (checks.mono fun outcome xs checked => ?_)
  cases outcome with
  | error failure => exact OneWrite.of_failed checked.1
  | ok pair =>
    rcases pair with ⟨existing, values⟩
    have readies := (readiedChange_reads selecting quiet.steps existing values).and
      (quiet.readiedChange (d := d) existing values)
    refine Tells.bind (readies.mono fun outcome ys settled => ?_)
    have before_write : ∀ x ∈ xs ++ ys, x.statement.Selects :=
      List.forall_mem_append.mpr ⟨checked.1, settled.1⟩
    cases outcome with
    | error failure => exact OneWrite.of_failed before_write
    | ok row =>
      have ready : m.ChangeReady d key fields (xs ++ ys) row := by
        intro natural
        obtain ⟨stored, passed⟩ := checked.2 (existing, values) rfl fun x member =>
          natural x (List.mem_append_left _ member)
        obtain ⟨rows, answered, ran⟩ := settled.2 row rfl
        refine ⟨existing.data, values, stored, rows, passed.mono (List.subset_append_left _ _), ?_,
          ran⟩
        rcases answered with none | ⟨x, member, answer, came, same⟩
        · exact Or.inl none
        · exact Or.inr ⟨x, List.mem_append_right _ member, answer, came, same⟩
      refine Tells.bind (tells_writtenChange (fun _ => ?_) (fun failure => ?_)
        fun x _ made outcome => ?_)
      · refine (concludedChange_reads selecting announces_every quiet.steps key existing row).mono
          fun outcome zs selects => ?_
        have written : OneWrite (m.ChangeReady d key fields) (fun row f =>
            updateSql d m.schema.table row [(m.schema.primaryKey, key)] = .ok f) outcome
            (xs ++ ys ++ zs) := OneWrite.of_write none before_write ready nofun selects
        rw [List.append_assoc] at written
        exact written
      · rw [List.append_nil]
        exact OneWrite.of_failed before_write
      · have sent : ∀ y ∈ some x,
            updateSql d m.schema.table row [(m.schema.primaryKey, key)] = .ok y.statement := by
          intro y same
          cases same
          exact made
        cases outcome with
        | error failure =>
          rw [← List.append_assoc]
          exact OneWrite.of_write (some x) before_write ready sent nofun
        | ok u =>
          refine (concludedChange_reads selecting announces_every quiet.steps key existing row).mono
            fun outcome zs selects => ?_
          rw [← List.append_assoc]
          exact OneWrite.of_write (some x) before_write ready sent selects

end Model

/-!
## Models without hooks

On a model without hooks an operation is its work alone, and what is written of the columns of a unique
constraint is what was checked of them.
-/

namespace Model

/-- A model without hooks.  A JSON column is put in order by a hook of its kind of model, which is
well as long as the column is part of no unique constraint. -/
structure Unhooked (m : Model) : Prop where
  hooks : m.schema.hooks = []
  json : ∀ column, m.kind.capabilities.nullableJson = some column →
    ∀ unique ∈ m.schema.unique, column ∉ unique.columns

variable {m : Model} {fields values settled existing : Record} {unique : UniqueKey}

section

variable (bare : m.schema.hooks = [])

include bare

theorem hookNames_of_bare (point : HookPoint) : m.schema.hookNames point.name = [] := by
  unfold Schema.hookNames
  rw [bare]
  rfl

theorem quiet_of_bare : m.Quiet := by
  intro point name member
  rw [hookNames_of_bare bare] at member
  cases member

theorem atPoint_of_bare (point : HookPoint) (record : Record) (previous : Option Record) :
    m.atPoint point record previous = pure record := by
  unfold Model.atPoint
  rw [hookNames_of_bare bare]

theorem hooked_of_bare (point : HookPoint) (record : Record) (previous : Option Record) :
    m.hooked point record previous = .ok record := by
  unfold Model.hooked
  rw [hookNames_of_bare bare]
  rfl

theorem notify_of_bare (point : HookPoint) (record : Record) (previous : Option Record) :
    m.notify point record previous = pure () := by
  unfold Model.notify
  rw [atPoint_of_bare bare]
  rfl

theorem tracked_of_bare {α : Type} (work : Session α) (s : SessionState) :
    (m.tracked work s).outcome = (work (s.inside true)).outcome ∧
      (m.tracked work s).entries = (work (s.inside true)).entries := by
  unfold Model.tracked outermost
  rw [notify_of_bare bare, notify_of_bare bare]
  cases begun : s.model.begun with
  | true =>
    have same : s.inside true = s := by
      unfold SessionState.inside
      rw [← begun]
    simp only [if_true, same, and_self]
  | false =>
    simp only [Bool.false_eq_true, if_false, pure_bind, bind_pure]
    exact ⟨rfl, rfl⟩

end

theorem Unhooked.quiet (unhooked : m.Unhooked) : m.Quiet := quiet_of_bare unhooked.hooks

/-- The JSON column is the only one that is not written as it was checked. -/
theorem jsonFields_other {change : String → Value → Except Failure Record} {column : String}
    (ok : m.jsonFields fields change = .ok settled)
    (plain : m.kind.capabilities.nullableJson ≠ some column) :
    settled.value? column = fields.value? column := by
  unfold jsonFields at ok
  split at ok
  · cases ok
    rfl
  · rename_i json capable
    split at ok
    · cases ok
      rfl
    · obtain ⟨data, _, ok⟩ := bind_ok ok
      obtain ⟨changed, _, ok⟩ := bind_ok ok
      obtain ⟨text, _, ok⟩ := bind_ok ok
      cases pure_ok ok
      rw [Mapping.value?_put, if_neg]
      rintro rfl
      exact plain capable

theorem Unhooked.written (unhooked : m.Unhooked) {change : String → Value → Except Failure Record}
    (ok : m.jsonFields fields change = .ok settled) (member : unique ∈ m.schema.unique) :
    ∀ column ∈ unique.columns, settled.value? column = fields.value? column := by
  intro column inside
  exact jsonFields_other ok fun json => unhooked.json column json unique member inside

theorem Unhooked.settledNew (unhooked : m.Unhooked) (ok : m.settledNew values = .ok settled)
    (member : unique ∈ m.schema.unique) :
    ∀ column ∈ unique.columns, settled.value? column = values.value? column := by
  simp only [Model.settledNew, hooked_of_bare unhooked.hooks, ok_bind] at ok
  obtain ⟨json, changed, same⟩ := bind_ok ok
  cases same
  exact unhooked.written changed member

theorem Unhooked.settledChange (unhooked : m.Unhooked) {answered : List Record}
    (ok : m.settledChange existing values answered = .ok settled)
    (member : unique ∈ m.schema.unique) :
    ∀ column ∈ unique.columns, settled.value? column = values.value? column := by
  simp only [Model.settledChange, hooked_of_bare unhooked.hooks, ok_bind] at ok
  obtain ⟨json, changed, same⟩ := bind_ok ok
  cases same
  exact unhooked.written changed member

end Model

end Curator
