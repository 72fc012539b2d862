import Curator.Model.Write
import Curator.Proofs.Model.Reading
/-!
# What checking sends

The checks before a write count related rows and rows with the same unique values, and do nothing
else.  Fields that have been through all of them are in the form that is written, and every count that
was needed has been answered as it has to be.
-/

set_option autoImplicit false

namespace Curator

open Sql Outcome Session

/-- An answer that is a sensible number of rows, where rows were counted. -/
def Exchange.Natural (d : Dialect) (x : Exchange) : Prop :=
  x.statement.Counts → ∀ n, x.count d = .ok n → 0 ≤ n

/-! ## Rules -/

theorem Schema.fieldErrors_of_writeErrors {schema : Schema} {fields : Record}
    (ok : schema.writeErrors fields = .ok []) :
    ∀ field value, (field, value) ∈ fields → schema.fieldErrors field value = .ok [] := by
  induction fields with
  | nil => exact fun _ _ member => nomatch member
  | cons entry rest ih =>
    rcases entry with ⟨first, given⟩
    obtain ⟨errors, own, ok⟩ := bind_ok ok
    obtain ⟨others, later, ok⟩ := bind_ok ok
    obtain ⟨rfl, rfl⟩ := List.append_eq_nil_iff.mp (pure_ok ok)
    intro field value member
    rcases List.mem_cons.mp member with same | member
    · cases same
      exact own
    · exact ih later field value member

theorem Schema.checkWrite_ok {schema : Schema} {kind : WriteKind} {fields : Record} {u : Unit}
    (ok : schema.checkWrite kind fields = .ok u) : schema.writeErrors fields = .ok [] := by
  obtain ⟨errors, found, ok⟩ := bind_ok ok
  cases errors with
  | nil => exact found
  | cons first rest => cases ok

namespace Model

theorem checkRequired_ok {schema : Schema} {kind : WriteKind} {fields : Record} {u : Unit}
    (ok : checkRequired schema kind fields = .ok u) :
    ∀ name ∈ schema.required, fields.has name = true := by
  unfold checkRequired at ok
  split at ok
  · rename_i none_missing
    intro name member
    have present := List.filter_eq_nil_iff.mp none_missing name member
    simpa using present
  · cases ok

/-! ## Counts -/

/-- The tests for the row that a related field points at. -/
def relatedTests (related : Schema) (value : Value) : List ColumnTest :=
  (related.primaryKey, .eq, value) ::
    if related.softDeletes then [(related.deletedAtColumn, .isNull, .bool true)] else []

/-- The tests for a row with given values in some columns and another key than the excluded one. -/
def uniqueTests (m : Model) (values : Record) (excluded : Value) (columns : List String) :
    List ColumnTest :=
  columns.map (fun name => (name, .eq, (values.value? name).getD .null)) ++
    if excluded.isNull then [] else [(m.schema.primaryKey, .neq, excluded)]

theorem has_of_given {values : Record} {name : String}
    (given : ((values.value? name).getD .null).isNull = false) : values.has name = true := by
  unfold Mapping.has
  unfold Mapping.value? at given
  cases found : values.lookup name with
  | none =>
    rw [found] at given
    cases given
  | some value => rfl

theorem isConcerned_of_given {fields values : Record} {names : List String}
    (some_name : ∃ name ∈ names, fields.has name = true)
    (given : ∀ name ∈ names, ((values.value? name).getD .null).isNull = false) :
    isConcerned fields values names = true := by
  unfold isConcerned
  rw [Bool.and_eq_true]
  refine ⟨List.any_eq_true.mpr some_name, List.all_eq_true.mpr fun name member => ?_⟩
  rw [given name member]
  rfl

/-- Fields that keep their rules and whose checked values point at rows that were found and take
nothing that was found taken.  Columns that are not written count with their stored values. -/
structure Cleared (m : Model) (d : Dialect) (fields values stored : Record) (excluded : Value)
    (xs : List Exchange) : Prop where
  rules : ∀ field value, (field, value) ∈ fields → m.schema.fieldErrors field value = .ok []
  related : ∀ field target, (field, target) ∈ m.schema.related →
    ((values.value? field).getD .null).isNull = false →
    ∃ related n, m.engine.registry.schema target = .ok related ∧ 0 < n ∧
      Counted d xs related.table (relatedTests related ((values.value? field).getD .null)) n
  unique : ∀ unique ∈ m.schema.unique,
    isConcerned values (stored.overlay values) unique.columns = true →
    Counted d xs m.schema.table (m.uniqueTests (stored.overlay values) excluded unique.columns) 0

theorem Cleared.mono {m : Model} {d : Dialect} {fields values stored : Record} {excluded : Value}
    {xs ys : List Exchange} (cleared : m.Cleared d fields values stored excluded xs)
    (sub : xs ⊆ ys) : m.Cleared d fields values stored excluded ys := by
  refine ⟨cleared.rules, ?_, ?_⟩
  · intro field target member given
    obtain ⟨related, n, found, positive, counted⟩ := cleared.related field target member given
    exact ⟨related, n, found, positive, counted.mono sub⟩
  · intro unique member concerned
    exact (cleared.unique unique member concerned).mono sub

/-- For every unique constraint that a write concerns the rows were counted that already have its
values, and there were none. -/
def Untaken (m : Model) (d : Dialect) (values stored : Record) (excluded : Value)
    (xs : List Exchange) : Prop :=
  ∀ unique ∈ m.schema.unique, isConcerned values (stored.overlay values) unique.columns = true →
    ∃ n ≤ 0, Counted d xs m.schema.table
      (m.uniqueTests (stored.overlay values) excluded unique.columns) n

variable {m : Model} {d : Dialect} {kind : WriteKind}

theorem tells_relatedRows_bind {α : Type} {related : Schema} {value : Value}
    {next : Select → Session α} {Q : Except Failure α → List Exchange → Prop}
    (fails : ∀ failure, Q (.error failure) [])
    (goes : ∀ s, tested d related.table (relatedTests related value) = .ok s →
      Tells d (next s) Q) :
    Tells d (relatedRows related value >>= next) Q := by
  unfold relatedRows
  rw [bind_assoc]
  refine tells_rowsOf_bind fails fun s selected => ?_
  rw [bind_assoc]
  refine tells_narrowed_bind fails selected fun t narrowed => ?_
  unfold relatedTests at goes
  split
  · rename_i soft
    rw [if_pos soft] at goes
    exact tells_narrowed_bind fails narrowed fun u trashed => goes u trashed
  · rename_i hard
    rw [if_neg hard] at goes
    rw [pure_bind]
    exact goes t narrowed

theorem tells_narrowedTo_bind {α : Type} {values : Record} {names : List String}
    {tests : List ColumnTest} {s : Select} {next : Select → Session α}
    {Q : Except Failure α → List Exchange → Prop} (fails : ∀ failure, Q (.error failure) [])
    (before : tested d m.schema.table tests = .ok s)
    (goes : ∀ t, tested d m.schema.table (tests ++
      names.map fun name => (name, .eq, (values.value? name).getD .null)) = .ok t →
        Tells d (next t) Q) :
    Tells d (m.narrowedTo values names s >>= next) Q := by
  induction names generalizing tests s with
  | nil =>
    rw [narrowedTo, pure_bind]
    exact goes s (by simpa using before)
  | cons name rest ih =>
    unfold narrowedTo
    simp only [bind_assoc]
    refine tells_narrowed_bind fails before fun t narrowed => ?_
    refine ih narrowed fun u others => goes u ?_
    rw [List.append_assoc] at others
    exact others

theorem tells_excluding_bind {α : Type} {key : Value} {tests : List ColumnTest} {s : Select}
    {next : Select → Session α} {Q : Except Failure α → List Exchange → Prop}
    (fails : ∀ failure, Q (.error failure) []) (before : tested d m.schema.table tests = .ok s)
    (goes : ∀ t, tested d m.schema.table (tests ++
      if key.isNull then [] else [(m.schema.primaryKey, .neq, key)]) = .ok t →
        Tells d (next t) Q) :
    Tells d (m.excluding key s >>= next) Q := by
  unfold excluding
  split
  · rename_i null
    rw [if_pos null, List.append_nil] at goes
    rw [pure_bind]
    exact goes s before
  · rename_i given
    rw [if_neg given] at goes
    exact tells_narrowed_bind fails before goes

theorem tells_checkRelated {fields : Record} {related : List (String × String)} :
    Tells d (m.checkRelated kind fields related) (Returns fun _ xs =>
      (∀ x ∈ xs, x.Natural d) → ∀ field target, (field, target) ∈ related →
        ((fields.value? field).getD .null).isNull = false →
        ∃ schema n, m.engine.registry.schema target = .ok schema ∧ 0 < n ∧
          Counted d xs schema.table (relatedTests schema ((fields.value? field).getD .null)) n) := by
  induction related with
  | nil =>
    refine tells_returned fun _ field target member => ?_
    cases member
  | cons entry rest ih =>
    rcases entry with ⟨field, target⟩
    unfold checkRelated
    simp only
    split
    · rename_i null
      refine ih.mono fun outcome xs told u ok natural other goal member given => ?_
      rcases List.mem_cons.mp member with same | member
      · cases same
        rw [null] at given
        cases given
      · exact told u ok natural other goal member given
    · refine tells_of_bind (fun _ _ => returns_error) fun schema found => ?_
      refine tells_relatedRows_bind (fun _ => returns_error) fun s selected => ?_
      refine Tells.bind (tells_total_tested selected (fun _ => returns_error) fun x asked => ?_)
      cases answered : x.count d with
      | error failure => exact returns_error
      | ok n =>
        simp only
        split
        · exact tells_fail returns_error
        · rename_i some_rows
          refine ih.mono fun outcome ys told u ok natural other goal member given => ?_
          have positive : 0 < n := by
            have := natural x List.mem_cons_self (counting_counts asked) n answered
            omega
          rcases List.mem_cons.mp member with same | member
          · cases same
            exact ⟨schema, n, found, positive, x, List.mem_cons_self, asked, answered⟩
          · have later : ∀ y ∈ ys, y.Natural d :=
              fun y inside => natural y (List.mem_append_right _ inside)
            obtain ⟨other, k, known, many, counted⟩ := told u ok later other goal member given
            exact ⟨other, k, known, many, counted.mono (List.subset_append_right _ _)⟩

/-- Where answers are sensible, none is zero. -/
theorem Untaken.counted {values stored : Record} {excluded : Value} {xs : List Exchange}
    (untaken : m.Untaken d values stored excluded xs) (natural : ∀ x ∈ xs, x.Natural d) :
    ∀ unique ∈ m.schema.unique, isConcerned values (stored.overlay values) unique.columns = true →
      Counted d xs m.schema.table
        (m.uniqueTests (stored.overlay values) excluded unique.columns) 0 := by
  intro unique member concerned
  obtain ⟨n, none, x, inside, asked, answered⟩ := untaken unique member concerned
  have zero : n = 0 := by
    have := natural x inside (counting_counts asked) n answered
    omega
  rw [zero] at answered
  exact ⟨x, inside, asked, answered⟩

theorem tells_checkUnique {fields stored : Record} {excluded : Value} {keys : List UniqueKey} :
    Tells d (m.checkUnique kind fields stored excluded keys) (Returns fun _ xs => ∀ unique ∈ keys,
      isConcerned fields (stored.overlay fields) unique.columns = true →
        ∃ n ≤ 0, Counted d xs m.schema.table
          (m.uniqueTests (stored.overlay fields) excluded unique.columns) n) := by
  induction keys with
  | nil =>
    refine tells_returned fun unique member => ?_
    cases member
  | cons unique rest ih =>
    unfold checkUnique
    simp only
    split
    · refine tells_rowsOf_bind (fun _ => returns_error) fun s selected => ?_
      refine tells_narrowedTo_bind (fun _ => returns_error) selected fun t narrowed => ?_
      refine tells_excluding_bind (fun _ => returns_error) narrowed fun u excluding => ?_
      have asks : tested d m.schema.table
          (m.uniqueTests (stored.overlay fields) excluded unique.columns) = .ok u := excluding
      refine Tells.bind (tells_total_tested asks (fun _ => returns_error) fun x asked => ?_)
      cases answered : x.count d with
      | error failure => exact returns_error
      | ok n =>
        simp only
        split
        · exact tells_fail returns_error
        · rename_i none_taken
          refine ih.mono fun outcome ys told u ok other member concerned => ?_
          rcases List.mem_cons.mp member with rfl | member
          · exact ⟨n, Int.not_lt.mp none_taken, x, List.mem_cons_self, asked, answered⟩
          · obtain ⟨k, none, counted⟩ := told u ok other member concerned
            exact ⟨k, none, counted.mono (List.subset_append_right _ _)⟩
    · rename_i unconcerned
      refine ih.mono fun outcome xs told u ok other member concerned => ?_
      rcases List.mem_cons.mp member with rfl | member
      · exact absurd concerned unconcerned
      · exact told u ok other member concerned

end Model

/-!
## What writing sends

A create and an update come in three parts: the checks, the hooks before the write, and the write with
what follows it.  Only selections are sent but for the write itself, and that is sent only with what
the first two parts have let through.
-/

/-! ### One write among selections -/

/-- At most one exchange is not a selection.  Whenever there is one, or the work returns, some row was
ready by what came before, and what is sent is the statement for that row. -/
def OneWrite {α : Type} (ready : List Exchange → Record → Prop)
    (sends : Record → Fragment → Prop) : Except Failure α → List Exchange → Prop :=
  fun outcome xs => ∃ before after, ∃ write : Option Exchange,
    xs = before ++ write.toList ++ after ∧ (∀ x ∈ before ++ after, x.statement.Selects) ∧
      ((write.isSome ∨ outcome.isOk = true) →
        ∃ row, ready before row ∧ ∀ x ∈ write, sends row x.statement)

namespace OneWrite

variable {α β : Type} {ready : List Exchange → Record → Prop} {sends : Record → Fragment → Prop}
  {xs ys : List Exchange}

theorem of_failed {failure : Failure} (selects : ∀ x ∈ xs, x.statement.Selects) :
    OneWrite ready sends (.error failure : Except Failure α) xs := by
  refine ⟨xs, [], none, by simp, by simpa using selects, ?_⟩
  intro reached
  rcases reached with impossible | impossible
  · cases impossible
  · cases impossible

/-- A write of a row that is ready by what came before, among selections. -/
theorem of_write {row : Record} (write : Option Exchange) {outcome : Except Failure α}
    (before : ∀ x ∈ xs, x.statement.Selects) (was_ready : ready xs row)
    (sent : ∀ x ∈ write, sends row x.statement) (after : ∀ x ∈ ys, x.statement.Selects) :
    OneWrite ready sends outcome (xs ++ (write.toList ++ ys)) :=
  ⟨xs, ys, write, (List.append_assoc _ _ _).symm, List.forall_mem_append.mpr ⟨before, after⟩,
    fun _ => ⟨row, was_ready, sent⟩⟩

/-- An outcome that spoils a result changes nothing about the exchanges. -/
theorem spoiled {a : α} {failure : Failure} (written : OneWrite ready sends (.ok a) xs) :
    OneWrite ready sends (.error failure : Except Failure β) xs := by
  obtain ⟨before, after, write, same, selects, reached⟩ := written
  exact ⟨before, after, write, same, selects, fun _ => reached (Or.inr rfl)⟩

theorem mono {ready' : List Exchange → Record → Prop} {sends' : Record → Fragment → Prop}
    {outcome : Except Failure α} (written : OneWrite ready sends outcome xs)
    (readies : ∀ before row, before ⊆ xs → ready before row → ready' before row)
    (sent : ∀ row f, sends row f → sends' row f) : OneWrite ready' sends' outcome xs := by
  obtain ⟨before, after, write, same, selects, reached⟩ := written
  refine ⟨before, after, write, same, selects, fun came => ?_⟩
  obtain ⟨row, was_ready, stated⟩ := reached came
  have inside : before ⊆ xs := by
    rw [same, List.append_assoc]
    exact List.subset_append_left _ _
  exact ⟨row, readies before row inside was_ready, fun x member => sent row _ (stated x member)⟩

end OneWrite

namespace Model

variable {m : Model} {d : Dialect}

theorem tells_upserting_bind {β : Type} {next : Bool → Session β}
    {Q : Except Failure β → List Exchange → Prop} (goes : Tells d (next false) Q) :
    Tells d (upserting >>= next) Q := by
  have read : Tells d upserting fun outcome xs => outcome = .ok false ∧ xs = [] := by
    intro s script opened
    exact ⟨opened, congrArg Except.ok opened.upserting, rfl⟩
  refine Tells.bind (read.mono fun outcome xs told => ?_)
  obtain ⟨rfl, rfl⟩ := told
  exact goes

/-! ### JSON columns -/

/-- The fields with the JSON column changed, where the change asks for nothing. -/
def jsonFields (m : Model) (fields : Record) (change : String → Value → Except Failure Record) :
    Except Failure Record :=
  match m.kind.capabilities.nullableJson with
  | none => .ok fields
  | some column =>
    match fields.value? column with
    | none => .ok fields
    | some value => do
      let data ← parsedJson value
      let changed ← change column data
      let text ← writtenJson changed
      pure (fields.put column (.str text))

/-- The stored value of a column, as the row with a key was answered. -/
def storedValue (rows : List Record) (column : String) : Except Failure Value :=
  match rows with
  | [] => .ok .null
  | row :: _ => Session.columnValue row column

/-- The value of the JSON column after some of its keys are replaced in the row that was answered. -/
def mergedJson (rows : List Record) (column : String) (data : Value) : Except Failure Record := do
  let stored ← storedValue rows column
  let current ← storedMapping stored
  NullableJson.merge column current data

theorem withJson_defined (m : Model) (fields : Record) :
    m.withJson fields definedJson = of (m.jsonFields fields NullableJson.define) := by
  unfold withJson jsonFields
  cases m.kind.capabilities.nullableJson with
  | none => rfl
  | some column =>
    simp only
    cases fields.value? column with
    | none => rfl
    | some value =>
      simp only [of_bind]
      rfl

theorem tells_definedFields {fields : Record} {Q : Except Failure Record → List Exchange → Prop}
    (holds : Q (m.jsonFields fields NullableJson.define) []) :
    Tells d (m.withJson fields definedJson) Q := by
  rw [withJson_defined]
  exact tells_of holds

theorem tells_updatedJson {column : String} {key data : Value} :
    Tells d (m.updatedJson column key data) (Returns fun changed xs => ∃ x ∈ xs, ∃ a,
      x.answer d = .ok a ∧ mergedJson a.rows column data = .ok changed) := by
  unfold updatedJson
  refine tells_rowsOf_bind (fun _ => nofun) fun s _ => ?_
  refine tells_of_bind (fun _ _ => nofun) fun t _ => tells_of_bind (fun _ _ => nofun) fun u _ => ?_
  refine Tells.bind (tells_fetch (fun _ _ => nofun) fun f made reply => ?_)
  cases came : (Exchange.mk f reply).answer d with
  | error failure => exact nofun
  | ok a =>
    refine tells_of_bind (fun _ _ => nofun) fun stored found => ?_
    refine tells_of_bind (fun _ _ => nofun) fun current read => tells_of fun changed merged => ?_
    refine ⟨⟨f, reply⟩, List.mem_cons_self, a, came, ?_⟩
    have stored_ok : storedValue a.rows column = .ok stored := found
    simp only [mergedJson, stored_ok, read, ok_bind, merged]

theorem tells_updatedFields {fields : Record} {key : Value} :
    Tells d (m.withJson fields fun column data => m.updatedJson column key data)
      (Returns fun json xs =>
        ∃ rows, (rows = [] ∨ ∃ x ∈ xs, ∃ a, x.answer d = .ok a ∧ a.rows = rows) ∧
          m.jsonFields fields (mergedJson rows) = .ok json) := by
  unfold withJson
  cases plain : m.kind.capabilities.nullableJson with
  | none =>
    refine tells_returned ⟨[], Or.inl rfl, ?_⟩
    simp only [jsonFields, plain]
  | some column =>
    simp only
    cases given : fields.value? column with
    | none =>
      refine tells_returned ⟨[], Or.inl rfl, ?_⟩
      simp only [jsonFields, plain, given]
    | some value =>
      refine tells_of_bind (fun _ _ => nofun) fun data parsed => ?_
      refine tells_updatedJson.bind_returns fun changed xs told => ?_
      obtain ⟨x, member, a, answered, merged⟩ := told
      refine tells_of_bind (fun _ _ => nofun) fun text written => tells_returned ?_
      rw [List.append_nil]
      refine ⟨a.rows, Or.inr ⟨x, member, a, answered, rfl⟩, ?_⟩
      simp only [jsonFields, plain, given, parsed, merged, written, ok_bind]
      rfl

end Model

end Curator
