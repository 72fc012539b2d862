import Curator.Proofs.Database.Recorded
import Curator.Proofs.Event.Announced
import Curator.Proofs.Hook.Touched
import Curator.Proofs.Model.Notifications
import Curator.Proofs.Model.Uniqueness
/-!
# Assigned columns

Which columns a write assigns, and what it assigns to them: nothing but what was given for a writable
field, a default, or what a hook before the write set or updated.
-/

set_option autoImplicit false

namespace Curator

open Sql Outcome Session

/-! ## Results in every state -/

namespace Session

variable {m : Model} {d : Dialect} {α β : Type} {P : Deed → Prop} {G : α → Prop}

/-- Work of which nothing but its result counts. -/
abbrev Gives (G : α → Prop) (work : Session α) : Prop := Records (fun _ => True) G work

theorem gives_any (work : Session α) : Gives (fun _ => True) work :=
  ⟨fun _ _ _ => trivial, fun _ _ _ => trivial⟩

theorem Gives.after {first : Session α} {next : α → Session β} {R : β → Prop}
    (gives : ∀ a, Gives R (next a)) : Gives R (first >>= next) :=
  (gives_any first).bind fun a _ => gives a

theorem Gives.tracked {work : Session α} (gives : Gives G work) : Gives G (m.tracked work) := by
  refine ⟨fun _ _ _ => trivial, fun s a ok => ?_⟩
  have whole : Gives G (do
      m.notify .begin [] none
      let result ← work
      m.notify .complete [] none
      pure result) :=
    Gives.after fun _ => gives.bind fun a holds => Gives.after fun _ => records_pure holds
  cases begun : s.model.begun with
  | true =>
    rw [Model.tracked, Model.outermost_begun begun] at ok
    exact gives.result s a ok
  | false =>
    simp only [Model.tracked, outermost, begun, Bool.false_eq_true, if_false] at ok
    exact whole.result _ a ok

/-- Work that goes on with a result of some kind. -/
theorem acts_given_bind {first : Session α} {next : α → Session β}
    (acts : Acts m d first (Only P)) (gives : Gives G first)
    (goes : ∀ a, G a → Acts m d (next a) (Only P)) : Acts m d (first >>= next) (Only P) := by
  have both : Acts m d first fun outcome deeds =>
      (∀ deed ∈ deeds, P deed) ∧ ∀ a, outcome = .ok a → G a := by
    intro s speaks
    obtain ⟨left, deeds, did, all⟩ := acts s speaks
    exact ⟨left, deeds, did, all, fun a came => gives.result s a came⟩
  refine Acts.bind (both.mono fun outcome deeds ⟨before, given⟩ => ?_)
  cases outcome with
  | error failure => exact before
  | ok a =>
    refine (goes a (given a rfl)).mono fun _ _ after => ?_
    exact List.forall_mem_append.mpr ⟨before, after⟩

end Session

/-! ## Rows -/

namespace Model

variable {m : Model} {d : Dialect} {given defaults values row : Record} {column : String}
  {points : List HookPoint}

/-- No hook of the points touches a column. -/
def Untouched (m : Model) (points : List HookPoint) (column : String) : Prop :=
  ∀ point ∈ points, ¬ m.Touches point column

/-- A row to be written: every column of it, each there once, is a writable field, a default or touched
by a hook.  What no hook touches has what the mutators make of the given value, or its default if none
was given. -/
structure Assigned (m : Model) (given defaults : Record) (points : List HookPoint) (row : Record) :
    Prop where
  distinct : row.keys.Nodup
  column : ∀ column ∈ row.keys, m.schema.isWritable column = true ∨ column ∈ defaults.keys ∨
    ¬ m.Untouched points column
  mutated : ∀ column v, m.Untouched points column → given.value? column = some v →
    ∃ w, TransformTable.standard.applied m.schema.mutators column v = .ok w ∧
      row.value? column = some w
  absent : ∀ column, m.Untouched points column → given.value? column = none →
    row.value? column = defaults.value? column

theorem value?_supply (record : Record) (key column : String) (v : Value) :
    (Mapping.supply record key v).value? column =
      (record.value? column).or (if column = key then some v else none) := by
  unfold Mapping.supply
  by_cases there : record.has key = true
  · rw [if_pos there]
    by_cases same : column = key
    · subst same
      obtain ⟨w, found⟩ := Option.isSome_iff_exists.mp there
      have held : Mapping.value? record column = some w := found
      rw [held, Option.some_or]
    · rw [if_neg same, Option.or_none]
  · rw [if_neg there]
    have split : Mapping.value? (record ++ [(key, v)]) column =
        (record.value? column).or (Mapping.value? [(key, v)] column) := List.lookup_append
    rw [split, Mapping.value?_cons]
    rfl

/-- A field has its default if it has no value of its own. -/
theorem value?_withDefaults (schema : Schema) (fields : Record) (column : String) :
    (withDefaults schema fields).value? column =
      (fields.value? column).or (schema.defaults.value? column) := by
  unfold withDefaults
  generalize schema.defaults = defaults
  induction defaults generalizing fields with
  | nil => simp [Mapping.value?]
  | cons entry rest ih =>
    rcases entry with ⟨key, v⟩
    have step := ih (Mapping.supply fields key v)
    rw [value?_supply] at step
    rw [Mapping.value?_cons]
    refine step.trans ?_
    by_cases same : column = key
    · simp only [same, if_true]
      cases fields.value? key <;> rfl
    · simp only [same, if_false, Option.or_none]

theorem writable_of_prepared {schema : Schema} {kind : WriteKind} {fields : Record}
    (ok : prepared schema kind fields = .ok values) :
    ∀ column ∈ fields.keys, schema.isWritable column = true := by
  intro column member
  obtain ⟨v, found⟩ := Mapping.value?_of_mem_keys member
  have allowed := (prepared_ok ok).1 column v (Mapping.mem_of_value? found)
  unfold Schema.fieldErrors at allowed
  split at allowed
  · cases allowed
  · rename_i rules known
    exact Option.isSome_of_mem known

/-- What the hooks of two points make of checked values is a row to be written. -/
theorem assigned_of_hooked {kind : WriteKind} {filled middle : Record} {second : HookPoint}
    {previous : Option Record} (prepares : prepared m.schema kind given = .ok values)
    (fills : ∀ column, filled.value? column = (values.value? column).or (defaults.value? column))
    (distinct : filled.keys.Nodup) (first : m.hooked .beforeWrite filled none = .ok middle)
    (settled : m.hooked second middle previous = .ok row) :
    m.Assigned given defaults [.beforeWrite, second] row := by
  obtain ⟨_, mutates⟩ := prepared_ok prepares
  have mutated := TransformTable.transformed_value mutates
  have same : ∀ column, m.Untouched [.beforeWrite, second] column →
      row.value? column = (values.value? column).or (defaults.value? column) := by
    intro column apart
    have once := hooked_untouched (apart .beforeWrite List.mem_cons_self) first
    have twice := hooked_untouched (apart second (List.mem_cons_of_mem _ List.mem_cons_self)) settled
    rw [twice, once, fills]
  refine ⟨nodup_hooked (nodup_hooked distinct first) settled, fun column member => ?_,
    fun column v apart held => ?_, fun column apart absent => ?_⟩
  · by_cases apart : m.Untouched [.beforeWrite, second] column
    · obtain ⟨w, written⟩ := Mapping.value?_of_mem_keys member
      rw [same column apart] at written
      cases held : given.value? column with
      | some v =>
        refine Or.inl (writable_of_prepared prepares column ?_)
        exact List.mem_map_of_mem (f := (·.1)) (Mapping.mem_of_value? held)
      | none =>
        rw [(mutated column).1 held, Option.none_or] at written
        exact Or.inr (Or.inl (List.mem_map_of_mem (f := (·.1)) (Mapping.mem_of_value? written)))
    · exact Or.inr (Or.inr apart)
  · obtain ⟨w, made, found⟩ := (mutated column).2 v held
    refine ⟨w, made, ?_⟩
    rw [same column apart, found, Option.some_or]
  · rw [same column apart, (mutated column).1 absent, Option.none_or]

/-! ## Statements -/

/-- The statement that inserts an assigned row, whose values it binds. -/
def InsertsAssigned (m : Model) (d : Dialect) (given : Record) (f : Fragment) : Prop :=
  ∃ row onConflict, insertion d m.schema.table row onConflict (some m.schema.primaryKey) = .ok f ∧
    f.params = row.map (·.2) ∧
    m.Assigned given m.schema.defaults [.beforeWrite, .beforeCreate] row

/-- The statement that changes assigned columns of the row with a key, and binds their values. -/
def UpdatesAssigned (m : Model) (d : Dialect) (key : Value) (given : Record) (f : Fragment) : Prop :=
  ∃ row, updateSql d m.schema.table row [(m.schema.primaryKey, key)] = .ok f ∧
    f.params = row.map (·.2) ++ (keyTest d m.schema.primaryKey key).params ∧
    m.Assigned given [] [.beforeWrite, .beforeUpdate] row

end Model

/-- A deed that writes nothing but what is given. -/
def Deed.Writing (writes : Fragment → Prop) : Deed → Prop
  | sent x => x.statement.Selects ∨ writes x.statement
  | _ => True

theorem Deed.Calm.writing {deed : Deed} (calm : deed.Calm) (writes : Fragment → Prop) :
    deed.Writing writes := by
  cases deed with
  | sent x => exact Or.inl calm
  | _ => trivial

theorem writing_absorbs (writes : Fragment → Prop) :
    Absorbs fun deeds => ∀ deed ∈ deeds, Deed.Writing writes deed :=
  only_absorbs fun _ calm => calm.writing writes

theorem writing_closed (m : Model) (d : Dialect) (writes : Fragment → Prop) :
    Closed fun work => Acts m d work (Only (Deed.Writing writes)) :=
  acts_closed fun _ => trivial

namespace Model

variable {m : Model} {d : Dialect} {given values : Record} {key : Value} {existing : Resource}

/-! ### Creating -/

theorem gives_checkedNew (m : Model) (given : Record) :
    Gives (fun values => ∃ kind mutated, prepared m.schema kind given = .ok mutated ∧
      values = withDefaults m.schema mutated) (m.checkedNew given) := by
  refine Gives.after fun overwriting => Gives.after fun _ => ?_
  refine (records_of (Q := fun mutated => prepared m.schema _ given = .ok mutated) fun _ ok => ok).bind
    fun mutated prepares => ?_
  refine Gives.after fun _ => Gives.after fun overwriting => ?_
  split
  · exact records_pure ⟨_, mutated, prepares, rfl⟩
  · exact Gives.after fun _ => records_pure ⟨_, mutated, prepares, rfl⟩

theorem gives_atPoint (quiet : m.Quiet) (point : HookPoint) (record : Record)
    (previous : Option Record) : Gives (fun result => m.hooked point record previous = .ok result)
      (m.atPoint point record previous) := by
  refine ⟨fun _ _ _ => trivial, fun s a ok => ?_⟩
  rw [← quiet.atPoint_outcome point record previous s]
  exact ok

theorem withJson_plain (plain : m.kind.capabilities.nullableJson = none) (fields : Record)
    (change : String → Value → Session Record) : m.withJson fields change = pure fields := by
  unfold withJson
  rw [plain]

theorem gives_readiedNew (quiet : m.Quiet) (plain : m.kind.capabilities.nullableJson = none)
    (values : Record) : Gives (fun row => ∃ middle, m.hooked .beforeWrite values none = .ok middle ∧
      m.hooked .beforeCreate middle none = .ok row) (m.readiedNew values) := by
  refine (gives_atPoint quiet _ _ _).bind fun middle first => ?_
  rw [withJson_plain plain, pure_bind]
  refine ⟨fun _ _ _ => trivial, fun s row ok => ⟨middle, first, ?_⟩⟩
  exact (gives_atPoint quiet _ _ _).result s row ok

theorem acts_createRow_assigned (quiet : m.Quiet) (plain : m.kind.capabilities.nullableJson = none)
    (distinct : given.keys.Nodup) :
    Acts m d (m.createRow given) (Only (Deed.Writing (m.InsertsAssigned d given))) := by
  have closed := writing_closed m d (m.InsertsAssigned d given)
  have checks : Acts m d (m.checkedNew given) (Only (Deed.Writing (m.InsertsAssigned d given))) :=
    (checkedNew_reads calmly given).mono fun _ _ => (writing_absorbs _).calm
  have readies : ∀ values, Acts m d (m.readiedNew values)
      (Only (Deed.Writing (m.InsertsAssigned d given))) :=
    fun values => readiedNew_closed closed quiet.steps values
  rw [createRow_eq]
  refine acts_given_bind checks (gives_checkedNew m given) ?_
  rintro values ⟨kind, mutated, prepares, rfl⟩
  refine acts_given_bind (readies _) (gives_readiedNew quiet plain _) ?_
  rintro row ⟨middle, first, settled⟩
  have assigned : m.Assigned given m.schema.defaults [.beforeWrite, .beforeCreate] row := by
    refine assigned_of_hooked prepares (value?_withDefaults m.schema mutated) ?_ first settled
    exact nodup_withDefaults (TransformTable.nodup_transformed distinct (prepared_ok prepares).2)
  refine closed.bind (closed.debug (by simp)) fun _ => closed.bind ?_ fun _ => ?_
  · refine closed.bind closed.upserting fun overwriting => closed.bind ?_ fun _ => closed.pure _
    exact acts_insert_only fun x made => Or.inr ⟨row, _, made, insertion_params made, assigned⟩
  · refine (acts_concludedNew quiet row).mono fun _ _ ⟨resource, concludes⟩ => ?_
    exact concludes.only (fun _ calm => calm.writing _) trivial

/-! ### Updating -/

theorem gives_checkedChange (m : Model) (key : Value) (given : Record) :
    Gives (fun found => prepared m.schema .update given = .ok found.2)
      (m.checkedChange key given) := by
  refine Gives.after fun existing => ?_
  refine (records_of (Q := fun mutated => prepared m.schema _ given = .ok mutated) fun _ ok => ok).bind
    fun mutated prepares => ?_
  exact Gives.after fun _ => Gives.after fun _ => Gives.after fun _ => records_pure prepares

theorem gives_readiedChange (quiet : m.Quiet) (plain : m.kind.capabilities.nullableJson = none)
    (existing : Resource) (values : Record) :
    Gives (fun row => ∃ middle, m.hooked .beforeWrite values none = .ok middle ∧
      m.hooked .beforeUpdate middle (some existing.data) = .ok row)
      (m.readiedChange existing values) := by
  refine (gives_atPoint quiet _ _ _).bind fun middle first => ?_
  rw [withJson_plain plain, pure_bind]
  refine ⟨fun _ _ _ => trivial, fun s row ok => ⟨middle, first, ?_⟩⟩
  exact (gives_atPoint quiet _ _ _).result s row ok

theorem acts_updateRow_assigned (quiet : m.Quiet) (plain : m.kind.capabilities.nullableJson = none)
    (key : Value) (distinct : given.keys.Nodup) :
    Acts m d (m.updateRow key given) (Only (Deed.Writing (m.UpdatesAssigned d key given))) := by
  have closed := writing_closed m d (m.UpdatesAssigned d key given)
  have checks : Acts m d (m.checkedChange key given)
      (Only (Deed.Writing (m.UpdatesAssigned d key given))) :=
    (checkedChange_reads calmly quiet.steps key given).mono fun _ _ => (writing_absorbs _).calm
  have readies : ∀ existing values, Acts m d (m.readiedChange existing values)
      (Only (Deed.Writing (m.UpdatesAssigned d key given))) :=
    fun existing values => (readiedChange_reads calmly quiet.steps existing values).mono
      fun _ _ => (writing_absorbs _).calm
  rw [updateRow_eq]
  refine acts_given_bind checks (gives_checkedChange m key given) ?_
  rintro ⟨existing, values⟩ prepares
  refine acts_given_bind (readies _ _) (gives_readiedChange quiet plain _ _) ?_
  rintro row ⟨middle, first, settled⟩
  have assigned : m.Assigned given [] [.beforeWrite, .beforeUpdate] row := by
    refine assigned_of_hooked prepares (fun column => ?_) ?_ first settled
    · exact (Option.or_none).symm
    · exact TransformTable.nodup_transformed distinct (prepared_ok prepares).2
  refine closed.bind ?_ fun _ => ?_
  · unfold writtenChange
    split
    · exact closed.pure _
    · refine closed.bind (closed.debug (by simp)) fun _ => closed.bind ?_ fun _ => closed.pure _
      exact acts_update_only fun x made =>
        Or.inr ⟨row, made, congrArg Fragment.params (updateSql_ok made).1, assigned⟩
  · refine (acts_concludedChange quiet key existing row).mono fun _ _ ⟨resource, concludes⟩ => ?_
    exact concludes.only (fun _ calm => calm.writing _) trivial

/-! ### Copying -/

/-- The writable fields of a row that was read, with other values for some of them. -/
def copied (m : Model) (existing overrides : Record) : Record :=
  Mapping.overlay (existing.filter fun (name, _) => m.schema.isWritable name) overrides

theorem gives_readRow (quiet : m.Quiet) (key : Value) (fields : List String) :
    Gives (fun existing => existing.keys.Nodup) (m.readRow key fields) := by
  refine Gives.after fun mode => Gives.after fun plan => Gives.after fun rows => ?_
  split
  · exact records_fail _
  · refine (records_of (Q := fun record => record.keys.Nodup) fun _ ok =>
      Plan.nodup_reshape ok).bind fun record distinct => ?_
    exact ⟨fun _ _ _ => trivial, fun s row ok =>
      nodup_hooked distinct ((gives_atPoint quiet _ _ _).result s row ok)⟩

theorem nodup_copied {existing : Record} (distinct : existing.keys.Nodup) (overrides : Record) :
    (m.copied existing overrides).keys.Nodup :=
  Mapping.nodup_overlay (distinct.sublist (List.filter_sublist.map _)) overrides

/-- The statement that inserts an assigned copy of a row. -/
def InsertsCopy (m : Model) (d : Dialect) (overrides : Record) (f : Fragment) : Prop :=
  ∃ existing, m.InsertsAssigned d (m.copied existing overrides) f

theorem acts_create_assigned (quiet : m.Quiet) (plain : m.kind.capabilities.nullableJson = none)
    (distinct : given.keys.Nodup) :
    Acts m d (m.create given) (Only (Deed.Writing (m.InsertsAssigned d given))) :=
  (writing_absorbs _).acts_tracked quiet (acts_createRow_assigned quiet plain distinct)

theorem acts_replicate_assigned (quiet : m.Quiet) (plain : m.kind.capabilities.nullableJson = none)
    (key : Value) (overrides : Record) :
    Acts m d (m.replicate key overrides) (Only (Deed.Writing (m.InsertsCopy d overrides))) := by
  have absorbs := writing_absorbs (m.InsertsCopy d overrides)
  have closed := writing_closed m d (m.InsertsCopy d overrides)
  have read : Acts m d (m.tracked (m.readRow key []))
      (Only (Deed.Writing (m.InsertsCopy d overrides))) :=
    absorbs.acts_tracked quiet ((calmly.readRow quiet.steps key []).mono fun _ _ => absorbs.calm)
  refine absorbs.acts_tracked quiet (closed.bind (closed.of _) fun _ => ?_)
  refine acts_given_bind read (gives_readRow quiet key []).tracked fun existing distinct => ?_
  refine (acts_create_assigned quiet plain (nodup_copied distinct overrides)).mono
    fun _ deeds all deed member => ?_
  have writing := all deed member
  cases deed with
  | sent x => exact writing.imp_right fun inserts => ⟨existing, inserts⟩
  | _ => trivial

end Model

/-! ## Calls -/

/-- Calls that write a row of given fields, each given once, or the copy of a row. -/
def Call.Assigns : Call → Prop
  | create given | upsert given | update _ given => given.keys.Nodup
  | replicate _ _ => True
  | _ => False

/-- The statements by which a call may write. -/
def Model.Assigns (m : Model) (d : Dialect) : Call → Fragment → Prop
  | .create given | .upsert given => m.InsertsAssigned d given
  | .update key given => m.UpdatesAssigned d key given
  | .replicate _ overrides => m.InsertsCopy d overrides
  | _ => fun _ => False

theorem Model.acts_assigning {m : Model} {d : Dialect} (quiet : m.Quiet)
    (plain : m.kind.capabilities.nullableJson = none) (questions : List CollectionCall) {call : Call}
    (assigns : call.Assigns) :
    Acts m d (m.call questions call) (Only (Deed.Writing (m.Assigns d call))) := by
  cases call with
  | create given => exact Acts.map (acts_create_assigned quiet plain assigns)
  | upsert given =>
    exact Acts.map (acts_upserting quiet (writing_absorbs _) (acts_create_assigned quiet plain assigns))
  | update key given =>
    exact Acts.map ((writing_absorbs _).acts_tracked quiet
      (acts_updateRow_assigned quiet plain key assigns))
  | replicate key overrides => exact Acts.map (acts_replicate_assigned quiet plain key overrides)
  | _ => exact assigns.elim

/-- Nobody assigns what is not theirs to assign.  On a model whose hooks ask for no operations, all that
a create, an upsert, an update or a replication sends, in any state and whatever hooks set and return,
are selections and the insert or the change of a row that is assigned as `Model.Assigned` says. -/
theorem Model.writes_assigned_columns {m : Model} (quiet : m.Quiet)
    (plain : m.kind.capabilities.nullableJson = none) (questions : List CollectionCall) {call : Call}
    (assigns : call.Assigns) (s : SessionState) :
    ∀ f ∈ statements (m.call questions call s).entries,
      f.Selects ∨ m.Assigns s.database.dialect call f := by
  intro f member
  obtain ⟨_, deeds, did, all⟩ :=
    acts_assigning (d := s.database.dialect) quiet plain questions assigns s rfl
  obtain ⟨x, inside, rfl⟩ := did.sends quiet member
  exact all _ inside

namespace Sample

/-- Pages that are marked and ranked before they are created. -/
def markedSchema : Schema :=
  { slugSchema with
    unique := []
    hooks := [("beforeCreate", [.str "mark", .str "rank"])] }

/-- One hook sets a column of the record, and another returns one. -/
def markingHooks : HookTable :=
  [("mark", ⟨"mark", [], none, [("admin", .int 1)], none⟩),
    ("rank", ⟨"rank", [], none, [], some ⟨[("rank", .int 5)], .null⟩⟩)]

def markedModel : Model :=
  { slugModel with
    engine := ⟨⟨.standard, [⟨markedSchema, none⟩]⟩, markingHooks, default⟩
    schema := markedSchema }

theorem marked_quiet : markedModel.Quiet := by
  intro point name listed hook declared
  cases point
  case beforeCreate =>
    rcases List.mem_cons.mp listed with rfl | other
    · cases declared
      rfl
    · cases List.mem_singleton.mp other
      cases declared
      rfl
  all_goals cases listed

/-- A page is created, marked and ranked, and read. -/
def markedCreation : Ran Answer :=
  markedModel.call [] (.create [("slug", .str "Home")]) (pageState
    [writtenReply 1, rowsReply [[("id", .int 1), ("slug", .str "home"), ("parent_id", .null)]]])

def markedInsertion : Fragment :=
  ⟨"INSERT INTO \"pages\" (\"slug\", \"admin\", \"rank\") VALUES (?, ?, ?)",
    [.str "home", .int 1, .int 5]⟩

theorem marked_inserted : markedInsertion ∈ statements markedCreation.entries := by
  have first : (statements markedCreation.entries).take 1 = [markedInsertion] :=
    statements_known [(_, [.inl "home", .inr 1, .inr 5])] (by decide +kernel)
  refine List.mem_of_mem_take (i := 1) ?_
  rw [first]
  exact List.mem_cons_self

/-- The slug of a marked page is the mutated one that was given. -/
theorem marked_page_assigned : markedInsertion ∈ statements markedCreation.entries ∧
    markedModel.InsertsAssigned .sqlite [("slug", .str "Home")] markedInsertion := by
  refine ⟨marked_inserted, ?_⟩
  have once : (Call.create [("slug", .str "Home")]).Assigns := by
    unfold Call.Assigns
    decide
  have assigned := Model.writes_assigned_columns marked_quiet rfl [] once (pageState _) _ marked_inserted
  have inserts : markedInsertion.Inserts :=
    ⟨"\"pages\" (\"slug\", \"admin\", \"rank\") VALUES (?, ?, ?)", by decide +kernel⟩
  exact assigned.resolve_left inserts.not_selects

/-- What a hook sets in the record it is given is written too: the column of the mark is no writable
field, has no default, and no hook returns it. -/
theorem set_column_written : markedModel.Quiet ∧ ∃ f ∈ statements markedCreation.entries,
    f.sql = "INSERT INTO \"pages\" (\"slug\", \"admin\", \"rank\") VALUES (?, ?, ?)" ∧
    markedSchema.isWritable "admin" = false ∧ "admin" ∉ markedSchema.defaults.keys ∧
    ∀ entry ∈ markingHooks, ∀ result, entry.2.result = some result →
      "admin" ∉ result.update.keys := by
  refine ⟨marked_quiet, markedInsertion, marked_inserted, rfl, by decide, by decide, ?_⟩
  intro entry member result returned
  rcases List.mem_cons.mp member with rfl | other
  · cases returned
  · cases List.mem_singleton.mp other
    cases returned
    decide

end Sample

end Curator
