import Curator.Proofs.Lifecycle.Parallel
import Curator.Proofs.Model.Assigned
/-!
# Omitted values

The log of a write shows nothing of the fields that are omitted from it: two writes that differ only in
the values of such fields log the same.
-/

set_option autoImplicit false

/-!
## Veiled records

Records that differ only in values which the log does not show.  What a write makes of its values before
they are sent keeps them so.
-/

namespace Curator

open Outcome

/-- The fields of a record with defaults are seen from those it had. -/
theorem Model.keys_withDefaults (schema : Schema) {record other : Record}
    (same : record.keys = other.keys) :
    (withDefaults schema record).keys = (withDefaults schema other).keys := by
  unfold withDefaults
  generalize schema.defaults = defaults
  induction defaults generalizing record other with
  | nil => exact same
  | cons entry rest ih => exact ih (Mapping.keys_supply_of_keys same _ _)

/-! ### Records -/

/-- Records with the same fields.  Where their values differ the field is omitted from the log, and
neither value is null. -/
structure Schema.Veils (schema : Schema) (record other : Record) : Prop where
  keys : record.keys = other.keys
  distinct : record.keys.Nodup
  values : ∀ column v w, record.value? column = some v → other.value? column = some w →
    v = w ∨ (schema.isOmitted (.str column) = true ∧ v.isNull = false ∧ w.isNull = false)

namespace Schema.Veils

variable {schema : Schema} {record other : Record} {column : String}

theorem has (veils : schema.Veils record other) (column : String) :
    record.has column = other.has column :=
  Mapping.has_of_keys veils.keys column

/-- A field has a value in both records or in neither. -/
theorem cases (veils : schema.Veils record other) (column : String) :
    (record.value? column = none ∧ other.value? column = none) ∨
      ∃ v w, record.value? column = some v ∧ other.value? column = some w := by
  have there : (record.value? column).isSome = (other.value? column).isSome := veils.has column
  cases held : record.value? column with
  | none =>
    cases seen : other.value? column with
    | none => exact Or.inl ⟨rfl, rfl⟩
    | some w =>
      rw [held, seen] at there
      cases there
  | some v =>
    cases seen : other.value? column with
    | none =>
      rw [held, seen] at there
      cases there
    | some w => exact Or.inr ⟨v, w, rfl, rfl⟩

theorem isNull (veils : schema.Veils record other) (column : String) :
    ((record.value? column).getD .null).isNull = ((other.value? column).getD .null).isNull := by
  rcases veils.cases column with ⟨absent, missing⟩ | ⟨v, w, held, seen⟩
  · rw [absent, missing]
  · rw [held, seen]
    rcases veils.values column v w held seen with rfl | ⟨_, first, second⟩
    · rfl
    · exact first.trans second.symm

/-- A field that is not omitted has the same value in both records. -/
theorem value?_eq (veils : schema.Veils record other)
    (shown : schema.isOmitted (.str column) = false) : record.value? column = other.value? column := by
  rcases veils.cases column with ⟨absent, missing⟩ | ⟨v, w, held, seen⟩
  · rw [absent, missing]
  · rcases veils.values column v w held seen with rfl | ⟨hidden, _⟩
    · rw [held, seen]
    · rw [shown] at hidden
      cases hidden

theorem tail {key k : String} {v w : Value} {rest others : Record}
    (veils : schema.Veils ((key, v) :: rest) ((k, w) :: others)) : schema.Veils rest others := by
  obtain ⟨rfl, keys⟩ := List.cons.inj veils.keys
  obtain ⟨apart, distinct⟩ := List.nodup_cons.mp veils.distinct
  refine ⟨keys, distinct, fun column x y held seen => ?_⟩
  have different : column ≠ key := by
    rintro rfl
    exact apart (List.mem_map_of_mem (f := (·.1)) (Mapping.mem_of_value? held))
  refine veils.values column x y ?_ ?_
  · rw [Mapping.value?_cons, if_neg different, held]
  · rw [Mapping.value?_cons, if_neg different, seen]

theorem head {key k : String} {v w : Value} {rest others : Record}
    (veils : schema.Veils ((key, v) :: rest) ((k, w) :: others)) :
    key = k ∧ (v = w ∨ schema.isOmitted (.str key) = true) := by
  obtain ⟨rfl, -⟩ := List.cons.inj veils.keys
  have first : Mapping.value? ((key, v) :: rest) key = some v := by
    rw [Mapping.value?_cons, if_pos rfl]
  have second : Mapping.value? ((key, w) :: others) key = some w := by
    rw [Mapping.value?_cons, if_pos rfl]
  exact ⟨rfl, (veils.values key v w first second).imp_right And.left⟩

/-- The log shows the same of both records. -/
theorem redact (veils : schema.Veils record other) : schema.redact record = schema.redact other := by
  induction record generalizing other with
  | nil =>
    have none : other = [] := List.map_eq_nil_iff.mp veils.keys.symm
    rw [none]
  | cons entry rest ih =>
    rcases entry with ⟨key, v⟩
    cases other with
    | nil => cases veils.keys
    | cons entry others =>
      rcases entry with ⟨k, w⟩
      have shown : (if schema.isOmitted (.str key) then redactedMark else v) =
          if schema.isOmitted (.str key) then redactedMark else w := by
        rcases veils.head.2 with rfl | hidden
        · rfl
        · rw [if_pos hidden, if_pos hidden]
      obtain ⟨rfl, -⟩ := veils.head
      show (key, if schema.isOmitted (.str key) then redactedMark else v) :: schema.redact rest =
        (key, if schema.isOmitted (.str key) then redactedMark else w) :: schema.redact others
      rw [shown, ih veils.tail]

theorem put (veils : schema.Veils record other) {column : String} (there : column ∈ record.keys)
    {v w : Value} (related : v = w ∨
      (schema.isOmitted (.str column) = true ∧ v.isNull = false ∧ w.isNull = false)) :
    schema.Veils (record.put column v) (other.put column w) := by
  have among : column ∈ other.keys := veils.keys ▸ there
  refine ⟨?_, Mapping.nodup_put veils.distinct column v, fun name x y held seen => ?_⟩
  · rw [Mapping.keys_put there, Mapping.keys_put among, veils.keys]
  · rw [Mapping.value?_put] at held seen
    by_cases same : name = column
    · rw [if_pos same] at held seen
      cases held
      cases seen
      exact same ▸ related
    · rw [if_neg same] at held seen
      exact veils.values name x y held seen

theorem withDefaults (veils : schema.Veils record other) :
    schema.Veils (Model.withDefaults schema record) (Model.withDefaults schema other) := by
  refine ⟨Model.keys_withDefaults schema veils.keys, Model.nodup_withDefaults veils.distinct,
    fun column v w => ?_⟩
  rw [Model.value?_withDefaults, Model.value?_withDefaults]
  rcases veils.cases column with ⟨absent, missing⟩ | ⟨x, y, held, seen⟩
  · rw [absent, missing]
    intro first second
    exact Or.inl (Option.some.inj (first.symm.trans second))
  · rw [held, seen]
    rintro ⟨⟩ ⟨⟩
    exact veils.values column _ _ held seen

end Schema.Veils

/-! ### Given values -/

/-- A value is not null for a field, whatever the mutators make of it. -/
def Schema.StaysSet (schema : Schema) (column : String) (v : Value) : Prop :=
  ∀ w, TransformTable.standard.applied schema.mutators column v = .ok w → w.isNull = false

/-- Given values of the same fields.  Where they differ the field is omitted from the log, and the
mutators make null of neither. -/
structure Schema.Conceals (schema : Schema) (given other : Record) : Prop where
  keys : given.keys = other.keys
  distinct : given.keys.Nodup
  values : ∀ column v w, given.value? column = some v → other.value? column = some w →
    v = w ∨ (schema.isOmitted (.str column) = true ∧ schema.StaysSet column v ∧
      schema.StaysSet column w)

theorem Schema.Conceals.mutated {schema : Schema} {given other record mutated : Record}
    (conceals : schema.Conceals given other)
    (first : TransformTable.standard.transformed given schema.mutators = .ok record)
    (second : TransformTable.standard.transformed other schema.mutators = .ok mutated) :
    schema.Veils record mutated := by
  have distinct := TransformTable.nodup_transformed conceals.distinct first
  refine ⟨?_, distinct, fun column x y held seen => ?_⟩
  · rw [TransformTable.keys_transformed first, TransformTable.keys_transformed second, conceals.keys]
  · obtain ⟨absent, changed⟩ := TransformTable.transformed_value first column
    obtain ⟨missing, altered⟩ := TransformTable.transformed_value second column
    cases own : given.value? column with
    | none =>
      rw [absent own] at held
      cases held
    | some v =>
      cases others : other.value? column with
      | none =>
        rw [missing others] at seen
        cases seen
      | some w =>
        obtain ⟨_, made, found⟩ := changed v own
        obtain ⟨_, remade, again⟩ := altered w others
        cases Option.some.inj (held.symm.trans found)
        cases Option.some.inj (seen.symm.trans again)
        rcases conceals.values column v w own others with rfl | ⟨hidden, stays, remains⟩
        · exact Or.inl (Except.ok.inj (made.symm.trans remade))
        · exact Or.inr ⟨hidden, stays _ made, remains _ remade⟩

open Sql Session

namespace Model

variable {m : Model} {record other given others : Record}

/-! ## Checks -/

theorem parallel_prepared (conceals : m.schema.Conceals given others) (kind : WriteKind) :
    Parallel m.schema.Veils (of (prepared m.schema kind given)) (of (prepared m.schema kind others)) :=
  parallel_of fun _ _ first second => conceals.mutated (prepared_ok first).2 (prepared_ok second).2

theorem parallel_relatedRows (related : Schema) {v w : Value} (nulls : v.isNull = w.isNull) :
    Parallel Select.Twin (relatedRows related v) (relatedRows related w) := by
  refine (parallel_rowsOf related.table).bind fun s t twin => ?_
  have equal := Operator.alike_of_isNull (Or.inl rfl : Operator.eq = .eq ∨ Operator.eq = .neq) nulls
  refine (parallel_narrowed twin _ equal).bind fun s t twin => ?_
  split
  · exact parallel_narrowed twin _ (.refl _ _)
  · exact parallel_pure twin

theorem parallel_checkRelated (veils : m.schema.Veils record other) (kind : WriteKind)
    (related : List (String × String)) :
    Parallel Eq (m.checkRelated kind record related) (m.checkRelated kind other related) := by
  induction related with
  | nil => exact parallel_refl _
  | cons entry rest ih =>
    rcases entry with ⟨field, target⟩
    unfold checkRelated
    simp only [veils.isNull field]
    split
    · exact ih
    · refine parallel_after fun related => ?_
      refine (parallel_relatedRows related (veils.isNull field)).bind fun s t twin => ?_
      refine (parallel_total twin).bind fun n _ same => ?_
      cases same
      split
      · exact parallel_refl _
      · exact ih

theorem parallel_narrowedTo {values compared : Record} (nulls : ∀ name,
      ((values.value? name).getD .null).isNull = ((compared.value? name).getD .null).isNull)
    (names : List String) {s t : Select} (twin : s.Twin t) :
    Parallel Select.Twin (m.narrowedTo values names s) (m.narrowedTo compared names t) := by
  induction names generalizing s t with
  | nil => exact parallel_pure twin
  | cons name rest ih =>
    have equal := Operator.alike_of_isNull (Or.inl rfl : Operator.eq = .eq ∨ Operator.eq = .neq)
      (nulls name)
    exact (parallel_narrowed twin _ equal).bind fun s t twin => ih twin

theorem parallel_checkUnique (veils : m.schema.Veils record other) (kind : WriteKind)
    (stored : Record) (key : Value) (uniques : List UniqueKey) :
    Parallel Eq (m.checkUnique kind record stored key uniques)
      (m.checkUnique kind other stored key uniques) := by
  have distinct : other.keys.Nodup := veils.keys ▸ veils.distinct
  have nulls : ∀ name, (((stored.overlay record).value? name).getD .null).isNull =
      (((stored.overlay other).value? name).getD .null).isNull := by
    intro name
    rw [Mapping.value?_overlay veils.distinct, Mapping.value?_overlay distinct]
    have own := veils.isNull name
    rcases veils.cases name with ⟨absent, missing⟩ | ⟨v, w, held, seen⟩
    · rw [absent, missing]
    · rw [held, seen] at own ⊢
      exact own
  have concerned : ∀ names, isConcerned record (stored.overlay record) names =
      isConcerned other (stored.overlay other) names := by
    intro names
    have has : record.has = other.has := funext veils.has
    simp only [isConcerned, nulls, has]
  induction uniques with
  | nil => exact parallel_refl _
  | cons unique rest ih =>
    unfold checkUnique
    simp only [concerned]
    split
    · refine (parallel_rowsOf _).bind fun s t twin => ?_
      refine (parallel_narrowedTo nulls _ twin).bind fun s t twin => ?_
      have excludes : Parallel Select.Twin (m.excluding key s) (m.excluding key t) := by
        unfold excluding
        split
        · exact parallel_pure twin
        · exact parallel_narrowed twin _ (.refl _ _)
      refine excludes.bind fun s t twin => (parallel_total twin).bind fun n _ same => ?_
      cases same
      split
      · exact parallel_refl _
      · exact ih
    · exact ih

/-! ## JSON columns -/

theorem parallel_withJson (veils : m.schema.Veils record other)
    {change : String → Value → Session Record}
    (changes : ∀ column v w, Parallel (fun _ _ => True) (change column v) (change column w)) :
    Parallel m.schema.Veils (m.withJson record change) (m.withJson other change) := by
  unfold withJson
  split
  · exact parallel_pure veils
  · rename_i column _
    rcases veils.cases column with ⟨absent, missing⟩ | ⟨v, w, held, seen⟩
    · simp only [absent, missing]
      exact parallel_pure veils
    · simp only [held, seen]
      have there : column ∈ record.keys :=
        List.mem_map_of_mem (f := (·.1)) (Mapping.mem_of_value? held)
      rcases veils.values column v w held seen with rfl | ⟨hidden, _⟩
      · refine parallel_after fun data => parallel_after fun changed => parallel_after fun text => ?_
        exact parallel_pure (veils.put there (Or.inl rfl))
      · have hides : ∀ text written : String,
            m.schema.Veils (record.put column (.str text)) (other.put column (.str written)) :=
          fun text written => veils.put there (Or.inr ⟨hidden, rfl, rfl⟩)
        refine (parallel_of (R := fun _ _ => True) fun _ _ _ _ => trivial).bind fun data written _ => ?_
        refine (changes column data written).bind fun _ _ _ => ?_
        refine (parallel_of (R := fun _ _ => True) fun _ _ _ _ => trivial).bind fun _ _ _ => ?_
        exact parallel_pure (hides _ _)

theorem parallel_updatedJson (m : Model) (column : String) (key v w : Value) :
    Parallel (fun _ _ => True) (m.updatedJson column key v) (m.updatedJson column key w) := by
  refine parallel_after fun s => parallel_after fun s => parallel_after fun s => ?_
  refine parallel_after fun rows => parallel_after fun stored => parallel_after fun current => ?_
  exact parallel_of fun _ _ _ _ => trivial

/-! ## Writes -/

theorem parallel_conflictKey (veils : m.schema.Veils record other) :
    Parallel Eq (m.conflictKey? record) (m.conflictKey? other) := by
  have has : record.has = other.has := funext veils.has
  unfold conflictKey?
  simp only [has]
  split
  · refine (parallel_rowsOf _).bind fun s t twin => ?_
    refine (parallel_of fun _ _ first second => twin.column first second).bind fun s t twin => ?_
    refine (parallel_narrowedTo veils.isNull _ twin).bind fun s t twin => ?_
    exact (parallel_fetch (twin.limited _)).onward _
  · exact parallel_refl _

theorem parallel_writtenKey (veils : m.schema.Veils record other)
    (shown : m.schema.isOmitted (.str m.schema.primaryKey) = false) :
    Parallel Eq (m.writtenKey record) (m.writtenKey other) := by
  unfold writtenKey
  rw [veils.value?_eq shown]
  dsimp only
  split
  · refine parallel_after fun overwriting => ?_
    split
    · exact (parallel_conflictKey veils).onward _
    · exact parallel_refl _
  · exact parallel_refl _

theorem parallel_insertRow (veils : m.schema.Veils record other) :
    Parallel Eq (m.insertRow record) (m.insertRow other) := by
  refine parallel_after fun overwriting => ?_
  exact (parallel_insert veils.keys _ _ _).onward _

theorem redacted_eq (veils : m.schema.Veils record other) : m.redacted record = m.redacted other := by
  unfold redacted
  rw [veils.redact]

/-! ### Creating -/

theorem parallel_checkedNew (conceals : m.schema.Conceals given others) :
    Parallel m.schema.Veils (m.checkedNew given) (m.checkedNew others) := by
  refine parallel_after fun overwriting => ?_
  refine (parallel_of (R := Eq) fun _ _ _ _ => rfl).bind fun _ _ _ => ?_
  refine (parallel_prepared conceals _).bind fun record other veils => ?_
  have veils := veils.withDefaults
  refine (parallel_checkRelated veils _ _).bind fun _ _ _ => parallel_after fun overwriting => ?_
  split
  · exact parallel_pure veils
  · exact (parallel_checkUnique veils _ _ _ _).bind fun _ _ _ => parallel_pure veils

theorem parallel_readiedNew (bare : m.schema.hooks = []) (veils : m.schema.Veils record other) :
    Parallel m.schema.Veils (m.readiedNew record) (m.readiedNew other) := by
  unfold readiedNew
  simp only [atPoint_of_bare bare, pure_bind, bind_pure]
  exact parallel_withJson veils fun _ _ _ => parallel_of fun _ _ _ _ => trivial

theorem parallel_createRow (bare : m.schema.hooks = [])
    (shown : m.schema.isOmitted (.str m.schema.primaryKey) = false)
    (conceals : m.schema.Conceals given others) :
    Parallel Eq (m.createRow given) (m.createRow others) := by
  rw [createRow_eq, createRow_eq]
  refine (parallel_checkedNew conceals).bind fun values changed veils => ?_
  refine (parallel_readiedNew bare veils).bind fun row written veils => ?_
  rw [redacted_eq veils]
  refine parallel_after fun _ => (parallel_insertRow veils).bind fun _ _ _ => ?_
  exact (parallel_writtenKey veils shown).onward _

/-! ### Updating -/

theorem parallel_checkedChange (conceals : m.schema.Conceals given others) (key : Value) :
    Parallel (fun found changed => found.1 = changed.1 ∧ m.schema.Veils found.2 changed.2)
      (m.checkedChange key given) (m.checkedChange key others) := by
  refine parallel_after fun existing => ?_
  refine (parallel_prepared conceals _).bind fun record other veils => ?_
  refine (parallel_checkRelated veils _ _).bind fun _ _ _ => parallel_after fun stored => ?_
  exact (parallel_checkUnique veils _ _ _ _).bind fun _ _ _ => parallel_pure ⟨rfl, veils⟩

theorem parallel_readiedChange (bare : m.schema.hooks = []) (existing : Resource)
    (veils : m.schema.Veils record other) :
    Parallel m.schema.Veils (m.readiedChange existing record) (m.readiedChange existing other) := by
  unfold readiedChange
  simp only [atPoint_of_bare bare, pure_bind, bind_pure]
  exact parallel_withJson veils fun column v w => parallel_updatedJson m column _ v w

theorem parallel_writtenChange (veils : m.schema.Veils record other) (key : Value) :
    Parallel Eq (m.writtenChange key record) (m.writtenChange key other) := by
  unfold writtenChange
  rw [isEmpty_of_keys veils.keys, redacted_eq veils]
  split
  · exact parallel_refl _
  · exact parallel_after fun _ => (parallel_update veils.keys _ _).onward _

theorem parallel_concludedChange (veils : m.schema.Veils record other)
    (shown : m.schema.isOmitted (.str m.schema.primaryKey) = false) (key : Value)
    (existing : Resource) :
    Parallel Eq (m.concludedChange key existing record) (m.concludedChange key existing other) := by
  unfold concludedChange
  rw [veils.value?_eq shown]
  refine parallel_after fun resource => parallel_after fun _ => parallel_after fun _ => ?_
  exact parallel_after fun _ => (parallel_emit _ _ _).onward _

theorem parallel_updateRow (bare : m.schema.hooks = [])
    (shown : m.schema.isOmitted (.str m.schema.primaryKey) = false) (key : Value)
    (conceals : m.schema.Conceals given others) :
    Parallel Eq (m.updateRow key given) (m.updateRow key others) := by
  rw [updateRow_eq, updateRow_eq]
  refine (parallel_checkedChange conceals key).bind fun found changed ⟨same, veils⟩ => ?_
  obtain ⟨existing, values⟩ := found
  obtain ⟨_, replaced⟩ := changed
  cases same
  refine (parallel_readiedChange bare existing veils).bind fun row written veils => ?_
  refine (parallel_writtenChange veils key).bind fun _ _ _ => ?_
  exact parallel_concludedChange veils shown key existing

end Model

/-! ## Calls -/

/-- The same write of given values that differ in omitted ones only. -/
inductive Call.Conceals (schema : Schema) : Call → Call → Prop where
  | create {given other : Record} (conceals : schema.Conceals given other) :
      Conceals schema (.create given) (.create other)
  | update (key : Value) {given other : Record} (conceals : schema.Conceals given other) :
      Conceals schema (.update key given) (.update key other)
  | upsert {given other : Record} (conceals : schema.Conceals given other) :
      Conceals schema (.upsert given) (.upsert other)

theorem Model.parallel_call {m : Model} (bare : m.schema.hooks = [])
    (shown : m.schema.isOmitted (.str m.schema.primaryKey) = false)
    (questions : List CollectionCall) {call other : Call} (conceals : call.Conceals m.schema other) :
    Parallel Eq (m.call questions call) (m.call questions other) := by
  have answers : ∀ {first second : Session Resource}, Parallel Eq first second →
      Parallel Eq (Answer.resource <$> first) (Answer.resource <$> second) :=
    fun parallel => parallel.map fun _ _ same => congrArg Answer.resource same
  have creates : ∀ {given others : Record}, m.schema.Conceals given others →
      Parallel Eq (m.create given) (m.create others) :=
    fun conceals => (parallel_createRow bare shown conceals).outermost _ _
  cases conceals with
  | create conceals => exact answers (creates conceals)
  | update key conceals =>
    exact answers ((parallel_updateRow bare shown key conceals).outermost _ _)
  | upsert conceals =>
    refine answers (Parallel.outermost _ _ ?_)
    refine parallel_after fun state => parallel_after fun _ => ?_
    exact (creates conceals).rescue upsertFailure

/-- Omitted values stay out of the log.  On a model without hooks whose primary key is not omitted, a
create, an update or an upsert that returns logs the same messages, at every level and in the same order,
as the same write with other values for omitted fields, run in the same state on the same answers, if it
returns too and the mutators make null of none of these values. -/
theorem Model.omitted_values_stay_unlogged {m : Model} (bare : m.schema.hooks = [])
    (shown : m.schema.isOmitted (.str m.schema.primaryKey) = false)
    (questions : List CollectionCall) {call other : Call} (conceals : call.Conceals m.schema other)
    (s : SessionState) {answer reply : Answer} (first : (m.call questions call s).outcome = .ok answer)
    (second : (m.call questions other s).outcome = .ok reply) :
    messages (m.call questions call s).entries = messages (m.call questions other s).entries :=
  (parallel_call bare shown questions conceals s answer reply first second).1

namespace Sample

/-- Pages whose slugs are unique and omitted from the log. -/
def unloggedSchema : Schema := { slugSchema with omitted := [.str "slug"] }

def unloggedModel : Model :=
  { slugModel with
    engine := ⟨⟨.standard, [⟨unloggedSchema, none⟩]⟩, [], default⟩
    schema := unloggedSchema }

/-- A page with some slug is created after it was found that none has this slug, and read. -/
def unloggedCreation (slug : String) : Ran Answer :=
  unloggedModel.call [] (.create [("slug", .str slug)]) (pageState
    [countReply 0, writtenReply 1,
      rowsReply [[("id", .int 1), ("slug", .str "home"), ("parent_id", .null)]]])

theorem slugs_concealed :
    unloggedSchema.Conceals [("slug", .str "Home")] [("slug", .str "About us")] := by
  refine ⟨rfl, List.nodup_singleton _, fun column v w held seen => ?_⟩
  have named : column = "slug" := by
    by_contra other
    rw [Mapping.value?_cons, if_neg other] at held
    cases held
  subst named
  cases held
  cases seen
  refine Or.inr ⟨by decide, ?_, ?_⟩
  · rintro _ ⟨⟩
    rfl
  · rintro _ ⟨⟩
    rfl

/-- Both slugs can be written, and what is logged is not nothing. -/
theorem slugs_stay_unlogged : 0 < (messages (unloggedCreation "Home").entries).length ∧
    messages (unloggedCreation "Home").entries = messages (unloggedCreation "About us").entries := by
  have returned : (unloggedCreation "Home").outcome.isOk = true ∧
      (unloggedCreation "About us").outcome.isOk = true := by decide +kernel
  obtain ⟨answer, first⟩ := ok_of_isOk returned.1
  obtain ⟨reply, second⟩ := ok_of_isOk returned.2
  refine ⟨by decide +kernel, ?_⟩
  exact Model.omitted_values_stay_unlogged rfl (by decide) [] (.create slugs_concealed) (pageState _)
    first second

end Sample

end Curator
