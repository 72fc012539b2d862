import Curator.Proofs.Outcome
import Curator.Proofs.Text.Names
import Curator.Registry.Basic
import Curator.Schema.Definition
/-!
# Declared schemas

What the checks of a definition guarantee of the schema made of it, and so of every schema that a
registry can hold.
-/

set_option autoImplicit false

namespace Curator

open Outcome

theorem identifiers_ok {fail : DefinitionFault → Failure} {values : List Value}
    {names : List String} (ok : identifiers fail values = .ok names) :
    names.map Value.str = values ∧ ∀ name ∈ names, Text.isIdentifier name = true := by
  induction values generalizing names with
  | nil =>
    cases ok
    exact ⟨rfl, fun name member => nomatch member⟩
  | cons value rest ih =>
    cases value with
    | str name =>
      rw [identifiers] at ok
      split at ok
      · rename_i valid
        obtain ⟨others, tail, ok⟩ := bind_ok ok
        cases pure_ok ok
        obtain ⟨same, identified⟩ := ih tail
        refine ⟨by rw [List.map_cons, same], ?_⟩
        intro other member
        rcases List.mem_cons.mp member with rfl | member
        · exact valid
        · exact identified other member
      · cases ok
    | _ => cases ok

theorem require_ok {condition : Bool} {failure : Failure} {u : Unit}
    (ok : require condition failure = .ok u) : condition = true := by
  unfold require at ok
  split at ok
  · assumption
  · cases ok

theorem searchName_ok {fail : DefinitionFault → Failure} {readable : List String} {value : Value}
    {name : String} (ok : searchName fail readable value = .ok name) :
    baseField name ∈ readable := by
  unfold searchName at ok
  split at ok
  · split at ok
    · rename_i found
      cases ok
      exact List.contains_iff_mem.mp found
    · cases ok
  · cases ok
  · cases ok

/-- What a schema has of its definition: the names that were checked, each row of them with the values
it was read from, and what was required of them. -/
structure Schema.MadeOf (s : Schema) (d : Definition) (fail : DefinitionFault → Failure) : Prop where
  names : ∃ cursor, identifiers fail [d.table, d.primaryKey, cursor] =
    .ok [s.table, s.primaryKey, s.cursorField]
  readable : ∃ given, identifiers fail given = .ok s.readable
  someReadable : (!s.readable.isEmpty) = true
  keyReadable : s.readable.contains s.primaryKey = true
  cursorReadable : s.readable.contains s.cursorField = true
  search : ∃ given : List Value, given.mapM (searchName fail s.readable) = .ok s.search
  unique : ∃ given declared named columns, uniqueNames given = .ok declared ∧
    (declared.mapM fun (single, values) => do
      let names ← identifiers fail values
      pure (single, names)) = .ok named ∧
    (named.mapM fun (single, names) => uniqueKey fail columns single names) = .ok s.unique
  deletedAt : s.deletedAt = if d.deletedAt.isNull then none else some d.deletedAt
  deletedAtNamed : ∃ names,
    identifiers fail (if d.deletedAt.truthy then [d.deletedAt] else []) = .ok names
  pruneField : s.pruneField = if d.pruneField.isNull then none else some d.pruneField
  pruneFieldNamed : ∃ names,
    identifiers fail (if d.pruneField.truthy then [d.pruneField] else []) = .ok names
  writable : ∃ given names, ∃ rules : List FieldRules, identifiers fail given = .ok names ∧
    s.writable = Mapping.ofPairs (names.zip rules)
  related : ∃ (given : Record) (names columns : List String),
    identifiers fail (given.keys.map Value.str) = .ok names ∧
    (given.mapM fun (field, target) => relatedEntry fail columns field target) = .ok s.related
  upsertConflict : ∃ given, given ≠ [] ∧ identifiers fail given = .ok s.upsertConflict

theorem Schema.ofDefinition_ok {d : Definition} {s : Schema} (ok : Schema.ofDefinition d = .ok s) :
    ∃ fail, s.MadeOf d fail := by
  unfold Schema.ofDefinition at ok
  -- the parts are brought into form
  iterate 7 obtain ⟨_, _, ok⟩ := bind_ok ok
  obtain ⟨uniqueGiven, uniqueRead, ok⟩ := bind_ok ok
  iterate 6 obtain ⟨_, _, ok⟩ := bind_ok ok
  obtain ⟨conflictGiven, _, ok⟩ := bind_ok ok
  -- names are checked to be identifiers
  obtain ⟨mainNames, mainChecked, ok⟩ := bind_ok ok
  obtain ⟨readable, readableChecked, ok⟩ := bind_ok ok
  obtain ⟨_, writableChecked, ok⟩ := bind_ok ok
  obtain ⟨_, relatedNamed, ok⟩ := bind_ok ok
  obtain ⟨_, conflictChecked, ok⟩ := bind_ok ok
  obtain ⟨_, markChecked, ok⟩ := bind_ok ok
  obtain ⟨_, pruneChecked, ok⟩ := bind_ok ok
  obtain ⟨named, namesChecked, ok⟩ := bind_ok ok
  have same := (identifiers_ok mainChecked).1
  obtain ⟨table, primaryKey, cursorField, rfl⟩ :=
    List.length_eq_three.mp (by simpa using congrArg List.length same)
  -- and then to stand to one another as they have to
  obtain ⟨_, someReadable, ok⟩ := bind_ok ok
  obtain ⟨_, keyReadable, ok⟩ := bind_ok ok
  obtain ⟨_, cursorReadable, ok⟩ := bind_ok ok
  obtain ⟨search, searchChecked, ok⟩ := bind_ok ok
  obtain ⟨_, _, ok⟩ := bind_ok ok
  obtain ⟨related, relatedChecked, ok⟩ := bind_ok ok
  obtain ⟨unique, uniqueChecked, ok⟩ := bind_ok ok
  iterate 6 obtain ⟨_, _, ok⟩ := bind_ok ok
  cases pure_ok ok
  have someConflict :
      (if conflictGiven.isEmpty then [d.primaryKey] else conflictGiven) ≠ [] := by
    cases conflictGiven with
    | nil => simp
    | cons first others => simp
  exact ⟨_, ⟨_, mainChecked⟩, ⟨_, readableChecked⟩, require_ok someReadable, require_ok keyReadable,
    require_ok cursorReadable, ⟨_, searchChecked⟩,
    ⟨_, uniqueGiven, named, _, uniqueRead, namesChecked, uniqueChecked⟩, rfl, ⟨_, markChecked⟩, rfl,
    ⟨_, pruneChecked⟩, ⟨_, _, _, writableChecked, rfl⟩, ⟨_, _, _, relatedNamed, relatedChecked⟩,
    ⟨_, someConflict, conflictChecked⟩⟩

/-- What the checks of a definition guarantee. -/
structure Schema.Checked (s : Schema) : Prop where
  table : Text.isIdentifier s.table = true
  readable : ∀ name ∈ s.readable, Text.isIdentifier name = true
  readable_ne_nil : s.readable ≠ []
  primaryKey : s.primaryKey ∈ s.readable
  cursorField : s.cursorField ∈ s.readable
  search : ∀ name ∈ s.search, baseField name ∈ s.readable

theorem Schema.checked_of_ofDefinition {d : Definition} {s : Schema}
    (ok : Schema.ofDefinition d = .ok s) : s.Checked := by
  obtain ⟨fail, made⟩ := Schema.ofDefinition_ok ok
  obtain ⟨cursor, named⟩ := made.names
  obtain ⟨given, read⟩ := made.readable
  refine ⟨(identifiers_ok named).2 _ List.mem_cons_self, (identifiers_ok read).2, ?_,
    List.contains_iff_mem.mp made.keyReadable, List.contains_iff_mem.mp made.cursorReadable, ?_⟩
  · simpa using made.someReadable
  · intro name member
    obtain ⟨given, found⟩ := made.search
    obtain ⟨value, _, own⟩ := mem_of_mapM_ok found member
    exact searchName_ok own

/-- A schema that comes of a definition, as every schema in use does. -/
def Schema.Declared (s : Schema) : Prop := ∃ d, Schema.ofDefinition d = .ok s

theorem Schema.Declared.checked {s : Schema} (declared : s.Declared) : s.Checked := by
  obtain ⟨d, ok⟩ := declared
  exact Schema.checked_of_ofDefinition ok

/-- A registry whose schemas all come of definitions. -/
def Registry.Declared (r : Registry) : Prop :=
  ∀ registration ∈ r.registrations, registration.schema.Declared

theorem Registry.Declared.schema {r : Registry} (declared : r.Declared) {name : String}
    {s : Schema} (ok : r.schema name = .ok s) : s.Declared := by
  unfold Registry.schema at ok
  split at ok
  · rename_i registration found
    cases ok
    exact declared registration (List.mem_of_find?_eq_some found)
  · cases ok

/-- The fields a search looks into are there and can be read. -/
theorem Schema.Checked.searchTargets {s : Schema} (checked : s.Checked) :
    s.searchTargets ≠ [] ∧ ∀ name ∈ s.searchTargets, baseField name ∈ s.readable := by
  unfold Schema.searchTargets
  split
  · refine ⟨checked.readable_ne_nil, ?_⟩
    intro name member
    rw [baseField_of_isIdentifier (checked.readable name member)]
    exact member
  · rename_i given
    exact ⟨fun none_given => given (by simp [none_given]), checked.search⟩

/-- A mark is checked to be an identifier, unless it counts as false. -/
theorem identifiers_mark {fail : DefinitionFault → Failure} {given value : Value}
    {held : Option Value} {names : List String}
    (own : held = if given.isNull then none else some given)
    (named : identifiers fail (if given.truthy then [given] else []) = .ok names)
    (marks : held = some value) (truthy : value.truthy = true) :
    ∃ name, value = .str name ∧ Text.isIdentifier name = true := by
  rw [marks] at own
  split at own
  · cases own
  · cases own
    rw [if_pos truthy] at named
    obtain ⟨same, identified⟩ := identifiers_ok named
    obtain ⟨name, rest, rfl⟩ := List.exists_cons_of_ne_nil (l := names) (by rintro rfl; cases same)
    rw [List.map_cons, List.cons.injEq] at same
    exact ⟨name, same.1.symm, identified name List.mem_cons_self⟩

theorem Schema.Declared.deletedAt {s : Schema} (declared : s.Declared) {value : Value}
    (marks : s.deletedAt = some value) (truthy : value.truthy = true) :
    ∃ name, value = .str name ∧ Text.isIdentifier name = true := by
  obtain ⟨d, ok⟩ := declared
  obtain ⟨fail, made⟩ := Schema.ofDefinition_ok ok
  obtain ⟨names, named⟩ := made.deletedAtNamed
  exact identifiers_mark made.deletedAt named marks truthy

theorem Schema.Declared.pruneField {s : Schema} (declared : s.Declared) {value : Value}
    (marks : s.pruneField = some value) (truthy : value.truthy = true) :
    ∃ name, value = .str name ∧ Text.isIdentifier name = true := by
  obtain ⟨d, ok⟩ := declared
  obtain ⟨fail, made⟩ := Schema.ofDefinition_ok ok
  obtain ⟨names, named⟩ := made.pruneFieldNamed
  exact identifiers_mark made.pruneField named marks truthy

/-- The column that marks trashed rows is an identifier; a mark that counts as false was never
checked. -/
theorem Schema.Declared.deletedAtColumn {s : Schema} (declared : s.Declared) {value : Value}
    (marks : s.deletedAt = some value) (truthy : value.truthy = true) :
    Text.isIdentifier s.deletedAtColumn = true := by
  obtain ⟨name, rfl, identified⟩ := declared.deletedAt marks truthy
  rw [Schema.deletedAtColumn, marks]
  exact identified

/-! ## Unique constraints -/

theorem itemsOf_ne_nil {value : Value} {items : List Value}
    (ok : FieldRules.itemsOf value = .ok items) (truthy : value.truthy = true) : items ≠ [] := by
  cases value with
  | list given =>
    cases ok
    simpa [Value.truthy] using truthy
  | dict entries =>
    cases ok
    simpa [Value.truthy, Mapping.keys] using truthy
  | str s =>
    cases ok
    simpa [Value.truthy] using truthy
  | bytes data =>
    cases ok
    simpa [Value.truthy] using truthy
  | _ => cases ok

theorem uniqueNames_ok {values : List Value} {declared : List (Bool × List Value)}
    (ok : uniqueNames values = .ok declared) : ∀ entry ∈ declared, entry.2 ≠ [] := by
  induction values generalizing declared with
  | nil =>
    cases ok
    exact nofun
  | cons value rest ih =>
    unfold uniqueNames at ok
    split at ok
    · exact ih ok
    · rename_i some_names
      split at ok
      · obtain ⟨others, tail, ok⟩ := bind_ok ok
        cases pure_ok ok
        exact List.forall_mem_cons.mpr ⟨by simp, ih tail⟩
      · obtain ⟨names, listed, ok⟩ := bind_ok ok
        obtain ⟨others, tail, ok⟩ := bind_ok ok
        cases pure_ok ok
        exact List.forall_mem_cons.mpr ⟨itemsOf_ne_nil listed (by simpa using some_names), ih tail⟩

theorem uniqueKey_columns {fail : DefinitionFault → Failure} {columns names : List String}
    {single : Bool} {unique : UniqueKey} (ok : uniqueKey fail columns single names = .ok unique) :
    unique.columns = names := by
  obtain ⟨_, _, ok⟩ := bind_ok ok
  cases pure_ok ok
  split
  · rfl
  · rfl

/-- The columns of a unique constraint are some names that were checked. -/
theorem Schema.Declared.unique_read {s : Schema} (declared : s.Declared) :
    ∀ unique ∈ s.unique, ∃ fail values, values ≠ [] ∧
      identifiers fail values = .ok unique.columns := by
  obtain ⟨d, ok⟩ := declared
  obtain ⟨fail, made⟩ := Schema.ofDefinition_ok ok
  obtain ⟨given, declared, named, columns, given_ok, named_ok, unique_ok⟩ := made.unique
  intro key member
  obtain ⟨⟨single, names⟩, named_member, key_ok⟩ := mem_of_mapM_ok unique_ok member
  obtain ⟨⟨_, values⟩, given_member, read⟩ := mem_of_mapM_ok named_ok named_member
  obtain ⟨names, identified, read⟩ := bind_ok read
  cases pure_ok read
  rw [uniqueKey_columns key_ok]
  exact ⟨fail, values, uniqueNames_ok given_ok _ given_member, identified⟩

/-- No unique constraint of a declared schema is without columns. -/
theorem Schema.Declared.unique_columns {s : Schema} (declared : s.Declared) :
    ∀ unique ∈ s.unique, unique.columns ≠ [] := by
  intro key member none
  obtain ⟨fail, values, some_values, identified⟩ := declared.unique_read key member
  rw [none] at identified
  exact some_values (identifiers_ok identified).1.symm

end Curator

/-!
## Validated registries

A registry that passes its own check holds every resource that one of its resources is related to.
-/

namespace Curator.Registry

open Outcome

theorem mem_insertByName {registration : Registration} {before after : List Registration}
    (ok : insertByName registration before = .ok after) :
    registration ∈ after ∧ ∀ other ∈ before, other ∈ after := by
  induction before generalizing after with
  | nil =>
    cases ok
    exact ⟨List.mem_cons_self, by simp⟩
  | cons first rest ih =>
    rw [insertByName] at ok
    split at ok
    · cases ok
    · cases ok
      exact ⟨List.mem_cons_self, fun other member => List.mem_cons_of_mem _ member⟩
    · obtain ⟨others, inserted, ok⟩ := bind_ok ok
      cases pure_ok ok
      obtain ⟨placed, kept⟩ := ih inserted
      refine ⟨List.mem_cons_of_mem first placed, fun other member => ?_⟩
      rcases List.mem_cons.mp member with rfl | member
      · exact List.mem_cons_self
      · exact List.mem_cons_of_mem first (kept other member)

theorem mem_insertAll {registrations before after : List Registration}
    (ok : registrations.foldlM (fun acc registration => insertByName registration acc) before =
      .ok after) : (∀ other ∈ registrations, other ∈ after) ∧ ∀ other ∈ before, other ∈ after := by
  induction registrations generalizing before with
  | nil =>
    cases ok
    exact ⟨by simp, fun other member => member⟩
  | cons first rest ih =>
    rw [List.foldlM_cons] at ok
    obtain ⟨next, inserted, ok⟩ := bind_ok ok
    obtain ⟨placed, kept⟩ := mem_insertByName inserted
    obtain ⟨others, earlier⟩ := ih ok
    exact ⟨List.forall_mem_cons.mpr ⟨earlier first placed, others⟩,
      fun other member => earlier other (kept other member)⟩

theorem mem_schemas {r : Registry} {schemas : List Schema} (ok : r.schemas = .ok schemas)
    {registration : Registration} (registered : registration ∈ r.registrations) :
    registration.schema ∈ schemas := by
  obtain ⟨sorted, sorted_ok, ok⟩ := bind_ok ok
  cases pure_ok ok
  exact List.mem_map_of_mem ((mem_insertAll sorted_ok).1 registration registered)

theorem examine_ok {r : Registry} {hooks : List String} {schemas : List Schema}
    (ok : (r.examine hooks schemas).2 = .ok []) : ∀ schema ∈ schemas, r.unknownTargets schema = [] := by
  induction schemas with
  | nil => simp
  | cons schema rest ih =>
    unfold examine at ok
    simp only at ok
    split at ok
    · cases ok
    · rename_i faults missing checked
      cases others : (r.examine hooks rest).2 with
      | error failure =>
        rw [others] at ok
        cases ok
      | ok more =>
        rw [others] at ok
        obtain ⟨none, rfl⟩ := List.append_eq_nil_iff.mp (Except.ok.inj ok)
        obtain ⟨found, faults_ok, checked⟩ := bind_ok checked
        obtain ⟨unregistered, _, checked⟩ := bind_ok checked
        cases pure_ok checked
        obtain ⟨mutators, _, faults_ok⟩ := bind_ok faults_ok
        obtain ⟨accessors, _, faults_ok⟩ := bind_ok faults_ok
        have whole := pure_ok faults_ok
        rw [none, List.append_eq_nil_iff, List.append_eq_nil_iff] at whole
        exact List.forall_mem_cons.mpr ⟨whole.1.1, ih others⟩

/-- In a registry that passes its check, no resource is related to one that is not there. -/
theorem has_related {r : Registry} {hooks : List String} (valid : (r.validate hooks).2 = .ok ())
    {registration : Registration} (registered : registration ∈ r.registrations)
    {field target : String} (related : (field, target) ∈ registration.schema.related) :
    r.has target = true := by
  unfold validate at valid
  split at valid
  · cases valid
  · rename_i schemas listed
    simp only at valid
    split at valid
    · cases valid
    · rename_i found
      have known := examine_ok found registration.schema (mem_schemas listed registered)
      unfold unknownTargets at known
      rw [List.map_eq_nil_iff, List.filter_eq_nil_iff] at known
      simpa using known (field, target) related
    · cases valid

/-- A resource that is there can be had, and is one of those registered. -/
theorem schema_of_has {r : Registry} {name : String} (there : r.has name = true) :
    ∃ registration ∈ r.registrations, r.schema name = .ok registration.schema := by
  obtain ⟨registration, found⟩ := Option.isSome_iff_exists.mp there
  refine ⟨registration, List.mem_of_find?_eq_some found, ?_⟩
  rw [schema, found]

end Curator.Registry
