import Curator.Proofs.Outcome
import Curator.Registry.Tables
/-!
# Tables hold registries

A registry in tables does what a registry does.  Calls on the tables have the outcomes of calls on the
registry, one that is refused leaves the tables as they were, and a class that is kept from an earlier
call is the one that would be made now.
-/

set_option autoImplicit false

namespace Curator

open Outcome

theorem Value.same_str {v : Value} {s : String} : v.same (.str s) = true ↔ v = .str s := by
  cases v with
  | str t => simp [Value.same, Value.sameLeaf]
  | _ => simp [Value.same, Value.sameLeaf, Value.quantity?]

namespace Table

variable {α : Type} {table : Table α} {name : Value} {a : α}

theorem get?_append (first second : Table α) (name : Value) :
    get? (first ++ second) name = (first.get? name).or (second.get? name) := by
  unfold get?
  rw [List.find?_append]
  cases first.find? fun entry => entry.1.same name <;> rfl

theorem set_new (new : table.get? name = none) : table.set name a = table ++ [(name, a)] := by
  simp only [set, new, Option.isSome_none, Bool.false_eq_true, if_false]

theorem get?_one (key : Value) :
    get? [(name, a)] key = if name.same key then some a else none := by
  unfold get?
  rw [List.find?_cons]
  cases name.same key <;> rfl

/-- An entry with a new name is found under this name, and all others as before. -/
theorem get?_set_new (new : table.get? name = none) (key : Value) :
    (table.set name a).get? key =
      (table.get? key).or (if name.same key then some a else none) := by
  rw [set_new new, get?_append, get?_one]

end Table

/-! ## Model classes -/

namespace ModelClass

variable {c : ModelClass}

/-- A class whose capabilities all stand before the plain model. -/
def Layered (c : ModelClass) : Prop :=
  ∃ mixins : List Mixin, c.ancestors = mixins.map .mixin ++ [.plain]

theorem layered_plain : plain.Layered := ⟨[], rfl⟩

theorem layered_built (mixins : List Mixin) (jsonColumn : String) :
    (built mixins jsonColumn).Layered :=
  ⟨mixins, rfl⟩

theorem mixes_of_ancestors {mixins : List Mixin} {others : List Ancestor}
    (split : c.ancestors = mixins.map .mixin ++ others) (x : Mixin) :
    c.mixes x = (mixins.contains x || others.contains (.mixin x)) := by
  simp only [mixes, split, List.contains_eq_mem, List.mem_append, List.mem_map, Ancestor.mixin.injEq,
    exists_eq_right, Bool.decide_or]

/-- Rows are trashed by the classes that mix in soft deletes, and deleted by all others. -/
theorem Layered.removal (layered : c.Layered) :
    c.removal? = some (if c.mixes .softDeletes then .trashing else .deleting) := by
  obtain ⟨mixins, split⟩ := layered
  rw [mixes_of_ancestors split]
  simp only [removal?, split]
  clear split
  induction mixins with
  | nil => rfl
  | cons first rest ih =>
    cases first with
    | softDeletes => rfl
    | prunable => exact ih
    | nullableJson => exact ih

/-- The class that serves a resource mixes in what its base does and what the schema switches on. -/
theorem mixes_assembled (c : ModelClass) (resource : String) (schema : Schema) :
    (c.assembled resource schema).mixes .softDeletes =
        (c.mixes .softDeletes || schema.softDeletes) ∧
      (c.assembled resource schema).mixes .prunable = (c.mixes .prunable || schema.prunable) ∧
      (c.assembled resource schema).mixes .nullableJson = c.mixes .nullableJson := by
  have split : (c.assembled resource schema).ancestors =
      (c.missing schema).map .mixin ++ c.ancestors := by
    unfold assembled
    cases c.missing schema <;> rfl
  have found := fun x => mixes_of_ancestors split x
  refine ⟨(found _).trans ?_, (found _).trans ?_, (found _).trans ?_⟩
  all_goals
    change ((c.missing schema).contains _ || c.mixes _) = _
    unfold missing
    cases schema.softDeletes <;> cases schema.prunable <;> cases c.mixes .softDeletes <;>
      cases c.mixes .prunable <;> simp

theorem Layered.assembled (layered : c.Layered) (resource : String) (schema : Schema) :
    (c.assembled resource schema).Layered := by
  obtain ⟨mixins, split⟩ := layered
  unfold ModelClass.assembled
  split
  · exact ⟨mixins, split⟩
  · refine ⟨c.missing schema ++ mixins, ?_⟩
    simp only [split, List.map_append, List.append_assoc]

/-- The kind of the class that serves a resource, from what is kept of its base. -/
theorem kind_assembled {c : ModelClass} {custom : Option Capabilities} {resource : String}
    {schema : Schema} (capabilities : c.capabilities = custom.getD ⟨false, false, none⟩)
    (name : c.name = if custom.isSome then Registry.customName else Registry.plainName) :
    (c.assembled resource schema).kind = Registry.kindFor resource schema custom := by
  obtain ⟨soft, old, json⟩ := mixes_assembled c resource schema
  have column : (c.assembled resource schema).jsonColumn = c.jsonColumn := by
    unfold assembled
    cases c.missing schema <;> rfl
  have called : (c.assembled resource schema).name =
      if (schema.softDeletes && !c.mixes .softDeletes || schema.prunable && !c.mixes .prunable) then
        Registry.modelName resource
      else c.name := by
    unfold assembled missing
    cases schema.softDeletes <;> cases schema.prunable <;> cases c.mixes .softDeletes <;>
      cases c.mixes .prunable <;> rfl
  have softly : c.mixes .softDeletes = (custom.getD ⟨false, false, none⟩).softDeletes :=
    congrArg Capabilities.softDeletes capabilities
  have prunes : c.mixes .prunable = (custom.getD ⟨false, false, none⟩).prunable :=
    congrArg Capabilities.prunable capabilities
  have nullable : (if c.mixes .nullableJson then some c.jsonColumn else none) =
      (custom.getD ⟨false, false, none⟩).nullableJson :=
    congrArg Capabilities.nullableJson capabilities
  simp only [kind, ModelClass.capabilities, soft, old, json, column, called, softly, prunes, nullable,
    name, Registry.kindFor]
  cases schema.softDeletes <;> cases schema.prunable <;>
    cases (custom.getD ⟨false, false, none⟩).softDeletes <;>
    cases (custom.getD ⟨false, false, none⟩).prunable <;> rfl

end ModelClass

/-! ## Registries -/

namespace Registry

/-- The registry after a registration was asked for; one that is refused leaves it as it was. -/
def afterRegister (r : Registry) (schema : Schema) (model : Option CustomModel) : Registry :=
  match r.register schema model with
  | .ok next => next
  | .error _ => r

variable {r : Registry} {schema : Schema}

def adding (r : Registry) (g : Registration) : Registry :=
  { r with registrations := r.registrations ++ [g] }

theorem registration?_adding (r : Registry) (g : Registration) (name : Value) :
    (r.adding g).registration? name =
      (r.registration? name).or (if g.schema.name.same name then some g else none) := by
  unfold registration? adding
  rw [List.find?_append, List.find?_singleton]

theorem register_eq (r : Registry) (schema : Schema) (model : Option CustomModel) :
    r.register schema model =
      if !Table.names schema.name then
        .error (.fault .type s!"unhashable type: '{schema.name.kindName}'")
      else if (r.registration? schema.name).isSome then
        .error (.configuration (.alreadyRegistered schema.name))
      else
        (model.mapM (checkModel schema)).map fun custom => r.adding ⟨schema, custom⟩ := by
  unfold register
  change (if (!Table.names schema.name) = true then _ else _) = _
  split
  · rfl
  split
  · rfl
  cases model with
  | none => rfl
  | some model =>
    simp only [Option.mapM_some]
    cases checkModel schema model <;> rfl

theorem checkModel_ok {capabilities found : Capabilities}
    (ok : checkModel schema (.withCapabilities capabilities) = .ok found) :
    found = capabilities ∧ (capabilities.softDeletes = true → schema.softDeletes = true) ∧
      (capabilities.prunable = true → schema.prunable = true) := by
  unfold checkModel at ok
  simp only at ok
  split at ok
  · cases ok
  · rename_i soft
    split at ok
    · cases ok
    · rename_i old
      have same : found = capabilities := by
        split at ok
        · exact (Except.ok.inj ok).symm
        · split at ok
          · exact (Except.ok.inj ok).symm
          · cases ok
      simp only [Bool.and_eq_true, Bool.not_eq_true', not_and, Bool.not_eq_false] at soft old
      exact ⟨same, soft, old⟩

end Registry

/-! ## Tables -/

namespace Tables

variable {t : Tables} {r : Registry} {schema : Schema} {given : Option GivenClass} {name : String}

theorem after_register (t : Tables) (schema : Schema) (given : Option GivenClass) :
    t.after (register schema given) =
      if !Table.names schema.name then
        (.error (.fault .type s!"unhashable type: '{schema.name.kindName}'"), t)
      else if (t.schemas.get? schema.name).isSome then
        (.error (.configuration (.alreadyRegistered schema.name)), t)
      else
        match given.mapM (admitted schema) with
        | .error failure => (.error failure, t)
        | .ok served => (.ok (), ⟨t.schemas.set schema.name schema,
            served.elim t.customs (t.customs.set schema.name), t.made⟩) := by
  unfold register
  change t.after (if _ then _ else if (t.schemas.get? schema.name).isSome then _ else _) = _
  split
  · rfl
  split
  · rfl
  cases given with
  | none => rfl
  | some given =>
    simp only [Option.mapM_some, keepClass]
    cases admitted schema given with
    | error failure => rfl
    | ok served => rfl

theorem after_modelClass (t : Tables) (name : String) :
    t.after (modelClass name) =
      match t.schemas.get? (.str name) with
      | none => (.error (.configuration (.unknownResource name)), t)
      | some schema =>
        match t.made.get? (.str name) with
        | some made => (.ok made, t)
        | none =>
          let served := ((t.customs.get? (.str name)).getD .plain).assembled name schema
          (.ok served, { t with made := t.made.set (.str name) served }) := by
  unfold modelClass
  change t.after (match t.schemas.get? (.str name) with
    | none => _
    | some schema => match t.made.get? (.str name) with | some made => _ | none => _) = _
  split
  · rfl
  split
  · rfl
  · rfl

/-- A registration that is refused leaves the tables as they were: nothing is kept of a class before
everything about it has been checked. -/
theorem after_refused {failure : Failure}
    (refused : (t.after (register schema given)).1 = .error failure) :
    (t.after (register schema given)).2 = t := by
  rw [after_register] at refused ⊢
  split
  · rfl
  split
  · rfl
  split
  · rfl
  · rename_i accepted
    simp only [*] at refused
    cases refused

/-- The class that serves a resource as it would be made now. -/
def fresh (t : Tables) (name : String) (schema : Schema) : ModelClass :=
  ((t.customs.get? (.str name)).getD .plain).assembled name schema

/-- Tables that hold a registry: its schemas in their order, the classes that came with them and only
such as their schemas allow, and of the classes made so far only those that would be made again. -/
structure Hold (t : Tables) (r : Registry) : Prop where
  schemas : t.schemas = r.registrations.map fun g => (g.schema.name, g.schema)
  registered : ∀ entry ∈ t.customs, ∃ g ∈ r.registrations, g.schema.name = entry.1
  custom : ∀ name g, r.registration? (.str name) = some g →
    (t.customs.get? (.str name)).map ModelClass.capabilities = g.custom
  built : ∀ name c, t.customs.get? (.str name) = some c → ∃ mixins column, c = .built mixins column
  allowed : ∀ g ∈ r.registrations, ∀ c ∈ g.custom,
    (c.softDeletes = true → g.schema.softDeletes = true) ∧
      (c.prunable = true → g.schema.prunable = true)
  made : ∀ name c, t.made.get? (.str name) = some c →
    ∃ g, r.registration? (.str name) = some g ∧ c = t.fresh name g.schema

theorem hold_empty (settings : Settings) : empty.Hold (.empty settings) where
  schemas := rfl
  registered _ member := nomatch member
  custom _ _ found := nomatch found
  built _ _ found := nomatch found
  allowed _ member := nomatch member
  made _ _ found := nomatch found

theorem Hold.get?_schemas (hold : t.Hold r) (name : Value) :
    t.schemas.get? name = (r.registration? name).map (·.schema) := by
  unfold Table.get? Registry.registration?
  rw [hold.schemas, List.find?_map, Option.map_map]
  rfl

theorem Hold.no_custom (hold : t.Hold r) {name : Value} (new : r.registration? name = none) :
    t.customs.get? name = none := by
  unfold Table.get?
  rw [Option.map_eq_none_iff, List.find?_eq_none]
  intro entry inside
  obtain ⟨g, registered, called⟩ := hold.registered entry inside
  rw [← called]
  exact List.find?_eq_none.mp new g registered

section Adding

variable (served : Option ModelClass)

/-- Under a name the classes that came with schemas have what they had before, or the new one. -/
theorem Hold.get?_customs (hold : t.Hold r) (new : r.registration? schema.name = none) (name : String) :
    Table.get? (served.elim t.customs (t.customs.set schema.name)) (.str name) =
      (t.customs.get? (.str name)).or (if schema.name.same (.str name) then served else none) := by
  cases served with
  | none => simp
  | some c => exact Table.get?_set_new (hold.no_custom new) _

theorem Hold.get?_customs_old (hold : t.Hold r) (new : r.registration? schema.name = none)
    {g : Registration} (registered : r.registration? (.str name) = some g) :
    Table.get? (served.elim t.customs (t.customs.set schema.name)) (.str name) =
      t.customs.get? (.str name) := by
  have other : ¬ schema.name.same (.str name) = true := by
    intro same
    rw [Value.same_str.mp same, registered] at new
    cases new
  rw [hold.get?_customs served new, if_neg other, Option.or_none]

theorem Hold.registered_adding (hold : t.Hold r) (new : r.registration? schema.name = none) :
    ∀ entry ∈ served.elim t.customs (t.customs.set schema.name),
      ∃ g ∈ (r.adding ⟨schema, served.map ModelClass.capabilities⟩).registrations,
        g.schema.name = entry.1 := by
  have known : ∀ entry ∈ t.customs,
      ∃ g ∈ (r.adding ⟨schema, served.map ModelClass.capabilities⟩).registrations,
        g.schema.name = entry.1 := by
    intro entry inside
    obtain ⟨g, registered, called⟩ := hold.registered entry inside
    exact ⟨g, List.mem_append_left _ registered, called⟩
  cases served with
  | none => exact known
  | some c =>
    intro entry inside
    rw [Option.elim_some, Table.set_new (hold.no_custom new)] at inside
    rcases List.mem_append.mp inside with inside | last
    · exact known entry inside
    · refine ⟨_, List.mem_append_right _ List.mem_cons_self, ?_⟩
      rw [List.mem_singleton.mp last]

theorem Hold.custom_adding (hold : t.Hold r) (new : r.registration? schema.name = none) {g : Registration}
    (found : (r.adding ⟨schema, served.map ModelClass.capabilities⟩).registration? (.str name) = some g) :
    (Table.get? (served.elim t.customs (t.customs.set schema.name)) (.str name)).map
      ModelClass.capabilities = g.custom := by
  rw [Registry.registration?_adding] at found
  cases before : r.registration? (.str name) with
  | some mine =>
    rw [before, Option.some_or] at found
    cases found
    rw [hold.get?_customs_old served new before]
    exact hold.custom name g before
  | none =>
    rw [before, Option.none_or] at found
    rw [hold.get?_customs served new, hold.no_custom before, Option.none_or]
    split at found
    · rename_i same
      cases found
      rw [if_pos same]
    · cases found

/-- Tables hold a registry with one more schema, whose class is kept as well if there is one. -/
theorem Hold.adding (hold : t.Hold r) (new : r.registration? schema.name = none)
    (built : ∀ c ∈ served, ∃ mixins column, c = .built mixins column)
    (allowed : ∀ c ∈ served, (c.mixes .softDeletes = true → schema.softDeletes = true) ∧
      (c.mixes .prunable = true → schema.prunable = true)) :
    Hold ⟨t.schemas.set schema.name schema, served.elim t.customs (t.customs.set schema.name), t.made⟩
      (r.adding ⟨schema, served.map ModelClass.capabilities⟩) where
  schemas := by
    have unnamed : t.schemas.get? schema.name = none := by
      rw [hold.get?_schemas, new, Option.map_none]
    rw [Table.set_new unnamed, hold.schemas, Registry.adding, List.map_append]
    rfl
  registered := hold.registered_adding served new
  custom _ _ := hold.custom_adding served new
  built name c found := by
    rw [hold.get?_customs served new] at found
    rcases Option.or_eq_some_iff.mp found with before | ⟨_, mine⟩
    · exact hold.built name c before
    · split at mine
      · exact built c mine
      · cases mine
  allowed g registered c given := by
    rcases List.mem_append.mp registered with before | last
    · exact hold.allowed g before c given
    · rw [List.mem_singleton.mp last] at given ⊢
      obtain ⟨base, offered, rfl⟩ := Option.map_eq_some_iff.mp given
      exact allowed base offered
  made name c found := by
    obtain ⟨g, before, same⟩ := hold.made name c found
    refine ⟨g, ?_, ?_⟩
    · rw [Registry.registration?_adding, before, Option.some_or]
    · rw [same, fresh, fresh, hold.get?_customs_old served new before]

end Adding

/-- What is asked of a given class decides whether it is admitted. -/
theorem admitted_eq (schema : Schema) (given : GivenClass) :
    (admitted schema given).map ModelClass.capabilities =
      Registry.checkModel schema given.described := by
  cases given with
  | other => rfl
  | model mixins column =>
    unfold admitted
    cases checked : Registry.checkModel schema (GivenClass.model mixins column).described with
    | error failure => rfl
    | ok found =>
      rw [(Registry.checkModel_ok checked).1]
      rfl

theorem admitted_ok {c : ModelClass} {given : GivenClass} (ok : admitted schema given = .ok c) :
    (∃ mixins column, c = .built mixins column) ∧
      (c.mixes .softDeletes = true → schema.softDeletes = true) ∧
      (c.mixes .prunable = true → schema.prunable = true) := by
  obtain ⟨found, checked, ok⟩ := bind_ok ok
  cases given with
  | other => cases ok
  | model mixins column =>
    cases pure_ok ok
    exact ⟨⟨mixins, column, rfl⟩, (Registry.checkModel_ok checked).2⟩

/-- A registration does to the tables what it does to the registry that they hold. -/
theorem Hold.register (hold : t.Hold r) (schema : Schema) (given : Option GivenClass) :
    (t.after (register schema given)).1 =
        (r.register schema (given.map GivenClass.described)).map (fun _ => ()) ∧
      (t.after (register schema given)).2.Hold
        (r.afterRegister schema (given.map GivenClass.described)) := by
  unfold Registry.afterRegister
  rw [after_register, Registry.register_eq, hold.get?_schemas, Option.isSome_map]
  split
  · exact ⟨rfl, hold⟩
  split
  · exact ⟨rfl, hold⟩
  rename_i free
  have new : r.registration? schema.name = none := Option.not_isSome_iff_eq_none.mp free
  cases given with
  | none => exact ⟨rfl, hold.adding none new nofun nofun⟩
  | some given =>
    simp only [Option.map_some, Option.mapM_some, ← admitted_eq]
    cases accepted : admitted schema given with
    | error failure => exact ⟨rfl, hold⟩
    | ok c =>
      obtain ⟨built, allowed⟩ := admitted_ok accepted
      refine ⟨rfl, hold.adding (some c) new ?_ ?_⟩
      · rintro _ ⟨⟩
        exact built
      · rintro _ ⟨⟩
        exact allowed

/-- The class that serves a registered resource, kept or made now. -/
theorem Hold.modelClass (hold : t.Hold r) {g : Registration}
    (registered : r.registration? (.str name) = some g) :
    (t.after (modelClass name)).1 = .ok (t.fresh name g.schema) := by
  rw [after_modelClass, hold.get?_schemas, registered]
  simp only [Option.map_some]
  split
  · rename_i made kept
    obtain ⟨other, found, same⟩ := hold.made name made kept
    cases registered.symm.trans found
    rw [same]
  · rfl

theorem Hold.after_modelClass (hold : t.Hold r) (name : String) :
    (t.after (Tables.modelClass name)).2.Hold r := by
  rw [Tables.after_modelClass, hold.get?_schemas]
  cases registered : r.registration? (.str name) with
  | none => exact hold
  | some g =>
    simp only [Option.map_some]
    split
    · exact hold
    · rename_i unmade
      refine { hold with made := fun other c found => ?_ }
      rw [Table.get?_set_new unmade] at found
      rcases Option.or_eq_some_iff.mp found with before | ⟨_, mine⟩
      · exact hold.made other c before
      · split at mine
        · rename_i same
          cases mine
          cases Value.same_str.mp same
          exact ⟨g, registered, rfl⟩
        · cases mine

/-- What a class that serves a resource is made of: capabilities in front of the plain model, of which
the schema allows each. -/
theorem Hold.base (hold : t.Hold r) {g : Registration}
    (registered : r.registration? (.str name) = some g) {base : ModelClass}
    (given : (t.customs.get? (.str name)).getD .plain = base) :
    base.Layered ∧ (base.mixes .softDeletes = true → g.schema.softDeletes = true) ∧
      (base.mixes .prunable = true → g.schema.prunable = true) ∧
      (base.assembled name g.schema).kind = Registry.kindFor name g.schema g.custom := by
  have custom := hold.custom name g registered
  have inside : g ∈ r.registrations := List.mem_of_find?_eq_some registered
  cases kept : t.customs.get? (.str name) with
  | none =>
    rw [kept] at custom given
    cases given
    refine ⟨ModelClass.layered_plain, nofun, nofun, ?_⟩
    rw [← custom]
    exact ModelClass.kind_assembled rfl rfl
  | some own =>
    rw [kept] at custom given
    cases given
    obtain ⟨mixins, column, rfl⟩ := hold.built name own kept
    obtain ⟨softly, prunes⟩ := hold.allowed g inside _ custom.symm
    refine ⟨ModelClass.layered_built mixins column, softly, prunes, ?_⟩
    rw [← custom]
    exact ModelClass.kind_assembled rfl rfl

/-- A class that serves a resource has the capabilities that its schema switches on, is of the kind
that the registry tells, and removes rows as the schema says. -/
theorem Hold.served (hold : t.Hold r) {g : Registration}
    (registered : r.registration? (.str name) = some g) :
    let c := t.fresh name g.schema
    c.mixes .softDeletes = g.schema.softDeletes ∧ c.mixes .prunable = g.schema.prunable ∧
      c.removal? = some (if g.schema.softDeletes then .trashing else .deleting) ∧
      r.modelKind name = .ok c.kind := by
  intro c
  obtain ⟨layered, softly, prunes, kind⟩ := hold.base registered rfl
  obtain ⟨soft, old, _⟩ :=
    ModelClass.mixes_assembled ((t.customs.get? (.str name)).getD .plain) name g.schema
  have mixed : c.mixes .softDeletes = g.schema.softDeletes :=
    soft.trans (Bool.or_eq_right_iff_imp.mpr softly)
  refine ⟨mixed, old.trans (Bool.or_eq_right_iff_imp.mpr prunes), ?_, ?_⟩
  · rw [← mixed]
    exact (layered.assembled name g.schema).removal
  · simp only [Registry.modelKind, registered]
    exact congrArg _ kind.symm

end Tables

/-- Tables and the registry they hold after the same calls, accepted or refused, from the beginning. -/
inductive Tables.Reached (settings : Settings) : Tables → Registry → Prop
  | start : Reached settings .empty (.empty settings)
  | register {t : Tables} {r : Registry} (schema : Schema) (given : Option GivenClass) :
      Reached settings t r → Reached settings (t.after (Tables.register schema given)).2
        (r.afterRegister schema (given.map GivenClass.described))
  | modelClass {t : Tables} {r : Registry} (name : String) :
      Reached settings t r → Reached settings (t.after (Tables.modelClass name)).2 r

theorem Tables.Reached.hold {settings : Settings} {t : Tables} {r : Registry}
    (reached : Reached settings t r) : t.Hold r := by
  induction reached with
  | start => exact hold_empty settings
  | register schema given _ ih => exact (ih.register schema given).2
  | modelClass name _ ih => exact ih.after_modelClass name

end Curator
