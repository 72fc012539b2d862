import Curator.Plan.Selection
import Curator.Proofs.Schema.Declared
import Mathlib.Data.List.Nodup
import Mathlib.Logic.Relation
/-!
# Steps and joins of a selection

The selection of fields changes in two ways only: a readable column of a resource that is reached is
added, or a resource is joined through a readable related field.  Whatever is true at first and kept
by these steps is true of every selection that comes of a request.  So each resource that is reached
is joined once, under an alias that no other join has, by the primary key of its rows.
-/

set_option autoImplicit false

namespace Curator

open Sql Outcome

/-- The resources along the paths from a root: every field of a path is a readable and related field
of the resource before it. -/
inductive Reaches (registry : Registry) (root : Schema) : List String → Schema → Prop where
  | root : Reaches registry root [] root
  | field {path : List String} {schema next : Schema} {column target : String}
      (before : Reaches registry root path schema) (readable : column ∈ schema.readable)
      (related : schema.related.value? column = some target)
      (found : FieldSelection.relatedSchema registry root target = .ok next) :
      Reaches registry root (path ++ [column]) next

/-- Every resource that is reached has passed the checks of its definition. -/
theorem Reaches.checked {registry : Registry} {root schema : Schema} {path : List String}
    (declared : registry.Declared) (rootChecked : root.Checked)
    (reaches : Reaches registry root path schema) : schema.Checked := by
  cases reaches with
  | root => exact rootChecked
  | field before readable related found =>
    unfold FieldSelection.relatedSchema at found
    split at found
    · cases found
      exact rootChecked
    · exact (declared.schema found).checked

namespace FieldSelection

/-- The table or alias whose columns are those of the resource at a path. -/
def tableAt? (root : Schema) (s : FieldSelection) (path : List String) : Option String :=
  if path = [] then some root.table else (s.joinAt? path).map (·.label)

/-- One change of a selection of fields. -/
inductive Step (registry : Registry) (root : Schema) (maxDepth : Int) :
    FieldSelection → FieldSelection → Prop where
  | column {s t : FieldSelection} {path : List String} {schema : Schema} {table name : String}
      (reaches : Reaches registry root path schema) (place : s.tableAt? root path = some table)
      (readable : baseField name ∈ schema.readable) (whole : '.' ∉ name.toList)
      (added : s.addColumn schema path table name = .ok t) : Step registry root maxDepth s t
  | join {s : FieldSelection} {path : List String} {schema next : Schema}
      {table column target : String} (reaches : Reaches registry root path schema)
      (place : s.tableAt? root path = some table) (readable : column ∈ schema.readable)
      (related : schema.related.value? column = some target)
      (found : relatedSchema registry root target = .ok next)
      (shallow : (path.length + 2 : Int) ≤ maxDepth) :
      Step registry root maxDepth s (s.join (path ++ [column]) table column next).1

/-- Any number of changes. -/
abbrev Steps (registry : Registry) (root : Schema) (maxDepth : Int) :
    FieldSelection → FieldSelection → Prop :=
  Relation.ReflTransGen (Step registry root maxDepth)

/-! ## Single changes -/

/-- What the addition of a column comes to. -/
theorem addColumn_ok {s t : FieldSelection} {schema : Schema} {path : List String}
    {table name : String} (ok : s.addColumn schema path table name = .ok t) :
    (s.hasAlias (fullName path name) = true ∧ t = s) ∨
    (s.hasAlias (fullName path name) = false ∧ (jsonPath name).all Text.isJsonKey = true ∧
      t = if path.isEmpty then
          { s with columns := s.columns ++
              [⟨fullName path name, ⟨baseField name, some table, jsonPath name⟩⟩] }
        else
          FieldSelection.excludeTrashed { s with columns := s.columns ++
            [⟨fullName path name, ⟨baseField name, some table, jsonPath name⟩⟩] } schema table) := by
  unfold addColumn at ok
  simp only at ok
  split at ok
  · rename_i known
    cases ok
    exact Or.inl ⟨known, rfl⟩
  · rename_i fresh
    split at ok
    · cases ok
    · rename_i keys
      cases ok
      refine Or.inr ⟨by simpa using fresh, by simpa using keys, rfl⟩

theorem excludeTrashed_eq (s : FieldSelection) (schema : Schema) (label : String) :
    ((schema.softDeletes = false ∨ label ∈ s.excluded) ∧ s.excludeTrashed schema label = s) ∨
    (schema.softDeletes = true ∧ label ∉ s.excluded ∧ s.excludeTrashed schema label =
      { s with
        excluded := s.excluded ++ [label]
        exclusions := s.exclusions ++
          [.test .and ⟨schema.deletedAtColumn, some label, []⟩ .isNull (.bool true)] }) := by
  unfold excludeTrashed
  split
  · rename_i skipped
    simp only [Bool.or_eq_true, Bool.not_eq_true', List.contains_iff_mem] at skipped
    exact Or.inl ⟨skipped, rfl⟩
  · rename_i kept
    simp only [Bool.or_eq_true, Bool.not_eq_true', not_or, Bool.not_eq_false,
      List.contains_iff_mem] at kept
    exact Or.inr ⟨kept.1, kept.2, rfl⟩

/-- The addition of a column changes nothing about joins. -/
theorem addColumn_keeps {s t : FieldSelection} {schema : Schema} {path : List String}
    {table name : String} (ok : s.addColumn schema path table name = .ok t) :
    t.joins = s.joins ∧ t.related = s.related ∧ t.aliasCounts = s.aliasCounts := by
  rcases addColumn_ok ok with ⟨_, rfl⟩ | ⟨_, _, rfl⟩
  · exact ⟨rfl, rfl, rfl⟩
  · split
    · exact ⟨rfl, rfl, rfl⟩
    · rcases excludeTrashed_eq _ schema table with ⟨_, same⟩ | ⟨_, _, same⟩
      · rw [same]
        exact ⟨rfl, rfl, rfl⟩
      · rw [same]
        exact ⟨rfl, rfl, rfl⟩

theorem addColumn_joins {s t : FieldSelection} {schema : Schema} {path : List String}
    {table name : String} (ok : s.addColumn schema path table name = .ok t) : t.joins = s.joins :=
  (addColumn_keeps ok).1

/-- What a join comes to: the one that is there, or a new one with a new alias. -/
theorem join_eq (s : FieldSelection) (path : List String) (owner column : String)
    (related : Schema) :
    (∃ join, s.joinAt? path = some join ∧ s.join path owner column related = (s, join.label)) ∨
    (s.joinAt? path = none ∧
      ∃ count label, count = (s.aliasCounts.value? related.table).getD 0 + 1 ∧
        label = related.table ++ "_" ++ toString count ∧
        s.join path owner column related =
          ({ s with
              joins := s.joins ++
                [⟨path, related.table, label, owner, column, related.primaryKey⟩]
              related := s.related ++ [(path, related)]
              aliasCounts := s.aliasCounts.put related.table count },
            label)) := by
  unfold join
  cases found : s.joinAt? path with
  | some join => exact Or.inl ⟨join, rfl, rfl⟩
  | none => exact Or.inr ⟨rfl, _, _, rfl, rfl, rfl⟩

theorem joinAt?_path {s : FieldSelection} {path : List String} {join : Join}
    (found : s.joinAt? path = some join) : join.path = path := by
  unfold joinAt? at found
  simpa using List.find?_some found

theorem joinAt?_append {s t : FieldSelection} {more : List Join}
    (joins : t.joins = s.joins ++ more) {path : List String} {join : Join}
    (found : s.joinAt? path = some join) : t.joinAt? path = some join := by
  unfold joinAt? at found ⊢
  rw [joins, List.find?_append, found, Option.some_or]

/-- After a join its path leads to the table that the join gives. -/
theorem join_tableAt? (root : Schema) (s : FieldSelection) {path : List String}
    (some_field : path ≠ []) (owner column : String) (related : Schema) :
    (s.join path owner column related).1.tableAt? root path =
      some (s.join path owner column related).2 := by
  rcases join_eq s path owner column related with ⟨join, found, same⟩ | ⟨fresh, _, _, _, _, same⟩
  · rw [same, tableAt?, if_neg some_field, found]
    rfl
  · rw [same, tableAt?, if_neg some_field, joinAt?, List.find?_append]
    unfold joinAt? at fresh
    simp [fresh]

/-- No change takes a join away. -/
theorem Step.joins {registry : Registry} {root : Schema} {maxDepth : Int} {s t : FieldSelection}
    (step : Step registry root maxDepth s t) : ∃ more, t.joins = s.joins ++ more := by
  cases step with
  | column _ _ _ _ added => exact ⟨[], by rw [addColumn_joins added, List.append_nil]⟩
  | @join path _ next table column _ _ _ _ _ _ _ =>
    rcases join_eq s (path ++ [column]) table column next with ⟨_, _, same⟩ | ⟨_, _, _, _, _, same⟩
    · exact ⟨[], by rw [same, List.append_nil]⟩
    · exact ⟨_, by rw [same]⟩

theorem Step.tableAt? {registry : Registry} {root : Schema} {maxDepth : Int}
    {s t : FieldSelection} (step : Step registry root maxDepth s t) {path : List String}
    {table : String} (place : s.tableAt? root path = some table) :
    t.tableAt? root path = some table := by
  unfold FieldSelection.tableAt? at place ⊢
  split at place
  · rename_i empty
    rw [if_pos empty, place]
  · rename_i some_field
    obtain ⟨more, joins⟩ := step.joins
    obtain ⟨join, found, label⟩ := Option.map_eq_some_iff.mp place
    rw [if_neg some_field, joinAt?_append joins found]
    exact congrArg some label

theorem Steps.tableAt? {registry : Registry} {root : Schema} {maxDepth : Int}
    {s t : FieldSelection} (steps : Steps registry root maxDepth s t) {path : List String}
    {table : String} (place : s.tableAt? root path = some table) :
    t.tableAt? root path = some table := by
  induction steps with
  | refl => exact place
  | tail _ step ih => exact step.tableAt? ih

/-! ## The changes a request makes -/

section

variable {registry : Registry} {root : Schema} {maxDepth : Int}

theorem steps_foldlM {α : Type} {f : FieldSelection → α → Except Failure FieldSelection}
    {xs : List α} {s t : FieldSelection} {path : List String} {table : String}
    (each : ∀ s x t, x ∈ xs → s.tableAt? root path = some table → f s x = .ok t →
      Steps registry root maxDepth s t)
    (place : s.tableAt? root path = some table) (ok : xs.foldlM f s = .ok t) :
    Steps registry root maxDepth s t := by
  refine foldlM_keeps (P := fun u => Steps registry root maxDepth s u) ?_ .refl ok
  intro u x v member before added
  exact before.trans (each u x v member (Steps.tableAt? before place) added)

variable {schema : Schema} {path : List String} {table : String} {s t : FieldSelection}

/-- The columns that stand for all of a resource are added one by one. -/
theorem addColumn_steps (checked : schema.Checked) (reaches : Reaches registry root path schema)
    (place : s.tableAt? root path = some table) {name : String} (readable : name ∈ schema.readable)
    (ok : s.addColumn schema path table name = .ok t) : Steps registry root maxDepth s t := by
  have identifier := checked.readable name readable
  refine .single (.column reaches place ?_ ?_ ok)
  · rw [baseField_of_isIdentifier identifier]
    exact readable
  · exact Text.not_mem_of_isIdentifier identifier (by decide)

theorem addName_steps (checked : schema.Checked) (reaches : Reaches registry root path schema)
    (place : s.tableAt? root path = some table) {name : String} (whole : '.' ∉ name.toList)
    (ok : s.addName schema path table name = .ok t) : Steps registry root maxDepth s t := by
  unfold addName at ok
  split at ok
  · refine steps_foldlM ?_ place ok
    intro s name t member place ok
    exact addColumn_steps checked reaches place member ok
  · split at ok
    · split at ok
      · rename_i readable
        exact .single (.column reaches place (List.contains_iff_mem.mp readable) whole ok)
      · cases ok
    · split at ok
      · rename_i readable
        exact addColumn_steps checked reaches place (List.contains_iff_mem.mp readable) ok
      · cases ok

end

/-- The parts of a dotted name lead from resource to resource by such changes. -/
theorem addParts_steps {registry : Registry} {root schema : Schema} {maxDepth : Int}
    {path parts : List String} {table : String} {s t : FieldSelection}
    (declared : registry.Declared) (rootChecked : root.Checked)
    (reaches : Reaches registry root path schema) (place : s.tableAt? root path = some table)
    (whole : ∀ part ∈ parts, '.' ∉ part.toList)
    (ok : addParts registry root maxDepth schema path table s parts = .ok t) :
    Steps registry root maxDepth s t := by
  induction parts generalizing schema path table s t with
  | nil =>
    cases ok
    exact .refl
  | cons head rest ih =>
    have checked := reaches.checked declared rootChecked
    cases rest with
    | nil => exact addName_steps checked reaches place (whole head List.mem_cons_self) ok
    | cons next rest =>
      rw [addParts] at ok
      simp only at ok
      split at ok
      · cases ok
      · rename_i guard
        have shallow : (path.length + 2 : Int) ≤ maxDepth := by omega
        -- going through a related field is a join and then the rest of the name
        have through : ∀ (s t : FieldSelection) (column target : String),
            column ∈ schema.readable → schema.related.value? column = some target →
            s.tableAt? root path = some table →
            (do
              let related ← relatedSchema registry root target
              let joined := s.join (path ++ [column]) table column related
              addParts registry root maxDepth related (path ++ [column]) joined.2 joined.1
                (next :: rest)) = .ok t →
            Steps registry root maxDepth s t := by
          intro s t column target readable related place ok
          obtain ⟨nextSchema, found, ok⟩ := bind_ok ok
          have joins := Step.join reaches place readable related found shallow
          have reached := Reaches.field reaches readable related found
          have some_field : path ++ [column] ≠ [] := by simp
          have joinedPlace := join_tableAt? root s some_field table column nextSchema
          have others := ih reached joinedPlace
            (fun part member => whole part (List.mem_cons_of_mem head member)) ok
          exact .head joins others
        split at ok
        · refine steps_foldlM ?_ place ok
          intro s readable t member place ok
          split at ok
          · rename_i target related
            split at ok
            · exact through s t readable target member related place ok
            · exact addColumn_steps checked reaches place member ok
          · exact addColumn_steps checked reaches place member ok
        · split at ok
          · rename_i target related
            split at ok
            · rename_i readable
              exact through s t head target (List.contains_iff_mem.mp readable) related place ok
            · cases ok
          · cases ok

/-- Every selection of fields comes about by changes of these two kinds. -/
theorem ofFields_steps {registry : Registry} {root : Schema} {maxDepth : Int}
    {fields : List String} {t : FieldSelection} (declared : registry.Declared)
    (rootChecked : root.Checked) (ok : ofFields registry maxDepth root fields = .ok t) :
    Steps registry root maxDepth empty t := by
  obtain ⟨s, chosen, ok⟩ := bind_ok ok
  have start : empty.tableAt? root [] = some root.table := if_pos rfl
  have before : Steps registry root maxDepth empty s := by
    refine steps_foldlM ?_ start chosen
    intro s field t _ place ok
    exact addParts_steps declared rootChecked .root place
      (fun part member => Text.not_mem_of_mem_split '.' member) ok
  refine before.trans ?_
  split at ok
  · cases ok
    exact .refl
  · rename_i fresh
    have identifier := rootChecked.readable _ rootChecked.cursorField
    have added : s.addColumn root [] root.table root.cursorField = .ok t := by
      cases pure_ok ok
      have label : fullName [] root.cursorField = root.cursorField := by
        simp [fullName, Text.join]
      unfold addColumn
      simp only [label, if_neg fresh, jsonPath_of_isIdentifier identifier,
        baseField_of_isIdentifier identifier]
      rfl
    exact addColumn_steps rootChecked .root (before.tableAt? start) rootChecked.cursorField added

end FieldSelection

/-! ## Paths -/

/-- The last step of a path leads from the resource that the path before it leads to. -/
theorem Reaches.last {registry : Registry} {root child : Schema} {path : List String}
    {column : String} (reaches : Reaches registry root (path ++ [column]) child) :
    ∃ schema target, Reaches registry root path schema ∧ column ∈ schema.readable ∧
      schema.related.value? column = some target ∧
      FieldSelection.relatedSchema registry root target = .ok child := by
  generalize whole : path ++ [column] = all at reaches
  cases reaches with
  | root => simp at whole
  | field before readable related found =>
    obtain ⟨rfl, same⟩ := List.append_inj' whole rfl
    cases same
    exact ⟨_, _, before, readable, related, found⟩

/-- The resource that a path leads to is determined by the path. -/
theorem Reaches.functional {registry : Registry} {root first second : Schema}
    {path : List String} (reaches : Reaches registry root path first)
    (other : Reaches registry root path second) : first = second := by
  induction reaches generalizing second with
  | root =>
    generalize none : ([] : List String) = path at other
    cases other with
    | root => rfl
    | field => simp at none
  | field before readable related found ih =>
    obtain ⟨_, _, otherBefore, _, otherRelated, otherFound⟩ := other.last
    cases ih otherBefore
    cases related.symm.trans otherRelated
    cases found.symm.trans otherFound
    rfl

theorem Reaches.whole {registry : Registry} {root schema : Schema} {path : List String}
    (declared : registry.Declared) (rootChecked : root.Checked)
    (reaches : Reaches registry root path schema) : ∀ part ∈ path, '.' ∉ part.toList := by
  induction reaches with
  | root => exact fun _ member => nomatch member
  | field before readable _ _ ih =>
    intro part member
    rcases List.mem_append.mp member with member | member
    · exact ih part member
    · rw [List.mem_singleton.mp member]
      have identifier := (before.checked declared rootChecked).readable _ readable
      exact Text.not_mem_of_isIdentifier identifier (by decide)

/-! ## Aliases -/

/-- A table with a number behind it tells both the table and the number. -/
theorem numbered_injective {first second : String} {m n : Nat}
    (same : first ++ "_" ++ toString m = second ++ "_" ++ toString n) :
    first = second ∧ m = n := by
  have lists : first.toList ++ '_' :: Nat.toDigits 10 m =
      second.toList ++ '_' :: Nat.toDigits 10 n := by
    have texts := congrArg String.toList same
    simpa [Nat.toString_eq_ofList_toDigits] using texts
  -- the digits hold no underscore, so both texts are cut at the same place
  have cut : ∀ {a b x y : List Char}, a ++ '_' :: x = b ++ '_' :: y → '_' ∉ x →
      ∀ {rest}, b = a ++ rest → rest = [] := by
    intro a b x y same apart rest split
    rw [split, List.append_assoc, List.append_cancel_left_eq] at same
    cases rest with
    | nil => rfl
    | cons c rest =>
      rw [List.cons_append, List.cons.injEq] at same
      exact absurd (same.2 ▸ by simp) apart
  have tables : first.toList = second.toList := by
    rcases List.append_eq_append_iff.mp lists with ⟨rest, split, _⟩ | ⟨rest, split, _⟩
    · rw [split, cut lists Nat.underscore_not_in_toDigits split, List.append_nil]
    · rw [split, cut lists.symm Nat.underscore_not_in_toDigits split, List.append_nil]
  rw [tables, List.append_cancel_left_eq, List.cons.injEq] at lists
  refine ⟨String.toList_inj.mp tables, ?_⟩
  rw [← Nat.ofDigitChars_ten_toDigits (n := m), ← Nat.ofDigitChars_ten_toDigits (n := n), lists.2]

namespace FieldSelection

/-- What is true of every join of a selection: its rows are those of a resource that is reached by
the join's path, from the rows of the resource before. -/
structure JoinedAt (registry : Registry) (root : Schema) (s : FieldSelection) (join : Join)
    (next : Schema) (front : List String) (schema : Schema) : Prop where
  before : Reaches registry root front schema
  reaches : Reaches registry root join.path next
  path : join.path = front ++ [join.column]
  readable : join.column ∈ schema.readable
  owner : s.tableAt? root front = some join.owner
  table : join.table = next.table
  primaryKey : join.primaryKey = next.primaryKey

/-- The aliases are numbered table by table, without repetition. -/
structure AliasesCount (s : FieldSelection) : Prop where
  numbered : ∀ join ∈ s.joins, ∃ n, n ≤ (s.aliasCounts.value? join.table).getD 0 ∧
    join.label = join.table ++ "_" ++ toString n
  distinct : (s.joins.map (·.label)).Nodup

section

variable {registry : Registry} {root : Schema} {maxDepth : Int} {s t : FieldSelection}

theorem JoinedAt.step {join : Join} {next schema : Schema} {front : List String}
    (joined : JoinedAt registry root s join next front schema)
    (step : Step registry root maxDepth s t) : JoinedAt registry root t join next front schema :=
  { joined with owner := step.tableAt? joined.owner }

theorem Steps.joinedAt (steps : Steps registry root maxDepth empty s) :
    ∀ join ∈ s.joins, ∃ next front schema, JoinedAt registry root s join next front schema := by
  induction steps with
  | refl => exact fun _ member => nomatch member
  | @tail s t _ step ih =>
    have kept : ∀ join ∈ s.joins, ∃ next front schema,
        JoinedAt registry root t join next front schema := by
      intro join member
      obtain ⟨next, front, schema, joined⟩ := ih join member
      exact ⟨next, front, schema, joined.step step⟩
    cases step with
    | column _ _ _ _ added =>
      rw [addColumn_joins added]
      exact kept
    | @join path schema next table column target reaches place readable related found shallow =>
      have place := (Step.join reaches place readable related found shallow).tableAt? place
      rcases join_eq s (path ++ [column]) table column next with
        ⟨_, _, same⟩ | ⟨_, count, label, _, _, same⟩
      · rw [same] at kept ⊢
        exact kept
      · intro join member
        rw [same] at member
        rcases List.mem_append.mp member with member | member
        · exact kept join member
        · cases List.mem_singleton.mp member
          exact ⟨next, path, schema, reaches, .field reaches readable related found, rfl, readable,
            place, rfl, rfl⟩

theorem Steps.paths_distinct (steps : Steps registry root maxDepth empty s) :
    (s.joins.map (·.path)).Nodup := by
  induction steps with
  | refl => exact List.nodup_nil
  | @tail s t _ step ih =>
    cases step with
    | column _ _ _ _ added =>
      rw [addColumn_joins added]
      exact ih
    | @join path schema next table column _ _ _ _ _ _ _ =>
      rcases join_eq s (path ++ [column]) table column next with
        ⟨_, _, same⟩ | ⟨fresh, _, _, _, _, same⟩
      · rw [same]
        exact ih
      · rw [same, List.map_append, List.map_singleton, List.nodup_append]
        refine ⟨ih, List.nodup_singleton _, ?_⟩
        intro p known q new
        cases List.mem_singleton.mp new
        obtain ⟨join, member, rfl⟩ := List.mem_map.mp known
        intro equal
        have other := List.find?_eq_none.mp fresh join member
        exact other (beq_iff_eq.mpr equal)

theorem AliasesCount.step (known : s.AliasesCount) (step : Step registry root maxDepth s t) :
    t.AliasesCount := by
  cases step with
  | column _ _ _ _ added =>
    obtain ⟨joins, _, counts⟩ := addColumn_keeps added
    constructor
    · rw [joins, counts]
      exact known.numbered
    · rw [joins]
      exact known.distinct
  | @join path schema next table column _ _ _ _ _ _ _ =>
    rcases join_eq s (path ++ [column]) table column next with
      ⟨_, _, same⟩ | ⟨_, count, label, isCount, isLabel, same⟩
    · rw [same]
      exact known
    · rw [same]
      have counted : ∀ other, ((s.aliasCounts.put next.table count).value? other).getD 0 =
          if other = next.table then count else (s.aliasCounts.value? other).getD 0 := by
        intro other
        rw [Mapping.value?_put]
        split
        · rfl
        · rfl
      constructor
      · intro join member
        rcases List.mem_append.mp member with member | member
        · obtain ⟨n, bound, named⟩ := known.numbered join member
          refine ⟨n, ?_, named⟩
          rw [counted]
          split
          · rename_i sameTable
            rw [sameTable] at bound
            omega
          · exact bound
        · cases List.mem_singleton.mp member
          refine ⟨count, ?_, isLabel⟩
          exact Nat.le_of_eq (by rw [counted, if_pos rfl])
      · -- the new number is beyond those of the table's other aliases
        rw [List.map_append, List.map_singleton, List.nodup_append]
        refine ⟨known.distinct, List.nodup_singleton _, ?_⟩
        intro earlier isEarlier new isNew
        cases List.mem_singleton.mp isNew
        obtain ⟨join, member, rfl⟩ := List.mem_map.mp isEarlier
        obtain ⟨n, bound, named⟩ := known.numbered join member
        intro equal
        simp only [named, isLabel] at equal
        obtain ⟨sameTable, sameCount⟩ := numbered_injective equal
        rw [sameTable] at bound
        omega

theorem Steps.aliasesCount (steps : Steps registry root maxDepth empty s) : s.AliasesCount := by
  induction steps with
  | refl => exact ⟨fun _ member => (nomatch member), List.nodup_nil⟩
  | tail _ step known => exact known.step step

/-- The join at a path, where distinct paths have distinct joins and distinct aliases. -/
theorem Steps.tableAt?_injective (steps : Steps registry root maxDepth empty s)
    {first second : List String} (firstField : first ≠ []) (secondField : second ≠ [])
    {table : String} (place : s.tableAt? root first = some table)
    (other : s.tableAt? root second = some table) : first = second := by
  rw [FieldSelection.tableAt?, if_neg firstField] at place
  rw [FieldSelection.tableAt?, if_neg secondField] at other
  obtain ⟨a, foundA, labelA⟩ := Option.map_eq_some_iff.mp place
  obtain ⟨b, foundB, labelB⟩ := Option.map_eq_some_iff.mp other
  have same : a = b := by
    refine List.inj_on_of_nodup_map steps.aliasesCount.distinct ?_ ?_ (labelA.trans labelB.symm)
    · exact List.mem_of_find?_eq_some foundA
    · exact List.mem_of_find?_eq_some foundB
  rw [← joinAt?_path foundA, ← joinAt?_path foundB, same]

end

end FieldSelection

end Curator
