import Curator.Proofs.Mapping
import Curator.Proofs.Plan.Compiled
import Curator.Proofs.Request.Expanding
import Curator.Proofs.Request.Reading
import Curator.Proofs.Schema.Declared
/-!
# Requests that do not compile

In a registry that passes its check, a request on one of its resources has a plan or is refused, but
for two kinds of operands that nobody checks: time variables that overreach, and cursors that are
integers of too many digits.
-/

set_option autoImplicit false

namespace Curator

open Sql Outcome Calendar

def Registry.Holds (r : Registry) (schema : Schema) : Prop :=
  ∃ registration ∈ r.registrations, registration.schema = schema

namespace FieldSelection

variable {registry : Registry} {hooks : List String} {root schema : Schema} {maxDepth : Int}

/-- A related field leads to a resource that is there. -/
theorem relatedSchema_there (valid : (registry.validate hooks).2 = .ok ())
    (rootHeld : registry.Holds root) (held : registry.Holds schema) {column target : String}
    (related : schema.related.value? column = some target) :
    ∃ next, relatedSchema registry root target = .ok next ∧ registry.Holds next := by
  unfold relatedSchema
  split
  · exact ⟨root, rfl, rootHeld⟩
  · obtain ⟨registration, registered, rfl⟩ := held
    have there := Registry.has_related valid registered (Mapping.mem_of_value? related)
    obtain ⟨next, nextRegistered, found⟩ := Registry.schema_of_has there
    exact ⟨next.schema, found, next, nextRegistered, rfl⟩

theorem addColumn_fails (s : FieldSelection) (path : List String) (table name : String) :
    FailsOnly (s.addColumn schema path table name) fun f => f.category = .request := by
  unfold addColumn
  simp only
  split
  · exact failsOnly_ok _
  · split
    · exact failsOnly_error rfl
    · exact failsOnly_ok _

theorem addReadable_fails (s : FieldSelection) (path : List String) (table : String) :
    FailsOnly (s.addReadable schema path table) fun f => f.category = .request :=
  failsOnly_foldlM (K := fun _ => True) (fun s name _ _ => s.addColumn_fails path table name)
    (fun _ _ _ _ _ _ => trivial) trivial

theorem addName_fails (s : FieldSelection) (path : List String) (table name : String) :
    FailsOnly (s.addName schema path table name) fun f => f.category = .request := by
  unfold addName
  split
  · exact s.addReadable_fails path table
  · split
    · split
      · exact s.addColumn_fails path table name
      · exact failsOnly_error rfl
    · split
      · exact s.addColumn_fails path table name
      · exact failsOnly_error rfl

/-- The parts of a name lead from resource to resource of the registry, or the name is refused. -/
theorem addParts_fails (valid : (registry.validate hooks).2 = .ok ())
    (rootHeld : registry.Holds root) (held : registry.Holds schema) (path : List String)
    (table : String) (s : FieldSelection) (parts : List String) :
    FailsOnly (addParts registry root maxDepth schema path table s parts)
      fun f => f.category = .request := by
  -- each part but the last moves on to another resource of the registry, which is all that is kept
  induction parts generalizing schema path table s with
  | nil => exact failsOnly_ok _
  | cons head rest ih =>
    cases rest with
    | nil => exact s.addName_fails path table head
    | cons next rest =>
      rw [addParts]
      have through : ∀ (s : FieldSelection) (column target : String),
          schema.related.value? column = some target →
          FailsOnly (do
            let related ← relatedSchema registry root target
            let joined := s.join (path ++ [column]) table column related
            addParts registry root maxDepth related (path ++ [column]) joined.2 joined.1
              (next :: rest)) fun f => f.category = .request := by
        intro s column target related
        obtain ⟨nextSchema, found, nextHeld⟩ := relatedSchema_there valid rootHeld held related
        rw [found, ok_bind]
        exact ih nextHeld _ _ _
      simp only
      split
      · exact failsOnly_error rfl
      · split
        · refine failsOnly_foldlM (K := fun _ => True) (fun s readable _ _ => ?_)
            (fun _ _ _ _ _ _ => trivial) trivial
          split
          · rename_i target related
            split
            · exact through s readable target related
            · exact s.addColumn_fails path table readable
          · exact s.addColumn_fails path table readable
        · split
          · rename_i target related
            split
            · exact through s head target related
            · exact failsOnly_error rfl
          · exact failsOnly_error rfl

theorem ofFields_fails (valid : (registry.validate hooks).2 = .ok ())
    (rootHeld : registry.Holds root) (fields : List String) :
    FailsOnly (ofFields registry maxDepth root fields) fun f => f.category = .request := by
  unfold ofFields
  refine FailsOnly.bind ?_ fun s _ => ?_
  · exact failsOnly_foldlM (K := fun _ => True)
      (fun s field _ _ => addParts_fails valid rootHeld rootHeld _ _ s _)
      (fun _ _ _ _ _ _ => trivial) trivial
  · split
    · exact failsOnly_pure _
    · exact failsOnly_pure _

end FieldSelection

namespace Plan

variable {schema : Schema} {now : Moment} {maxDepth : Option Int}

/-! ## Filters -/

theorem rootColumn_fails (name : String) :
    FailsOnly (rootColumn schema name) fun f => f.category = .request := by
  unfold rootColumn
  simp only
  split
  · exact failsOnly_ok _
  · exact failsOnly_error rfl

theorem fieldTests_fails (connector : Connector) (key : String) (column : Column)
    (tests : List (String × Value)) :
    FailsOnly (fieldTests now connector key column tests) (Unexpanded now (.dict tests)) := by
  induction tests with
  | nil => exact failsOnly_ok _
  | cons test rest ih =>
    obtain ⟨name, operand⟩ := test
    rw [fieldTests]
    split
    · exact failsOnly_error (Or.inl rfl)
    · refine ((expand_fails now operand).mono fun _ => .entry).bind fun expanded _ => ?_
      refine (ih.mono fun _ => .laterEntries).bind fun others _ => ?_
      exact failsOnly_pure _

theorem fieldSteps_fails (connector : Connector) (key : String) (v : Value) :
    FailsOnly (fieldSteps schema now connector key v) (Unexpanded now v) := by
  unfold fieldSteps
  split
  · refine FailsOnly.bind ?_ fun column _ => fieldTests_fails connector key column _
    exact (rootColumn_fails key).mono fun _ => Or.inl
  · exact failsOnly_error (Or.inl rfl)

theorem checkDepth_fails (depth : Nat) :
    FailsOnly (checkDepth maxDepth depth) fun f => f.category = .request := by
  unfold checkDepth
  split
  · exact failsOnly_ok _
  · split
    · exact failsOnly_error rfl
    · exact failsOnly_ok _

theorem entrySteps_fails {connector : Connector} {depth : Nat} {key : String} {v : Value}
    {inside : Connector → Except Failure (List PlanStep)}
    (within : ∀ inner, FailsOnly (inside inner) (Unexpanded now v)) :
    FailsOnly (entrySteps schema now maxDepth connector depth key v inside) (Unexpanded now v) := by
  unfold entrySteps
  split
  · refine ((checkDepth_fails depth).mono fun _ => Or.inl).bind fun _ _ => ?_
    exact (within _).bind fun steps _ => failsOnly_pure _
  · split
    · exact fieldSteps_fails connector key v
    · exact failsOnly_error (Or.inl rfl)

theorem filterSteps_plain_fails {connector : Connector} {depth : Nat} {v : Value} (plain : v.Plain) :
    FailsOnly (filterSteps schema now maxDepth connector depth v) (Unexpanded now v) := by
  cases v with
  | list items => exact absurd rfl (plain.1 items)
  | dict entries => exact absurd rfl (plain.2 entries)
  | null => exact failsOnly_ok _
  | date _ | moment _ => exact failsOnly_error (Or.inl rfl)
  | bool _ | int _ | float _ | str _ | bytes _ =>
    rw [filterSteps]
    split
    all_goals first | exact failsOnly_ok _ | exact failsOnly_error (Or.inl rfl)

theorem filterEntry_fails {connector : Connector} {depth : Nat} {key : String} {v : Value}
    (within : ∀ inner,
      FailsOnly (filterSteps schema now maxDepth inner (depth + 1) v) (Unexpanded now v)) :
    FailsOnly (filterEntry schema now maxDepth connector depth key v) (Unexpanded now v) := by
  cases v with
  | list items =>
    rw [filterEntry]
    exact entrySteps_fails within
  | dict entries =>
    rw [filterEntry]
    exact entrySteps_fails within
  | _ =>
    simp only [filterEntry]
    exact entrySteps_fails fun _ => failsOnly_error (Or.inl rfl)

/-- However a filter nests, it has its steps unless it is refused or one of its offsets
overreaches. -/
theorem filterSteps_fails (connector : Connector) (depth : Nat) (v : Value) :
    FailsOnly (filterSteps schema now maxDepth connector depth v) (Unexpanded now v) := by
  -- values, items and entries in one induction, as a filter is walked through
  have all : (∀ (v : Value) (connector : Connector) (depth : Nat),
        FailsOnly (filterSteps schema now maxDepth connector depth v) (Unexpanded now v)) ∧
      (∀ (items : List Value) (connector : Connector) (depth : Nat),
        FailsOnly (filterItems schema now maxDepth connector depth items)
          (Unexpanded now (.list items))) ∧
      ∀ (entries : List (String × Value)) (connector : Connector) (depth : Nat),
        FailsOnly (filterEntries schema now maxDepth connector depth entries)
          (Unexpanded now (.dict entries)) := by
    refine Value.nested_induction ?plain ?list ?dict ?items_nil ?items_cons ?entries_nil
      ?entries_cons
    case plain => exact fun v bare connector depth => filterSteps_plain_fails bare
    case list => exact fun items inside => inside
    case dict => exact fun entries inside => inside
    case items_nil =>
      intro connector depth
      rw [filterItems]
      exact failsOnly_ok _
    case items_cons =>
      intro v rest _ entriesOf restOf connector depth
      cases v with
      | dict entries =>
        rw [filterItems]
        have first := entriesOf entries rfl connector depth
        refine (first.mono fun _ => .item).bind fun steps _ => ?_
        refine ((restOf connector depth).mono fun _ => .laterItems).bind fun others _ => ?_
        exact failsOnly_pure _
      | _ =>
        simp only [filterItems]
        exact failsOnly_error (Or.inl rfl)
    case entries_nil =>
      intro connector depth
      rw [filterEntries]
      exact failsOnly_ok _
    case entries_cons =>
      intro key v rest valueOf restOf connector depth
      rw [filterEntries]
      have first := @filterEntry_fails schema now maxDepth connector depth key v
        fun inner => valueOf inner (depth + 1)
      refine (first.mono fun _ => .entry).bind fun steps _ => ?_
      refine ((restOf connector depth).mono fun _ => .laterEntries).bind fun others _ => ?_
      exact failsOnly_pure _
  exact all.1 v connector depth

/-! ## The other parts -/

theorem searchSteps_fails (search : String) :
    FailsOnly (searchSteps schema search) fun f => f.category = .request := by
  unfold searchSteps
  split
  · exact failsOnly_ok _
  · refine FailsOnly.bind ?_ fun tests _ => failsOnly_pure _
    exact failsOnly_mapM fun name _ =>
      (rootColumn_fails name).bind fun column _ => failsOnly_pure _

theorem sortOrder_fails (tokens : List String) :
    FailsOnly (sortOrder schema tokens) fun f => f.category = .request := by
  unfold sortOrder
  split
  · exact failsOnly_ok _
  · refine failsOnly_mapM fun token _ => ?_
    unfold sortItem
    simp only
    split
    · exact failsOnly_ok _
    · exact failsOnly_error rfl

theorem groupColumn_fails (name : String) :
    FailsOnly (groupColumn schema name) fun f => f.category = .request := by
  unfold groupColumn
  split
  · exact failsOnly_ok _
  · exact failsOnly_error rfl

theorem effectiveLimit_fails (requested : Option Int) (defaultLimit maxLimit : Int) :
    FailsOnly (effectiveLimit requested defaultLimit maxLimit) fun f => f.category = .request := by
  unfold effectiveLimit
  split
  · exact failsOnly_ok _
  · split
    · exact failsOnly_ok _
    · split
      · exact failsOnly_error rfl
      · exact failsOnly_ok _

/-- A cursor that is an integer of more digits than can be read. -/
def CursorTooLong (spec : Spec) (f : Failure) : Prop :=
  ∃ text words, Cursor.text? spec.cursor = some text ∧ Cursor.isIntegerText text.toList = true ∧
    Number.digitLimit < (text.toList.filter Text.isDigit).length ∧ f = .fault .value words

theorem cursorSteps_fails (spec : Spec) : FailsOnly (cursorSteps schema spec) fun f =>
    f.category = .request ∨ CursorTooLong spec f := by
  unfold cursorSteps
  simp only
  split
  · exact failsOnly_ok _
  · exact (Cursor.decode_fails spec.cursor).bind fun value _ => failsOnly_pure _
  · exact (Cursor.decode_fails spec.cursor).bind fun value _ => failsOnly_pure _

/-- A request that has no plan is refused, has a filter whose offsets overreach, or a cursor that is
too long. -/
theorem compile_fails {setting : Setting} {hooks : List String} {trashed : TrashedMode}
    {listAll : Bool} {equals : Record}
    (valid : (setting.registry.validate hooks).2 = .ok ()) (held : setting.registry.Holds schema)
    (spec : Spec) : FailsOnly (compile setting schema spec trashed listAll equals) fun f =>
      Unexpanded setting.now spec.filter f ∨ CursorTooLong spec f := by
  have refused : ∀ {f : Failure}, f.category = .request →
      Unexpanded setting.now spec.filter f ∨ CursorTooLong spec f :=
    fun category => Or.inl (Or.inl category)
  unfold compile
  refine FailsOnly.bind ?_ fun selected _ => ?_
  · exact (FieldSelection.ofFields_fails valid held _).mono fun _ => refused
  refine FailsOnly.bind ?_ fun filter _ => ?_
  · exact (filterSteps_fails .and 0 spec.filter).mono fun _ => Or.inl
  refine FailsOnly.bind ?_ fun search _ => ?_
  · exact (searchSteps_fails spec.search).mono fun _ => refused
  refine FailsOnly.bind ?_ fun order _ => ?_
  · exact (sortOrder_fails spec.sort).mono fun _ => refused
  refine FailsOnly.bind ?_ fun group _ => ?_
  · exact failsOnly_mapM fun name _ => (groupColumn_fails name).mono fun _ => refused
  cases listAll with
  | true => exact failsOnly_pure _
  | false =>
    refine FailsOnly.bind ?_ fun limit _ => ?_
    · exact (effectiveLimit_fails spec.limit _ _).mono fun _ => refused
    refine FailsOnly.bind ?_ fun cursor _ => failsOnly_pure _
    refine (cursorSteps_fails spec).mono fun f cause => ?_
    rcases cause with category | long
    · exact refused category
    · exact Or.inr long

end Plan

end Curator
