import Curator.Model.Perform
import Curator.Proofs.Lifecycle.Closed
/-!
# Work without hooks

The parts of a model's work that run no hooks, and the questions to collections, have every property
that their steps have and sequences hand on.
-/

set_option autoImplicit false

namespace Curator

open Sql

namespace Session

open Model

variable {K : ∀ {α : Type}, Session α → Prop}

/-! ## Rows -/

section

variable (closed : Closed K)

include closed

theorem Closed.rowsOf (table : String) : K (rowsOf table) :=
  closed.bind closed.dialect fun _ => closed.of _

theorem Closed.rows (m : Model) : K m.rows := closed.rowsOf m.schema.table

theorem Closed.visible (m : Model) (selection : Select) (mode : TrashedMode) :
    K (m.visible selection mode) := by
  unfold Model.visible
  split
  · exact closed.pure _
  · cases mode with
    | include_ => exact closed.pure _
    | only => exact closed.of _
    | exclude => exact closed.of _

theorem Closed.mode : K mode :=
  closed.model_bind (fun state => closed.pure state.trashed) fun _ => rfl

theorem Closed.upserting : K upserting :=
  closed.model_bind (fun state => closed.pure state.upserting) fun _ => rfl

theorem Closed.seeing (m : Model) {mode : TrashedMode} (chooses : K (trashing mode)) :
    K (m.seeing mode) := by
  unfold Model.seeing
  split
  · exact chooses
  · exact closed.fail _

theorem Closed.planFor (m : Model) (spec : Spec) (mode : TrashedMode) (all : Bool)
    (equals : Record) : K (m.planFor spec mode all equals) :=
  closed.bind (closed.of _) fun plan =>
    closed.bind (closed.debug (by simp [planMessage, toString])) fun _ => closed.pure _

theorem Closed.narrowedTo (m : Model) (values : Record) (names : List String)
    (selection : Select) : K (m.narrowedTo values names selection) := by
  induction names generalizing selection with
  | nil => exact closed.pure selection
  | cons name rest ih => exact closed.bind (closed.of _) fun _ => ih _

theorem Closed.excluding (m : Model) (key : Value) (selection : Select) :
    K (m.excluding key selection) := by
  unfold Model.excluding
  split
  · exact closed.pure _
  · exact closed.of _

theorem Closed.relatedRows (related : Schema) (value : Value) : K (relatedRows related value) := by
  refine closed.bind (closed.rowsOf _) fun _ => closed.bind (closed.of _) fun _ => ?_
  split
  · exact closed.of _
  · exact closed.pure _

theorem Closed.withJson (m : Model) (fields : Record) {change : String → Value → Session Record}
    (changes : ∀ column data, K (change column data)) : K (m.withJson fields change) := by
  unfold Model.withJson
  split
  · exact closed.pure _
  · split
    · exact closed.pure _
    · refine closed.bind (closed.of _) fun _ => closed.bind (changes _ _) fun _ => ?_
      exact closed.bind (closed.of _) fun _ => closed.pure _

theorem Closed.definedJson (column : String) (data : Value) : K (definedJson column data) :=
  closed.of _

theorem Closed.requires {α : Type} {capable : Bool} {name : String} {work : Session α}
    (held : K work) : K (requires capable name work) := by
  unfold Model.requires
  split
  · exact held
  · exact closed.fail _

theorem Closed.withJsonColumn {m : Model} {name : String} {work : String → Session Answer}
    (held : ∀ column, K (work column)) : K (m.withJsonColumn name work) := by
  unfold Model.withJsonColumn
  split
  · exact held _
  · exact closed.fail _

theorem Closed.reportedKey : K reportedKey := by
  refine closed.bind closed.lastId fun key => ?_
  split
  · exact closed.fail _
  · exact closed.pure _

end

section

variable (reads : Reads K)

include reads

theorem Reads.planRows (plan : Plan) : K (planRows plan) :=
  reads.bind reads.dialect fun _ => reads.bind (reads.of _) fun _ => reads.fetch _

theorem Reads.hasKey (m : Model) (key : Value) : K (m.hasKey key) := by
  refine reads.bind (reads.rows m) fun _ => reads.bind (reads.of _) fun _ => ?_
  refine reads.bind (reads.mode) fun _ => ?_
  refine reads.bind (reads.visible m _ _) fun _ => ?_
  exact reads.bind (reads.total _) fun _ => reads.pure _

theorem Reads.countVisible (m : Model) : K m.countVisible := by
  refine reads.bind (reads.rows m) fun _ => ?_
  refine reads.bind (reads.mode) fun _ => ?_
  exact reads.bind (reads.visible m _ _) fun _ => reads.total _

theorem Reads.storedRow (m : Model) (key : Value) : K (m.storedRow key) := by
  refine reads.bind (reads.rows m) fun _ => reads.bind (reads.of _) fun _ => ?_
  exact reads.bind (reads.fetch _) fun _ => reads.pure _

theorem Reads.keysBefore (m : Model) (name : String) (before : Value) :
    K (m.keysBefore name before) := by
  refine reads.bind (reads.rows m) fun _ => reads.bind (reads.of _) fun _ => ?_
  refine reads.bind (reads.of _) fun _ => reads.bind (reads.of _) fun _ => ?_
  exact reads.bind (reads.fetch _) fun _ => reads.of _

theorem Reads.checkRelated (m : Model) (kind : WriteKind) (fields : Record)
    (related : List (String × String)) : K (m.checkRelated kind fields related) := by
  induction related with
  | nil => exact reads.pure ()
  | cons entry rest ih =>
    rcases entry with ⟨field, target⟩
    unfold Model.checkRelated
    simp only
    split
    · exact ih
    · refine reads.bind (reads.of _) fun _ => ?_
      refine reads.bind (reads.relatedRows _ _) fun _ => ?_
      refine reads.bind (reads.total _) fun count => ?_
      split
      · exact reads.fail _
      · exact ih

theorem Reads.checkUnique (m : Model) (kind : WriteKind) (fields stored : Record)
    (excluded : Value) (keys : List UniqueKey) :
    K (m.checkUnique kind fields stored excluded keys) := by
  induction keys with
  | nil => exact reads.pure ()
  | cons unique rest ih =>
    unfold Model.checkUnique
    simp only
    split
    · refine reads.bind (reads.rows m) fun _ => ?_
      refine reads.bind (reads.narrowedTo m _ _ _) fun _ => ?_
      refine reads.bind (reads.excluding m _ _) fun _ => ?_
      refine reads.bind (reads.total _) fun count => ?_
      split
      · exact reads.fail _
      · exact ih
    · exact ih

theorem Reads.updatedJson (m : Model) (column : String) (key data : Value) :
    K (m.updatedJson column key data) := by
  refine reads.bind (reads.rows m) fun _ => reads.bind (reads.of _) fun _ => ?_
  refine reads.bind (reads.of _) fun _ => reads.bind (reads.fetch _) fun _ => ?_
  exact reads.bind (reads.of _) fun _ => reads.bind (reads.of _) fun _ => reads.of _

theorem Reads.conflictKey (m : Model) (values : Record) : K (m.conflictKey? values) := by
  unfold Model.conflictKey?
  simp only
  split
  · refine reads.bind (reads.rows m) fun _ => reads.bind (reads.of _) fun _ => ?_
    refine reads.bind (reads.narrowedTo m _ _ _) fun _ => ?_
    refine reads.bind (reads.fetch _) fun rows => ?_
    split
    · exact reads.pure _
    · exact reads.bind (reads.of _) fun _ => reads.pure _
  · exact reads.pure _

theorem Reads.writtenKey (m : Model) (values : Record) : K (m.writtenKey values) := by
  unfold Model.writtenKey
  simp only
  split
  · refine reads.bind (reads.upserting) fun overwriting => ?_
    split
    · refine reads.bind (reads.conflictKey m values) fun found => ?_
      split
      · exact reads.pure _
      · exact reads.reportedKey
    · exact reads.reportedKey
  · exact reads.pure _

end

section

variable (writes : Writes K)

include writes

theorem Writes.insertRow (m : Model) (values : Record) : K (m.insertRow values) :=
  writes.bind (writes.upserting) fun _ =>
    writes.bind (writes.insert _ _ _ _) fun _ => writes.pure _

theorem Writes.removeBefore (m : Model) (name : String) (before : Value) :
    K (m.removeBefore name before) := by
  refine writes.bind (writes.rows m) fun _ => writes.bind (writes.of _) fun _ => ?_
  exact writes.bind (writes.of _) fun _ => writes.remove _

end

/-! ## Collections -/

section

variable (writes : Writes K)

include writes

theorem Writes.totalOf (c : Collection) : K c.total :=
  writes.bind writes.dialect fun _ => writes.bind (writes.of _) fun _ => writes.reads.total _

theorem Writes.pagination (c : Collection) : K c.pagination := by
  unfold Collection.pagination
  simp only
  split
  · exact writes.pure _
  · split
    · exact writes.pure _
    · split
      · refine writes.bind (writes.outcomeOf (writes.totalOf c)) fun counted => ?_
        cases counted with
        | error failure => exact writes.pure _
        | ok total =>
          simp only
          split
          · exact writes.pure _
          · exact writes.pure _
      · exact writes.pure _

theorem Writes.clauseAggregates (c : Collection) (found : Record)
    (entries : List (String × Value)) : K (c.clauseAggregates found entries) := by
  induction entries generalizing c found with
  | nil => exact writes.pure _
  | cons entry rest ih =>
    rcases entry with ⟨function, operand⟩
    refine writes.bind writes.dialect fun dialect => ?_
    simp only
    split
    · exact writes.pure _
    · refine writes.bind (writes.outcomeOf (writes.aggregate _ _ _)) fun outcome => ?_
      cases outcome with
      | error failure => exact writes.pure _
      | ok value => exact ih _ _

theorem Writes.aggregates (c : Collection) (found : Record) (clauses : List Value) :
    K (c.aggregates found clauses) := by
  induction clauses generalizing c found with
  | nil => exact writes.pure _
  | cons clause rest ih =>
    unfold Collection.aggregates
    split
    · exact writes.pure _
    · rename_i same
      cases same
      refine writes.bind (writes.clauseAggregates c found _) fun answer => ?_
      rcases answer with ⟨next, outcome⟩
      cases outcome with
      | error failure => exact writes.pure _
      | ok found => exact ih _ _
    · exact writes.pure _

theorem Writes.ask (c : Collection) (question : CollectionCall) : K (c.ask question) := by
  cases question with
  | pagination => exact writes.pagination c
  | aggregate => exact writes.aggregates c [] c.clauses
  | total => exact writes.bind (writes.outcomeOf (writes.totalOf c)) fun _ => writes.pure _
  | read key => exact writes.pure _
  | queryCount => exact writes.pure _
  | rows => exact writes.pure _

theorem Writes.askAll (c : Collection) (questions : List CollectionCall) :
    K (c.askAll questions) := by
  induction questions generalizing c with
  | nil => exact writes.pure []
  | cons question rest ih =>
    exact writes.bind (writes.ask c question) fun _ => writes.bind (ih _) fun _ => writes.pure _

theorem Writes.answered (c : Collection) (questions : List CollectionCall) :
    K (c.answered questions) :=
  writes.bind (writes.askAll c questions) fun _ => writes.pure _

end

end Session

end Curator
