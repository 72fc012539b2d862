import Curator.Model.Collection
import Curator.Proofs.Outcome
/-!
# What is recorded

The entries that work leaves in the journal, in whatever state it starts, and the statements that
questions to a collection send.
-/

set_option autoImplicit false

namespace Curator

open Sql Outcome

/-- Work whose entries have one property and whose result has another. -/
structure Session.Records {α : Type} (P : Entry → Prop) (Q : α → Prop) (work : Session α) :
    Prop where
  entries : ∀ s, ∀ entry ∈ (work s).entries, P entry
  result : ∀ s a, (work s).outcome = .ok a → Q a

namespace Session

variable {α β : Type} {P : Entry → Prop} {Q : α → Prop} {R : β → Prop}

theorem records_pure {a : α} (holds : Q a) : Records P Q (pure a) := by
  refine ⟨fun _ _ member => (nomatch member), fun s b ok => ?_⟩
  cases ok
  exact holds

theorem records_fail (failure : Failure) : Records P Q (fail failure) :=
  ⟨fun _ _ member => (nomatch member), fun _ _ ok => (nomatch ok)⟩

theorem records_state : Records P (fun _ => True) state :=
  ⟨fun _ _ member => (nomatch member), fun _ _ _ => trivial⟩

theorem records_dialect : Records P (fun _ => True) dialect :=
  ⟨fun _ _ member => (nomatch member), fun _ _ _ => trivial⟩

theorem records_setDatabase (database : Database) :
    Records P (fun _ => True) (setDatabase database) :=
  ⟨fun _ _ member => (nomatch member), fun _ _ _ => trivial⟩

theorem records_of {result : Except Failure α} (holds : ∀ a, result = .ok a → Q a) :
    Records P Q (of result) :=
  ⟨fun _ _ member => (nomatch member), fun _ a ok => holds a ok⟩

theorem records_record {entry : Entry} (holds : P entry) :
    Records P (fun _ => True) (record entry) := by
  refine ⟨fun s other member => ?_, fun _ _ _ => trivial⟩
  rw [List.mem_singleton.mp member]
  exact holds

theorem Records.bind {first : Session α} {next : α → Session β} (head : Records P Q first)
    (tail : ∀ a, Q a → Records P R (next a)) : Records P R (first >>= next) := by
  constructor
  · intro s entry member
    simp only [Bind.bind, andThen] at member
    cases outcome : (first s).outcome with
    | error failure =>
      rw [outcome] at member
      exact head.entries s entry member
    | ok a =>
      rw [outcome] at member
      rcases List.mem_append.mp member with member | member
      · exact head.entries s entry member
      · exact (tail a (head.result s a outcome)).entries _ entry member
  · intro s b ok
    simp only [Bind.bind, andThen] at ok
    cases outcome : (first s).outcome with
    | error failure => simp [outcome] at ok
    | ok a =>
      rw [outcome] at ok
      exact (tail a (head.result s a outcome)).result _ b ok

theorem Records.outcomeOf {work : Session α} (records : Records P Q work) :
    Records P (fun _ => True) (outcomeOf work) :=
  ⟨fun s entry member => records.entries s entry member, fun _ _ _ => trivial⟩

/-- A statement that is run is recorded as it is, between messages. -/
theorem records_execute {f : Fragment} (logs : ∀ level message, P (.logged level message))
    (sends : ∀ committed, P (.statement f.sql f.params committed)) :
    Records P (fun _ => True) (execute f) := by
  refine records_state.bind fun s _ => ?_
  split
  · exact records_fail _
  · refine (records_record (logs _ _)).bind fun _ _ => (records_setDatabase _).bind fun _ _ => ?_
    split
    · exact (records_record (sends false)).bind fun _ _ => records_fail _
    · exact (records_record (sends true)).bind fun _ _ => records_pure trivial
    · exact (records_record (sends true)).bind fun _ _ => records_pure trivial

theorem records_single {f : Fragment} (logs : ∀ level message, P (.logged level message))
    (sends : ∀ committed, P (.statement f.sql f.params committed)) :
    Records P (fun _ => True) (single f) := by
  have rows : Records P (fun _ => True) (select f) :=
    (records_execute logs sends).bind fun _ _ => records_pure trivial
  have row : Records P (fun _ => True) (row? f) := rows.bind fun _ _ => records_pure trivial
  exact row.bind fun _ _ => records_pure trivial

end Session

/-! ## Aggregates -/

/-- An entry that an aggregate question makes: a message, or a statement that reduces one readable
column of the root over the rows of the plan. -/
def Plan.OfAggregate (plan : Plan) (entry : Entry) : Prop :=
  (∃ level message, entry = .logged level message) ∨
  ∃ dialect selection function name fragment committed,
    name ∈ plan.schema.readable ∧ plan.selection dialect false = .ok selection ∧
      selection.aggregateSql function (some ⟨name, some plan.schema.table, []⟩) = .ok fragment ∧
      entry = .statement fragment.sql fragment.params committed

namespace Collection

open Session

theorem aggregateColumn_ok {schema : Schema} {operand : Value} {column : Column}
    (ok : aggregateColumn schema operand = .ok column) :
    ∃ name ∈ schema.readable, column = ⟨name, some schema.table, []⟩ := by
  unfold aggregateColumn at ok
  split at ok
  · split at ok
    · rename_i name readable
      cases ok
      exact ⟨name, List.contains_iff_mem.mp readable, rfl⟩
    · cases ok
  · cases ok

theorem records_aggregate {plan : Plan} {dialect : Dialect} {selection : Select} {function : Value}
    {name : String} (readable : name ∈ plan.schema.readable)
    (selects : plan.selection dialect false = .ok selection) :
    Records plan.OfAggregate (fun _ => True)
      (Session.aggregate selection function (some ⟨name, some plan.schema.table, []⟩)) := by
  refine (records_of (Q := fun fragment => _ = Except.ok fragment) fun _ ok => ok).bind
    fun fragment made => ?_
  refine records_single ?_ ?_
  · exact fun level message => Or.inl ⟨level, message, rfl⟩
  · intro committed
    exact Or.inr ⟨dialect, selection, function, name, fragment, committed, readable, selects, made,
      rfl⟩

theorem records_clauseAggregates (c : Collection) (found : Record)
    (entries : List (String × Value)) :
    Records c.plan.OfAggregate (fun answer => answer.1.plan = c.plan)
      (c.clauseAggregates found entries) := by
  induction entries generalizing c found with
  | nil => exact records_pure rfl
  | cons entry rest ih =>
    rcases entry with ⟨function, operand⟩
    refine records_dialect.bind fun dialect _ => ?_
    simp only
    split
    · exact records_pure rfl
    · rename_i aggregate column selection prepared
      obtain ⟨_, _, prepared⟩ := bind_ok prepared
      obtain ⟨_, columnOk, prepared⟩ := bind_ok prepared
      obtain ⟨_, selects, prepared⟩ := bind_ok prepared
      cases pure_ok prepared
      obtain ⟨name, readable, rfl⟩ := aggregateColumn_ok columnOk
      refine (records_aggregate readable selects).outcomeOf.bind fun outcome _ => ?_
      cases outcome with
      | error failure => exact records_pure rfl
      | ok value => exact ih { c with queries := c.queries + 1 } _

/-- Aggregates only ever reduce readable columns of the root. -/
theorem records_aggregates (c : Collection) (found : Record) (clauses : List Value) :
    Records c.plan.OfAggregate (fun _ => True) (c.aggregates found clauses) := by
  induction clauses generalizing c found with
  | nil => exact records_pure trivial
  | cons clause rest ih =>
    unfold aggregates
    split
    · exact records_pure trivial
    · rename_i same
      cases same
      refine (records_clauseAggregates c found _).bind fun answer same => ?_
      rcases answer with ⟨next, outcome⟩
      cases outcome with
      | error failure => exact records_pure trivial
      | ok found =>
        have rest := ih next found
        rw [same] at rest
        exact rest
    · exact records_pure trivial

end Collection

end Curator
