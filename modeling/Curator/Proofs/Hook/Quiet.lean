import Curator.Proofs.Lifecycle.Untracked
/-!
# Hooks of a model

What the hooks of a model ask for, and what hooks that ask for nothing leave.
-/

set_option autoImplicit false

/-!
## What hooks ask for

A property of works that sequences hand on is handed on by the hooks of a model as well, if the steps
have it that these hooks ask for, and so by reading, which runs the hooks after a read.
-/

namespace Curator

open Sql Session

/-! ### Hooks -/

/-- The steps that the hooks of a point ask for. -/
def Model.asked (m : Model) (point : HookPoint) : List Step :=
  (m.schema.hookNames point.name).flatMap fun name =>
    match m.engine.hooks.declared? name with
    | .ok (some hook) => hook.calls
    | _ => []

theorem Model.mem_asked {m : Model} {point : HookPoint} {name : Value} {hook : Hook} {step : Step}
    (listed : name ∈ m.schema.hookNames point.name)
    (registered : m.engine.hooks.declared? name = .ok (some hook)) (calls : step ∈ hook.calls) :
    step ∈ m.asked point := by
  refine List.mem_flatMap.mpr ⟨name, listed, ?_⟩
  rw [registered]
  exact calls

namespace Session

variable {K : ∀ {α : Type}, Session α → Prop} {m : Model}

section

variable (closed : Closed K)

include closed

theorem Closed.performCalls {perform : Step → Session Answer} {steps : List Step}
    (performs : ∀ step ∈ steps, K (perform step)) : K (Hook.performCalls perform steps) := by
  induction steps with
  | nil => exact closed.pure ()
  | cons step rest ih =>
    have first : K (perform step) := performs step List.mem_cons_self
    have others : K (Hook.performCalls perform rest) :=
      ih fun other member => performs other (List.mem_cons_of_mem step member)
    refine closed.bind (closed.outcomeOf first) fun outcome => ?_
    exact closed.bind (closed.record _ ⟨rfl, nofun, nofun⟩) fun _ => others

theorem Closed.runHook {perform : Step → Session Answer} {context : HookContext} {hook : Hook}
    {record : Record} (performs : ∀ step ∈ hook.calls, K (perform step)) :
    K (hook.run perform context record) := by
  refine closed.bind (closed.record _ ⟨rfl, nofun, nofun⟩) fun _ => ?_
  refine closed.bind (closed.performCalls performs) fun _ => ?_
  split
  · exact closed.pure _
  · simp only
    split
    · exact closed.pure _
    · split
      · exact closed.pure _
      · exact closed.pure _

theorem Closed.runHooks {perform : Step → Session Answer} {table : HookTable}
    {context : HookContext} {names : List Value} {record updates : Record}
    (performs : ∀ name ∈ names, ∀ hook, table.declared? name = .ok (some hook) →
      ∀ step ∈ hook.calls, K (perform step)) :
    K (Hook.runAll perform table context names record updates) := by
  induction names generalizing record updates with
  | nil => exact closed.pure _
  | cons name rest ih =>
    have others : ∀ {record updates}, K (Hook.runAll perform table context rest record updates) :=
      ih fun other member => performs other (List.mem_cons_of_mem name member)
    unfold Hook.runAll
    split
    · exact closed.pure _
    · exact closed.bind (closed.warning _) fun _ => others
    · rename_i hook registered
      have mine := performs name List.mem_cons_self hook registered
      refine closed.bind (closed.debug (by simp [Hook.runningMessage, toString])) fun _ => ?_
      refine closed.bind (closed.runHook mine) fun ran => ?_
      split
      · exact closed.pure _
      · exact others

variable (steps : ∀ point, ∀ step ∈ m.asked point, K (m.perform step))

include steps

theorem Closed.atPoint (point : HookPoint) (record : Record) (previous : Option Record) :
    K (m.atPoint point record previous) := by
  unfold Model.atPoint
  split
  · exact closed.pure _
  · refine closed.bind (closed.runHooks fun name listed hook registered step calls => ?_) fun ran => ?_
    · exact steps point step (Model.mem_asked listed registered calls)
    · split
      · exact closed.fail _
      · exact closed.pure _

theorem Closed.notify (point : HookPoint) (record : Record) (previous : Option Record) :
    K (m.notify point record previous) :=
  closed.bind (closed.atPoint steps point record previous) fun _ => closed.pure _

theorem Closed.shown (plan : Plan) (row : Record) : K (m.shown plan row) :=
  closed.bind (closed.of _) fun _ => closed.atPoint steps _ _ _

end

/-! ### Reading -/

section

variable (reads : Reads K) (steps : ∀ point, ∀ step ∈ m.asked point, K (m.perform step))

include reads steps

theorem Reads.fetchRow (key : Value) (fields : List String) (mode : TrashedMode) :
    K (m.fetchRow key fields mode) := by
  refine reads.bind (reads.planFor m _ _ _ _) fun plan => ?_
  refine reads.bind (reads.planRows plan) fun rows => ?_
  split
  · exact reads.fail _
  · exact reads.shown steps plan _

theorem Reads.resource (key : Value) (mode : TrashedMode) : K (m.resource key mode) :=
  reads.bind (reads.fetchRow steps key [] mode) fun _ => reads.pure _

theorem Reads.visibleResource (key : Value) : K (m.visibleResource key) :=
  reads.bind reads.mode fun mode => reads.resource steps key mode

theorem Reads.readRow (key : Value) (fields : List String) : K (m.readRow key fields) :=
  reads.bind reads.mode fun mode => reads.fetchRow steps key fields mode

theorem Reads.listing (query : Value) (all : Bool) : K (m.listing query all) := by
  refine reads.bind (reads.of _) fun spec => reads.bind reads.mode fun mode => ?_
  refine reads.bind (reads.planFor m _ _ _ _) fun plan => ?_
  refine reads.bind (reads.planRows plan) fun rows => ?_
  exact reads.bind (reads.mapM (reads.shown steps plan) rows) fun _ => reads.pure _

end

end Session

/-!
## Quiet hooks

Hooks that ask for no operations.  What such hooks make of a record is a function of it, and running
them sends nothing.
-/

/-! ### What hooks leave -/

namespace Hook

/-- The record a hook leaves once its calls are done, with its updates or its failure. -/
def left (context : HookContext) (hook : Hook) (record : Record) : HookRun :=
  match hook.failure with
  | some (category, words) => ⟨record, .error (.reported category words)⟩
  | none =>
    let assigned := record.overlay hook.assignments
    match hook.result with
    | none => ⟨assigned, .ok []⟩
    | some result =>
      if result.abort.truthy then
        ⟨assigned, .error (.field (.aborted context.point result.abort.text))⟩
      else ⟨assigned.overlay result.update, .ok result.update⟩

/-- What named hooks leave one after the other. -/
def leftByAll (table : HookTable) (context : HookContext) :
    List Value → Record → Record → HookRun
  | [], record, updates => ⟨record, .ok updates⟩
  | name :: rest, record, updates =>
    match table.declared? name with
    | .error failure => ⟨record, .error failure⟩
    | .ok none => leftByAll table context rest record updates
    | .ok (some hook) =>
      match (hook.left context record).updates with
      | .error failure => ⟨(hook.left context record).record, .error failure⟩
      | .ok more => leftByAll table context rest (hook.left context record).record
          (updates.overlay more)

variable {d : Sql.Dialect} {perform : Step → Session Answer}

theorem run_eq (perform : Step → Session Answer) (context : HookContext) (hook : Hook)
    (record : Record) :
    hook.run perform context record = (do
      Session.record (.hookRan hook.label context record)
      performCalls perform hook.calls
      pure (hook.left context record)) := by
  unfold Hook.run left
  refine bind_congr fun _ => bind_congr fun _ => ?_
  cases hook.failure with
  | some cause => rfl
  | none =>
    cases hook.result with
    | none => rfl
    | some result =>
      simp only
      split
      · rfl
      · rfl

theorem tells_run {context : HookContext} {hook : Hook} {record : Record}
    {Q : Except Failure HookRun → List Exchange → Prop} (quiet : hook.calls = [])
    (holds : Q (.ok (hook.left context record)) []) :
    Tells d (hook.run perform context record) Q := by
  rw [run_eq, quiet]
  simp only [performCalls, pure_bind]
  exact tells_record_bind rfl (tells_pure holds)

theorem tells_runAll {table : HookTable} {context : HookContext} {names : List Value}
    {record updates : Record} {Q : Except Failure HookRun → List Exchange → Prop}
    (quiet : ∀ name ∈ names, ∀ hook, table.declared? name = .ok (some hook) → hook.calls = [])
    (holds : Q (.ok (leftByAll table context names record updates)) []) :
    Tells d (runAll perform table context names record updates) Q := by
  induction names generalizing record updates with
  | nil => exact tells_pure holds
  | cons name rest ih =>
    have others : ∀ other ∈ rest, ∀ hook, table.declared? other = .ok (some hook) →
        hook.calls = [] := fun other member => quiet other (List.mem_cons_of_mem name member)
    unfold runAll
    unfold leftByAll at holds
    split
    · rename_i failure unusable
      rw [unusable] at holds
      exact tells_pure holds
    · rename_i unregistered
      rw [unregistered] at holds
      exact tells_log_bind (ih others holds)
    · rename_i hook registered
      rw [registered] at holds
      refine tells_log_bind (Tells.bind (tells_run (quiet name List.mem_cons_self hook registered) ?_))
      simp only at holds ⊢
      split
      · rename_i failure failed
        rw [failed] at holds
        exact tells_pure holds
      · rename_i more went
        rw [went] at holds
        exact ih others holds

end Hook

namespace Model

/-- The hooks that a model declares ask for no operations. -/
def Quiet (m : Model) : Prop :=
  ∀ point : HookPoint, ∀ name ∈ m.schema.hookNames point.name, ∀ hook,
    m.engine.hooks.declared? name = .ok (some hook) → hook.calls = []

/-- What the hooks of a point make of a record. -/
def hooked (m : Model) (point : HookPoint) (record : Record) (previous : Option Record) :
    Except Failure Record :=
  let context := HookContext.at m.schema.name point.name record previous
  let ran := Hook.leftByAll m.engine.hooks context (m.schema.hookNames point.name) record []
  ran.updates.map fun _ => ran.record

variable {m : Model} {d : Sql.Dialect}

theorem Quiet.atPoint (quiet : m.Quiet) {point : HookPoint} {record : Record}
    {previous : Option Record} {Q : Except Failure Record → List Exchange → Prop}
    (holds : Q (m.hooked point record previous) []) :
    Tells d (m.atPoint point record previous) Q := by
  unfold Model.hooked at holds
  unfold Model.atPoint
  split
  · rename_i none
    rw [none] at holds
    exact tells_pure holds
  · refine Tells.bind (Hook.tells_runAll (quiet point) ?_)
    simp only at holds ⊢
    split
    · rename_i failure failed
      rw [failed] at holds
      exact tells_fail holds
    · rename_i updates went
      rw [went] at holds
      exact tells_pure holds

theorem Quiet.notify (quiet : m.Quiet) {point : HookPoint} {record : Record}
    {previous : Option Record} : Tells d (m.notify point record previous) Silent :=
  (quiet.atPoint (Q := Silent) rfl).bind_none fun _ => tells_pure rfl

theorem Quiet.steps (quiet : m.Quiet) {P : Step → Prop} :
    ∀ point, ∀ step ∈ m.asked point, P step := by
  intro point step asked
  obtain ⟨name, listed, calls⟩ := List.mem_flatMap.mp asked
  split at calls
  · rename_i hook registered
    rw [quiet point name listed hook registered] at calls
    cases calls
  · cases calls

theorem outermost_begun {α : Type} {begin complete : Session Unit} {work : Session α}
    {s : SessionState} (begun : s.model.begun = true) :
    outermost begin complete work s = work s := by
  simp only [outermost, begun, if_true]

theorem tracked_leaves_idle {α : Type} {work : Session α} {s : SessionState}
    (outside : s.model.begun = false) : (m.tracked work s).state.model = .idle := by
  simp only [Model.tracked, outermost, outside, Bool.false_eq_true, if_false]

/-- An operation sends what its work sends between what the hooks for its begin and its completion
send, and returns what its work returns unless one of these fails. -/
theorem tells_tracked {α : Type} {work : Session α} {P : Exchange → Prop}
    {Q R : Except Failure α → List Exchange → Prop}
    (begins : Tells d (m.notify .begin [] none) (Every P))
    (completes : Tells d (m.notify .complete [] none) (Every P)) (tells : Tells d work Q)
    (prevented : ∀ failure begun, (∀ x ∈ begun, P x) → R (.error failure) begun)
    (ended : ∀ outcome begun xs completed, (∀ x ∈ begun ++ completed, P x) → Q outcome xs →
      R outcome (begun ++ (xs ++ completed)))
    (spoiled : ∀ a failure begun xs completed, (∀ x ∈ begun ++ completed, P x) → Q (.ok a) xs →
      R (.error failure) (begun ++ (xs ++ completed))) :
    Tells d (m.tracked work) R := by
  have whole : Tells d (do
      m.notify .begin [] none
      let result ← work
      m.notify .complete [] none
      pure result) R := by
    refine Tells.bind (begins.mono fun outcome begun first => ?_)
    cases outcome with
    | error failure => exact prevented failure begun first
    | ok u =>
      refine Tells.bind (tells.mono fun outcome xs told => ?_)
      cases outcome with
      | error failure =>
        have only : ∀ x ∈ begun ++ [], P x := by
          rw [List.append_nil]
          exact first
        have sent := ended (.error failure) begun xs [] only told
        rw [List.append_nil] at sent
        exact sent
      | ok a =>
        refine Tells.bind (completes.mono fun outcome completed last => ?_)
        have both : ∀ x ∈ begun ++ completed, P x := List.forall_mem_append.mpr ⟨first, last⟩
        cases outcome with
        | error failure => exact spoiled a failure begun xs completed both told
        | ok u =>
          refine tells_pure ?_
          rw [List.append_nil]
          exact ended (.ok a) begun xs completed both told
  intro s script opened
  cases begun : s.model.begun with
  | true =>
    have told := tells s script opened
    simp only [Model.tracked, outermost_begun begun]
    have sent := ended _ [] _ [] nofun told.2
    rw [List.append_nil, List.nil_append] at sent
    exact ⟨told.1, sent⟩
  | false =>
    have inside : (s.inside true).Open d script := ⟨opened.dialect, opened.pending, opened.upserting⟩
    obtain ⟨left, told⟩ := whole (s.inside true) script inside
    simp only [Model.tracked, outermost, begun, Bool.false_eq_true, if_false]
    exact ⟨⟨left.dialect, left.pending, rfl⟩, told⟩

/-- An operation of a quiet model sends what its work sends, and returns what its work returns
unless a hook for its begin or its completion fails. -/
theorem Quiet.tracked (quiet : m.Quiet) {α : Type} {work : Session α}
    {Q R : Except Failure α → List Exchange → Prop} (tells : Tells d work Q)
    (prevented : ∀ failure, R (.error failure) [])
    (ended : ∀ outcome xs, Q outcome xs → R outcome xs)
    (spoiled : ∀ a xs failure, Q (.ok a) xs → R (.error failure) xs) :
    Tells d (m.tracked work) R := by
  have silent : ∀ point, Tells d (m.notify point [] none) (Every fun _ => False) :=
    fun point => closed_every.notify quiet.steps point [] none
  have none : ∀ xs : List Exchange, (∀ x ∈ xs, False) → xs = [] :=
    fun xs => List.eq_nil_iff_forall_not_mem.mpr
  have between : ∀ begun xs completed : List Exchange, (∀ x ∈ begun ++ completed, False) →
      begun ++ (xs ++ completed) = xs := by
    intro begun xs completed nothing
    obtain ⟨first, last⟩ := List.append_eq_nil_iff.mp (none _ nothing)
    rw [first, last, List.nil_append, List.append_nil]
  refine tells_tracked (silent .begin) (silent .complete) tells ?_ ?_ ?_
  · intro failure begun nothing
    rw [none begun nothing]
    exact prevented failure
  · intro outcome begun xs completed nothing told
    rw [between begun xs completed nothing]
    exact ended outcome xs told
  · intro a failure begun xs completed nothing told
    rw [between begun xs completed nothing]
    exact spoiled a xs failure told

end Model

end Curator
