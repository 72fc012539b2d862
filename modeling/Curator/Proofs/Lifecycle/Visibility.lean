import Curator.Proofs.Database.Sent
import Curator.Proofs.Hook.Quiet
import Curator.Proofs.Lifecycle.Calls
import Curator.Proofs.Model.Pages
import Curator.Proofs.Schema.Sample
import Mathlib.Data.List.Induction
/-!
# Which rows an operation sees

A model can be told which rows its next operation sees.  The choice is part of the model's state, and
every operation that is called from outside takes it away again when it ends, in whatever way.  The
removals in one statement are no operations in this sense: they leave a choice for whatever comes after
them.
-/

set_option autoImplicit false

namespace Curator

open Session

/-! ## What calls leave -/

def Call.isQuiet : Call → Bool
  | .purgeTrashedQuietly _ | .pruneQuietly _ => true
  | _ => false

namespace Model

/-- Whether a call is one of the operations that the model has. -/
def operates (m : Model) : Call → Bool
  | .withTrashed | .onlyTrashed | .describe | .defineJson _ | .updateJson _ _ => false
  | .prune _ | .pruneQuietly _ => m.kind.capabilities.prunable
  | .restore _ | .hardDelete _ | .purgeTrashed _ | .purgeTrashedQuietly _ =>
    m.kind.capabilities.softDeletes
  | _ => true

/-- The mode that is chosen for the next operation after a call, `mode` being the one before it. -/
def leaves (m : Model) (mode : TrashedMode) : Call → TrashedMode
  | .withTrashed => .include_
  | .onlyTrashed => .only
  | c => if m.operates c then .exclude else mode

/-- The mode that calls choose for an operation that comes after them: the last one that was chosen
behind the last operation among them, if any. -/
def chosen (m : Model) (calls : List Call) : TrashedMode :=
  calls.foldl m.leaves .exclude

/-- Calls of a model from outside, one after the other.  In between, the database and the bus may
become anything. -/
inductive Called (m : Model) (start : SessionState) : List Call → SessionState → Prop
  | none : m.Called start [] start
  | elsewhere {calls : List Call} {s : SessionState} (database : Database) (bus : EventBus) :
      m.Called start calls s → m.Called start calls { s with database, bus }
  | call {calls : List Call} {s : SessionState} (c : Call) (questions : List CollectionCall) :
      m.Called start calls s → m.Called start (calls ++ [c]) (m.call questions c s).state

theorem chosen_snoc (m : Model) (calls : List Call) (c : Call) :
    m.chosen (calls ++ [c]) = m.leaves (m.chosen calls) c := by
  unfold chosen
  rw [List.foldl_append, List.foldl_cons, List.foldl_nil]

/-- A mode other than the usual one is chosen only by a call behind which no operation came. -/
theorem chosen_since_last_operation (m : Model) (calls : List Call)
    (other : m.chosen calls ≠ .exclude) :
    ∃ before c after, calls = before ++ c :: after ∧ (c = .withTrashed ∨ c = .onlyTrashed) ∧
      ∀ later ∈ after, m.operates later = false := by
  induction calls using List.reverseRecOn with
  | nil => exact absurd rfl other
  | append_singleton calls last ih =>
    rw [chosen_snoc] at other
    by_cases chooses : last = .withTrashed ∨ last = .onlyTrashed
    · refine ⟨calls, last, [], rfl, chooses, ?_⟩
      intro later member
      cases member
    · have left : m.leaves (m.chosen calls) last =
          if m.operates last then .exclude else m.chosen calls := by
        cases last with
        | withTrashed => exact absurd (Or.inl rfl) chooses
        | onlyTrashed => exact absurd (Or.inr rfl) chooses
        | _ => rfl
      rw [left] at other
      cases operates : m.operates last with
      | true =>
        rw [operates, if_pos rfl] at other
        exact absurd rfl other
      | false =>
        rw [operates, if_neg Bool.false_ne_true] at other
        obtain ⟨before, c, after, split, choice, inert⟩ := ih other
        refine ⟨before, c, after ++ [last], ?_, choice, ?_⟩
        · rw [split, List.append_assoc, List.cons_append]
        · intro later member
          rcases List.mem_append.mp member with early | late
          · exact inert later early
          · rw [List.mem_singleton.mp late]
            exact operates

end Model

/-- Work that begins with a given mode. -/
def Session.inMode {α : Type} (mode : TrashedMode) (work : Session α) : Session α :=
  fun s => work { s with model := { s.model with trashed := mode } }

/-! ## Work that leaves the model as it is -/

/-- Work after which the state of the model is what it was. -/
def Session.Unmoved {α : Type} (work : Session α) : Prop :=
  ∀ s, (work s).state.model = s.model

namespace Session

variable {α β : Type}

theorem Unmoved.bind {first : Session α} {next : α → Session β} (head : Unmoved first)
    (tail : ∀ a, Unmoved (next a)) : Unmoved (first >>= next) := by
  intro s
  cases came : (first s).outcome with
  | error failure =>
    rw [ran_failed came]
    exact head s
  | ok a =>
    rw [ran_on came]
    exact (tail a (first s).state).trans (head s)

theorem unmoved_execute (f : Sql.Fragment) : Unmoved (execute f) := by
  intro s
  rcases connected : s.database.pending with - | script
  · rw [execute_disconnected connected]
  · rw [execute_connected connected]

theorem unmoved_writes : Writes Unmoved where
  of _ _ := rfl
  bind := Unmoved.bind
  outcomeOf held s := held s
  record _ _ _ := rfl
  looked _ := rfl
  keepLastId _ _ := rfl
  execute := unmoved_execute

end Session

/-! ## One call from outside -/

namespace Model

variable {m : Model} {s start : SessionState} {calls : List Call}

theorem requires_state {α : Type} {capable : Bool} {name : String} {work : Session α}
    {model : ModelState} (held : capable = true → (work s).state.model = model)
    (lacks : capable = false → s.model = model) :
    (requires capable name work s).state.model = model := by
  unfold requires
  cases capable with
  | true => exact held rfl
  | false => exact lacks rfl

theorem quietly_unmoved (column : String) (before : Value) (message : Int → String) :
    Unmoved (do
      let removed ← m.removeBefore column before
      Session.log .info (message removed)
      pure removed) :=
  unmoved_writes.bind (unmoved_writes.removeBefore m column before) fun _ =>
    unmoved_writes.bind (unmoved_writes.info _) fun _ => unmoved_writes.pure _

/-- A call from outside leaves a model between operations, with what the call chooses for the next one,
unless it is a removal in one statement. -/
theorem call_leaves (soft : m.kind.capabilities.softDeletes = true) (mode : TrashedMode)
    (between : s.model = { ModelState.idle with trashed := mode })
    (questions : List CollectionCall) (c : Call) (loud : c.isQuiet = true → mode = .exclude) :
    (m.call questions c s).state.model =
      { ModelState.idle with trashed := m.leaves mode c } := by
  have outside : s.model.begun = false := by
    rw [between]
    rfl
  have operation : ∀ {α : Type} {work : Session α}, (m.tracked work s).state.model = .idle :=
    tracked_leaves_idle outside
  have stays : ∀ {α : Type} {work : Session α}, Unmoved work →
      (work s).state.model = { ModelState.idle with trashed := mode } :=
    fun unmoved => (unmoved s).trans between
  cases c with
  | list query all =>
    have moved := @operation _ (m.listing query all)
    simp only [Model.call, Bind.bind, andThen]
    cases (m.tracked (m.listing query all) s).outcome with
    | error failure => exact moved
    | ok collection => exact (unmoved_writes.answered collection questions _).trans moved
  | withTrashed | onlyTrashed =>
    simp only [Model.call, seeing, soft, if_true]
    rw [map_state]
    simp only [Bind.bind, andThen, Session.model, Session.setModel, between]
    rfl
  | describe => exact between
  | defineJson data =>
    refine stays (unmoved_writes.withJsonColumn fun column => ?_)
    exact unmoved_writes.map (unmoved_writes.definedJson column data) _
  | updateJson key data =>
    refine stays (unmoved_writes.withJsonColumn fun column => ?_)
    exact unmoved_writes.map (unmoved_writes.reads.updatedJson m column key data) _
  | restore key | hardDelete key | purgeTrashed before =>
    simp only [Model.call, leaves, operates, soft, if_true]
    refine requires_state (fun _ => ?_) fun lacks => ?_
    · rw [map_state]
      exact operation
    · cases lacks
  | prune before =>
    simp only [Model.call]
    refine requires_state (fun prunable => ?_) fun lacks => ?_
    · have left : m.leaves mode (.prune before) = .exclude := if_pos prunable
      rw [map_state, left]
      exact operation
    · have left : m.leaves mode (.prune before) = mode := by
        simp only [leaves, operates, lacks, Bool.false_eq_true, if_false]
      rw [left]
      exact between
  | purgeTrashedQuietly before =>
    cases loud rfl
    simp only [Model.call, leaves, ite_self]
    refine requires_state (fun _ => ?_) fun _ => between
    rw [map_state]
    exact stays (quietly_unmoved _ before _)
  | pruneQuietly before =>
    cases loud rfl
    simp only [Model.call, leaves, ite_self]
    refine requires_state (fun _ => ?_) fun _ => between
    rw [map_state]
    exact stays (quietly_unmoved _ before _)
  | _ =>
    simp only [Model.call]
    rw [map_state]
    exact operation

/-! ## Sequences of calls -/

theorem bind_congr_first {α β : Type} {first first' : Session α} {next : α → Session β}
    (same : first s = first' s) : (first >>= next) s = (first' >>= next) s := by
  simp only [Bind.bind, andThen, same]

theorem bind_congr_at {α β : Type} {first : Session α} {next next' : α → Session β}
    (same : ∀ a, next a (first s).state = next' a (first s).state) :
    (first >>= next) s = (first >>= next') s := by
  cases came : (first s).outcome with
  | error failure => rw [ran_failed came, ran_failed came]
  | ok a => rw [ran_on came, ran_on came, same a]

/-- If the hooks of a model ask for no operations, the work of an operation from outside begins with the
mode that was chosen before. -/
theorem Quiet.runs_inMode (quiet : m.Quiet) (outside : s.model.begun = false) {α : Type}
    (work : Session α) : m.tracked work s = m.tracked (work.inMode s.model.trashed) s := by
  have begins : Unmoved (m.notify .begin [] none) :=
    unmoved_writes.notify quiet.steps .begin [] none
  let t := ((m.notify .begin [] none) (s.inside true)).state
  have sees : t.model.trashed = s.model.trashed := by
    simp only [t, begins (s.inside true)]
    rfl
  have same : work t = work.inMode s.model.trashed t := by
    rw [inMode, ← sees]
  have whole : (do
      m.notify .begin [] none
      let result ← work
      m.notify .complete [] none
      pure result) (s.inside true) = (do
      m.notify .begin [] none
      let result ← work.inMode s.model.trashed
      m.notify .complete [] none
      pure result) (s.inside true) := by
    apply bind_congr_at
    intro begun
    exact bind_congr_first same
  simp only [SessionState.inside] at whole
  simp only [Model.tracked, outermost, outside, Bool.false_eq_true, if_false, whole]

/-- A mode lasts for one operation.  After any calls from outside, whatever their outcomes, the model is
between operations, and the mode in its state is the one that was chosen behind the last operation, if
any; the next operation, whatever its work, runs with this mode.  The calls are such that no removal in
one statement comes while a mode is chosen. -/
theorem chosen_mode_lasts_one_operation (soft : m.kind.capabilities.softDeletes = true)
    (idle : start.model = .idle) (called : m.Called start calls s)
    (loud : ∀ before c after, calls = before ++ c :: after → c.isQuiet = true →
      m.chosen before = .exclude) :
    s.model = { ModelState.idle with trashed := m.chosen calls } ∧
      (m.Quiet → ∀ {α : Type} (work : Session α),
        m.tracked work s = m.tracked (work.inMode (m.chosen calls)) s) := by
  have left : s.model = { ModelState.idle with trashed := m.chosen calls } := by
    induction called with
    | none => exact idle
    | elsewhere database bus called ih => exact ih loud
    | @call calls s c questions called ih =>
      have earlier := ih fun before removal after split quiet => by
        refine loud before removal (after ++ [c]) ?_ quiet
        rw [split, List.append_assoc, List.cons_append]
      rw [chosen_snoc]
      exact call_leaves soft (m.chosen calls) earlier questions c (loud calls c [] rfl)
  refine ⟨left, fun quiet α work => ?_⟩
  have outside : s.model.begun = false := by
    rw [left]
    rfl
  have runs := quiet.runs_inMode outside work
  rw [left] at runs
  exact runs

end Model

namespace Sample

/-- The model of folders, which trash their rows. -/
def folderModel : Model :=
  let engine : Engine := ⟨folderRegistry, [], default⟩
  let kind : ModelKind := ⟨"FolderModel", ⟨true, false, none⟩⟩
  let bare : Model := ⟨engine, folderSchema, kind, fun _ => Session.fail Session.endless⟩
  { bare with perform := engine.performWithin Session.greatestDepth bare }

example : (⟨folderRegistry, [], default⟩ : Engine).modelOf "folder" = .ok folderModel := rfl

/-- What some calls from outside leave, one after the other. -/
def afterCalls (calls : List Call) (start : SessionState) : SessionState :=
  calls.foldl (fun s c => (folderModel.call [] c s).state) start

theorem afterCalls_called (calls : List Call) (start : SessionState) :
    folderModel.Called start calls (afterCalls calls start) := by
  unfold afterCalls
  induction calls using List.reverseRecOn with
  | nil => exact .none
  | append_singleton calls c ih =>
    rw [List.foldl_append]
    exact .call c [] ih

/-- The texts of the statements that a count of folders sends after some calls. -/
def countedAfter (calls : List Call) (replies : List Reply) : List String :=
  (statements (folderModel.call [] .count (afterCalls calls (pageState replies))).entries).map (·.sql)

theorem folder_quiet : folderModel.Quiet := by
  intro point name member
  cases member

/-- Of two counts after a choice of trashed rows only the first one sees them. -/
theorem second_count_sees_no_trash :
    let replies := [countReply 3, countReply 1]
    let s := afterCalls [.onlyTrashed, .count] (pageState replies)
    s.model = .idle ∧
      folderModel.tracked folderModel.countVisible s =
        folderModel.tracked (folderModel.countVisible.inMode .exclude) s ∧
      countedAfter [.onlyTrashed] replies =
        ["SELECT COUNT(*) AS \"aggregate\" FROM \"folders\" " ++
          "WHERE \"folders\".\"deleted_at\" IS NOT NULL"] ∧
      countedAfter [.onlyTrashed, .count] replies =
        ["SELECT COUNT(*) AS \"aggregate\" FROM \"folders\" " ++
          "WHERE \"folders\".\"deleted_at\" IS NULL"] := by
  intro replies s
  have soft : folderModel.kind.capabilities.softDeletes = true := rfl
  have called := afterCalls_called [.onlyTrashed, .count] (pageState replies)
  obtain ⟨left, sees⟩ := Model.chosen_mode_lasts_one_operation soft rfl called (by
    intro before c after split quiet
    have member : c ∈ [Call.onlyTrashed, .count] := by
      rw [split]
      exact List.mem_append_right before List.mem_cons_self
    rcases List.mem_cons.mp member with rfl | member
    · cases quiet
    · cases List.mem_singleton.mp member
      cases quiet)
  exact ⟨left, sees folder_quiet folderModel.countVisible, by decide +kernel, by decide +kernel⟩

/-- A removal in one statement does not end the choice before it: the count that follows sees trashed
rows, which nobody chose for it. -/
theorem quiet_purge_keeps_choice :
    let calls : List Call := [.withTrashed, .purgeTrashedQuietly (.int 0)]
    let replies : List Reply := [.answered ⟨[], 1, .null⟩, countReply 2]
    folderModel.Called (pageState replies) calls (afterCalls calls (pageState replies)) ∧
      folderModel.chosen calls = .exclude ∧
      (afterCalls calls (pageState replies)).model.trashed = .include_ ∧
      countedAfter calls replies =
        ["SELECT COUNT(*) AS \"aggregate\" FROM \"folders\""] := by
  intro calls replies
  exact ⟨afterCalls_called calls _, by decide +kernel, by decide +kernel, by decide +kernel⟩

end Sample

end Curator
