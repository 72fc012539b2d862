import Curator.Proofs.Hook.Quiet
/-!
# Replaced hooks

Two tables whose hooks at some points do other things to their records.  The hooks of one point hand
the record on to one another.  Where nobody else gets it, work with one table echoes work with the
other: it comes to the same in everything but the records that these hooks got from one another.
-/

set_option autoImplicit false

namespace Curator

open Session

/-- Which hooks are replaced: those with some labels, at some points. -/
structure Replacement where
  points : List HookPoint
  labels : List String

/-! ## Blanked journals -/

/-- The point whose record a replaced hook may have altered, as long as nothing but hooks of that
point and messages come behind it. -/
def Entry.alteredAt (r : Replacement) (last : Option String) : Entry → Option String
  | .hookRan label context _ =>
    let replaced := label ∈ r.labels ∧ context.point ∈ r.points.map HookPoint.name
    if replaced ∨ last = some context.point then some context.point else none
  | .logged _ _ => last
  | _ => none

/-- An entry without the record of a hook that runs at the point whose record may be altered. -/
def Entry.blanked (last : Option String) : Entry → Entry
  | .hookRan label context record =>
    .hookRan label context (if last = some context.point then [] else record)
  | entry => entry

/-- A journal without the records that hooks got behind a replaced hook of the same point.  The records
of all other hooks are there: of those before it at this point, and of those at any other point. -/
def blanked (r : Replacement) : Option String → List Entry → List Entry
  | _, [] => []
  | last, entry :: rest => entry.blanked last :: blanked r (entry.alteredAt r last) rest

variable {r : Replacement} {last : Option String}

theorem Entry.alteredAt_blanked (seen : Option String) (entry : Entry) :
    (entry.blanked seen).alteredAt r last = entry.alteredAt r last := by
  cases entry <;> rfl

theorem foldl_blanked (entries : List Entry) :
    (blanked r last entries).foldl (Entry.alteredAt r) last =
      entries.foldl (Entry.alteredAt r) last := by
  induction entries generalizing last with
  | nil => rfl
  | cons entry rest ih =>
    rw [blanked, List.foldl_cons, List.foldl_cons, Entry.alteredAt_blanked]
    exact ih

theorem blanked_append (first second : List Entry) : blanked r last (first ++ second) =
    blanked r last first ++ blanked r (first.foldl (Entry.alteredAt r) last) second := by
  induction first generalizing last with
  | nil => rfl
  | cons entry rest ih => exact congrArg (entry.blanked last :: ·) ih

def Entry.isHookRun : Entry → Bool
  | .hookRan _ _ _ => true
  | _ => false

/-- What is not the run of a hook is all there. -/
theorem filter_blanked (entries : List Entry) :
    (blanked r last entries).filter (!·.isHookRun) = entries.filter (!·.isHookRun) := by
  induction entries generalizing last with
  | nil => rfl
  | cons entry rest ih =>
    rw [blanked]
    cases entry with
    | hookRan label context record => exact ih
    | _ => exact congrArg (_ :: ·) ih

/-! ## Echoes -/

/-- The run of one piece of work, where a record may be altered as given, and the run of another one
that comes to the same but for what is blanked. -/
structure Session.EchoesFrom {α : Type} (r : Replacement) (last : Option String)
    (work again : Session α) (s : SessionState) : Prop where
  outcome : (again s).outcome = (work s).outcome
  state : (again s).state = (work s).state
  journal : blanked r last (again s).entries = blanked r last (work s).entries

/-- Work that comes to the same as other work in every state, but for the records that hooks get behind
replaced ones. -/
def Session.Echoes {α : Type} (r : Replacement) (work again : Session α) : Prop :=
  ∀ last s, EchoesFrom r last work again s

namespace Session

variable {α β : Type} {s : SessionState}

theorem EchoesFrom.others {work again : Session α} (echoes : EchoesFrom r last work again s) :
    (again s).entries.filter (!·.isHookRun) = (work s).entries.filter (!·.isHookRun) := by
  rw [← filter_blanked (r := r), echoes.journal, filter_blanked]

theorem echoes_refl (work : Session α) : Echoes r work work := fun _ _ => ⟨rfl, rfl, rfl⟩

theorem Echoes.bind {work again : Session α} {next following : α → Session β}
    (head : Echoes r work again) (tail : ∀ a, Echoes r (next a) (following a)) :
    Echoes r (work >>= next) (again >>= following) := by
  intro last s
  obtain ⟨outcome, state, journal⟩ := head last s
  cases came : (work s).outcome with
  | error failure =>
    rw [came] at outcome
    refine ⟨?_, ?_, ?_⟩
    all_goals rw [ran_failed came, ran_failed outcome]
    · exact state
    · exact journal
  | ok a =>
    rw [came] at outcome
    -- equal blanked journals lead to the same point, from which the rest goes on
    have reached : (again s).entries.foldl (Entry.alteredAt r) last =
        (work s).entries.foldl (Entry.alteredAt r) last := by
      rw [← foldl_blanked (r := r), journal, foldl_blanked]
    obtain ⟨ended, left, later⟩ :=
      tail a ((work s).entries.foldl (Entry.alteredAt r) last) (work s).state
    refine ⟨?_, ?_, ?_⟩
    all_goals rw [ran_on came, ran_on outcome]
    all_goals simp only [state]
    · exact ended
    · exact left
    · rw [blanked_append, blanked_append, journal, reached, later]

/-- Work that begins in the same way. -/
theorem echoes_after {work : Session α} {next following : α → Session β}
    (tail : ∀ a, Echoes r (next a) (following a)) :
    Echoes r (work >>= next) (work >>= following) :=
  (echoes_refl work).bind tail

theorem Echoes.map {work again : Session α} (echoes : Echoes r work again) (f : α → β) :
    Echoes r (f <$> work) (f <$> again) := by
  rw [← bind_pure_comp, ← bind_pure_comp]
  exact echoes.bind fun a => echoes_refl _

theorem Echoes.outcomeOf {work again : Session α} (echoes : Echoes r work again) :
    Echoes r (outcomeOf work) (outcomeOf again) :=
  fun last s => ⟨congrArg Except.ok (echoes last s).outcome, (echoes last s).state,
    (echoes last s).journal⟩

theorem Echoes.rescue {work again : Session α} (echoes : Echoes r work again)
    (handle : Failure → Session α) : Echoes r (rescue work handle) (rescue again handle) :=
  echoes.outcomeOf.bind fun _ => echoes_refl _

theorem Echoes.withModel {work again : Session α} (echoes : Echoes r work again)
    (model : ModelState) : Echoes r (withModel model work) (withModel model again) := by
  intro last s
  obtain ⟨outcome, state, journal⟩ := echoes last { s with model }
  exact ⟨outcome, congrArg (fun left : SessionState => { left with model := s.model }) state, journal⟩

theorem Echoes.outermost {begin beginning complete completing : Session Unit}
    {work again : Session α} (begins : Echoes r begin beginning)
    (completes : Echoes r complete completing) (echoes : Echoes r work again) :
    Echoes r (outermost begin complete work) (outermost beginning completing again) := by
  intro last s
  have whole := begins.bind fun _ => echoes.bind fun result =>
    completes.bind fun _ => echoes_refl (pure result)
  cases begun : s.model.begun with
  | true =>
    obtain ⟨outcome, state, journal⟩ := echoes last s
    constructor
    all_goals simp only [Session.outermost, begun, if_true]
    all_goals assumption
  | false =>
    obtain ⟨outcome, state, journal⟩ := whole last { s with model := { s.model with begun := true } }
    constructor
    all_goals simp only [Session.outermost, begun, Bool.false_eq_true, if_false]
    · exact outcome
    · exact congrArg (fun left : SessionState => { left with model := .idle }) state
    · exact journal

theorem Echoes.mapM {f g : α → Session β} (echoes : ∀ a, Echoes r (f a) (g a))
    (items : List α) : Echoes r (items.mapM f) (items.mapM g) := by
  induction items with
  | nil => exact echoes_refl _
  | cons item rest ih =>
    rw [List.mapM_cons, List.mapM_cons]
    exact (echoes item).bind fun first => ih.bind fun others => echoes_refl _

theorem EchoesFrom.record_bind {entry other : Entry} {next following : Unit → Session α}
    (same : other.blanked last = entry.blanked last)
    (echoes : EchoesFrom r (entry.alteredAt r last) (next ()) (following ()) s) :
    EchoesFrom r last (record entry >>= next) (record other >>= following) s := by
  have reached : other.alteredAt r last = entry.alteredAt r last := by
    rw [← Entry.alteredAt_blanked last, same, Entry.alteredAt_blanked]
  constructor
  all_goals rw [Session.record_bind, Session.record_bind]
  · exact echoes.outcome
  · exact echoes.state
  · simp only [blanked, same, reached, echoes.journal]

end Session

/-! ## Mild hooks -/

/-- A hook that at most changes its record: it asks for no steps, reports no failure and never gives
up. -/
structure Hook.Mild (hook : Hook) : Prop where
  calls : hook.calls = []
  failure : hook.failure = none
  abort : ∀ result, hook.result = some result → result.abort.truthy = false

/-- A name stands for the same in two tables, or for two hooks with one of some labels. -/
def HookTable.Varies (labels : List String) (table other : HookTable) (name : Value) : Prop :=
  other.declared? name = table.declared? name ∨
    ∃ hook replacing, table.declared? name = .ok (some hook) ∧
      other.declared? name = .ok (some replacing) ∧ replacing.label = hook.label ∧
      hook.label ∈ labels

theorem HookTable.Varies.cases {labels : List String} {table other : HookTable} {name : Value}
    (varies : table.Varies labels other name) :
    (∃ failure, table.declared? name = .error failure ∧ other.declared? name = .error failure) ∨
      (table.declared? name = .ok none ∧ other.declared? name = .ok none) ∨
      ∃ hook replacing, table.declared? name = .ok (some hook) ∧
        other.declared? name = .ok (some replacing) ∧ replacing.label = hook.label ∧
        (replacing = hook ∨ hook.label ∈ labels) := by
  rcases varies with same | ⟨hook, replacing, found, again, label, labelled⟩
  · rw [same]
    rcases table.declared? name with failure | _ | hook
    · exact Or.inl ⟨failure, rfl, rfl⟩
    · exact Or.inr (Or.inl ⟨rfl, rfl⟩)
    · exact Or.inr (Or.inr ⟨hook, hook, rfl, rfl, rfl, Or.inl rfl⟩)
  · exact Or.inr (Or.inr ⟨hook, replacing, found, again, label, Or.inr labelled⟩)

/-- For a schema, a table of hooks takes the place of another one: at all points but those of the
replacement it has the same hooks, and at these both have mild ones. -/
structure HookTable.Replaces (r : Replacement) (schema : Schema) (table other : HookTable) : Prop where
  kept : ∀ point, point ∉ r.points → ∀ name ∈ schema.hookNames point.name,
    other.declared? name = table.declared? name
  varies : ∀ point ∈ r.points, ∀ name ∈ schema.hookNames point.name, table.Varies r.labels other name
  mild : ∀ point ∈ r.points, ∀ name ∈ schema.hookNames point.name, ∀ hook,
    table.declared? name = .ok (some hook) ∨ other.declared? name = .ok (some hook) → hook.Mild

namespace Hook

variable {table other : HookTable} {context : HookContext} {perform performing : Step → Session Answer}

theorem Mild.left {hook : Hook} (mild : hook.Mild) (context : HookContext) (record : Record) :
    ∃ updates, (hook.left context record).updates = .ok updates := by
  unfold Hook.left
  rw [mild.failure]
  simp only
  cases returned : hook.result with
  | none => exact ⟨_, rfl⟩
  | some result =>
    simp only [mild.abort result returned, Bool.false_eq_true, if_false]
    exact ⟨_, rfl⟩

theorem Mild.run {hook : Hook} (mild : hook.Mild) (perform : Step → Session Answer)
    (context : HookContext) (record : Record) : hook.run perform context record = (do
      Session.record (.hookRan hook.label context record)
      pure (hook.left context record)) := by
  rw [run_eq, mild.calls]
  rfl

/-- The failure that ended a run of hooks. -/
def ended (ran : HookRun) : Session Unit :=
  match ran.updates with
  | .error failure => fail failure
  | .ok _ => pure ()

/-- Where records differ behind a hook, this hook or one before it at its point may be a replaced
one. -/
theorem handed_on {hook replacing : Hook} {record altered : Record}
    (own : context.point ∈ r.points.map HookPoint.name)
    (varies : replacing = hook ∨ hook.label ∈ r.labels)
    (handed : last = some context.point ∨ altered = record) :
    (Entry.hookRan hook.label context record).alteredAt r last = some context.point ∨
      (replacing.left context altered).record = (hook.left context record).record := by
  rcases varies with same | labelled
  · rcases handed with behind | equal
    · exact Or.inl (if_pos (Or.inr behind))
    · exact Or.inr (by rw [same, equal])
  · exact Or.inl (if_pos (Or.inl ⟨labelled, own⟩))

/-- What mild hooks of a point hand on to one another shows in nothing but the records they get behind
a replaced one. -/
theorem echoes_mild (own : context.point ∈ r.points.map HookPoint.name) {names : List Value}
    (varies : ∀ name ∈ names, table.Varies r.labels other name)
    (mild : ∀ name ∈ names, ∀ hook,
      table.declared? name = .ok (some hook) ∨ other.declared? name = .ok (some hook) → hook.Mild)
    {record altered : Record} (handed : last = some context.point ∨ altered = record)
    (updates more : Record) (s : SessionState) :
    EchoesFrom r last (runAll perform table context names record updates >>= ended)
      (runAll performing other context names altered more >>= ended) s := by
  induction names generalizing last record altered updates more s with
  | nil => exact ⟨rfl, rfl, rfl⟩
  | cons name rest ih =>
    have gentle := mild name List.mem_cons_self
    have others := fun {last record altered} => @ih last
      (fun name member => varies name (List.mem_cons_of_mem _ member))
      (fun name member => mild name (List.mem_cons_of_mem _ member)) record altered
    unfold runAll
    obtain ⟨failure, found, again⟩ | ⟨found, again⟩ | ⟨hook, replacing, found, again, label, vary⟩ :=
      (varies name List.mem_cons_self).cases
    all_goals simp only [found, again, bind_assoc]
    · exact ⟨rfl, rfl, rfl⟩
    · exact EchoesFrom.record_bind rfl (others handed updates more s)
    · have first := gentle hook (Or.inl found)
      have second := gentle replacing (Or.inr again)
      obtain ⟨_, went⟩ := first.left context record
      obtain ⟨_, wentToo⟩ := second.left context altered
      have same : (Entry.hookRan replacing.label context altered).blanked last =
          (Entry.hookRan hook.label context record).blanked last := by
        rcases handed with behind | equal
        · simp only [Entry.blanked, label, behind, if_true]
        · rw [label, equal]
      simp only [first.run, second.run, bind_assoc, pure_bind, went, wentToo]
      refine EchoesFrom.record_bind rfl (EchoesFrom.record_bind same ?_)
      exact others (handed_on own vary handed) _ _ s

/-! ## Hooks that are kept -/

variable (performs : ∀ step, Echoes r (perform step) (performing step))

include performs

theorem echoes_performCalls (steps : List Step) :
    Echoes r (performCalls perform steps) (performCalls performing steps) := by
  induction steps with
  | nil => exact echoes_refl _
  | cons step rest ih =>
    exact (performs step).outcomeOf.bind fun outcome => echoes_after fun _ => ih

theorem echoes_run (context : HookContext) (hook : Hook) (record : Record) :
    Echoes r (hook.run perform context record) (hook.run performing context record) := by
  rw [run_eq, run_eq]
  exact echoes_after fun _ => (echoes_performCalls performs hook.calls).bind fun _ => echoes_refl _

theorem echoes_runAll {names : List Value}
    (kept : ∀ name ∈ names, other.declared? name = table.declared? name) (record updates : Record) :
    Echoes r (runAll perform table context names record updates)
      (runAll performing other context names record updates) := by
  induction names generalizing record updates with
  | nil => exact echoes_refl _
  | cons name rest ih =>
    have others := ih fun name member => kept name (List.mem_cons_of_mem _ member)
    unfold runAll
    rw [kept name List.mem_cons_self]
    split
    · exact echoes_refl _
    · exact echoes_after fun _ => others record updates
    · rename_i hook _
      refine echoes_after fun _ => (echoes_run performs context hook record).bind fun ran => ?_
      split
      · exact echoes_refl _
      · exact others _ _

end Hook

end Curator
