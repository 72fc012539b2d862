import Curator.Proofs.Lifecycle.Blind
import Curator.Proofs.Plan.Alike
import Curator.Proofs.Sql.Placed
/-!
# Parallel work

Two pieces of work of which, where both return, the log says the same.  They may bind other values in
statements of one text and tell listeners of other things, as long as they go on in one state.
-/

set_option autoImplicit false

namespace Curator

open Sql Outcome

/-- Statements of one text with equally many parameters. -/
def Sql.Fragment.Twin (f g : Fragment) : Prop :=
  f.sql = g.sql ∧ f.params.length = g.params.length

/-! ## The log -/

/-- What an entry puts into the log. -/
def Entry.message? : Entry → Option (LogLevel × String)
  | .logged level message => some (level, message)
  | _ => none

/-- The messages that a journal has put into the log, in order. -/
def messages (entries : List Entry) : List (LogLevel × String) :=
  entries.filterMap Entry.message?

theorem messages_append (first second : List Entry) :
    messages (first ++ second) = messages first ++ messages second :=
  List.filterMap_append

namespace Session

variable {α β γ δ : Type} {R : α → β → Prop} {S : γ → δ → Prop}

/-- Run in one state, two pieces of work that both return log the same, leave the same state, and give
results that stand in a relation. -/
def Parallel (R : α → β → Prop) (first : Session α) (second : Session β) : Prop :=
  ∀ s a b, (first s).outcome = .ok a → (second s).outcome = .ok b →
    messages (first s).entries = messages (second s).entries ∧
      (first s).state = (second s).state ∧ R a b

/-! ## Rules -/

theorem parallel_refl (work : Session α) : Parallel Eq work work := by
  intro s a b first second
  rw [first] at second
  exact ⟨rfl, rfl, Except.ok.inj second⟩

theorem parallel_pure {a : α} {b : β} (related : R a b) : Parallel R (pure a) (pure b) := by
  rintro s _ _ ⟨⟩ ⟨⟩
  exact ⟨rfl, rfl, related⟩

theorem parallel_fail (failure : Failure) (second : Session β) :
    Parallel R (fail failure : Session α) second :=
  fun _ _ _ impossible => nomatch impossible

theorem parallel_of {x : Except Failure α} {y : Except Failure β}
    (related : ∀ a b, x = .ok a → y = .ok b → R a b) : Parallel R (of x) (of y) :=
  fun _ a b first second => ⟨rfl, rfl, related a b first second⟩

theorem parallel_record {entry other : Entry} (same : entry.message? = other.message?) :
    Parallel Eq (record entry) (record other) := by
  rintro s _ _ ⟨⟩ ⟨⟩
  refine ⟨?_, rfl, rfl⟩
  simp only [record, messages, List.filterMap_cons, same]

theorem Parallel.bind {first : Session α} {second : Session β} {next : α → Session γ}
    {following : β → Session δ} (parallel : Parallel R first second)
    (goes : ∀ a b, R a b → Parallel S (next a) (following b)) :
    Parallel S (first >>= next) (second >>= following) := by
  intro s c e came went
  obtain ⟨a, first_came, came⟩ := returned_of_bind came
  obtain ⟨b, second_came, went⟩ := returned_of_bind went
  obtain ⟨log, state, related⟩ := parallel s a b first_came second_came
  rw [← state] at went
  obtain ⟨later, left, results⟩ := goes a b related _ c e came went
  rw [ran_on first_came, ran_on second_came, messages_append, messages_append, log, ← state]
  exact ⟨congrArg _ later, left, results⟩

/-- Work that begins in the same way. -/
theorem parallel_after {first : Session α} {next : α → Session γ} {following : α → Session δ}
    (goes : ∀ a, Parallel S (next a) (following a)) :
    Parallel S (first >>= next) (first >>= following) :=
  (parallel_refl first).bind fun a _ same => same ▸ goes a

/-- Work that goes on in the same way with the same result. -/
theorem Parallel.onward {first second : Session α} (parallel : Parallel Eq first second)
    (next : α → Session γ) : Parallel Eq (first >>= next) (second >>= next) :=
  parallel.bind fun _ _ same => same ▸ parallel_refl _

theorem Parallel.map {first : Session α} {second : Session β} (parallel : Parallel R first second)
    {f : α → γ} {g : β → δ} (related : ∀ a b, R a b → S (f a) (g b)) :
    Parallel S (f <$> first) (g <$> second) := by
  rw [← bind_pure_comp, ← bind_pure_comp]
  exact parallel.bind fun a b holds => parallel_pure (related a b holds)

theorem rescue_returned {work : Session α} {change : Failure → Failure} {s : SessionState} {a : α}
    (returned : ((Session.rescue work fun failure => fail (change failure)) s).outcome = .ok a) :
    (Session.rescue work fun failure => fail (change failure)) s = work s := by
  unfold Session.rescue andThen outcomeOf at returned ⊢
  rcases ran : work s with ⟨outcome, state, entries⟩
  rw [ran] at returned
  cases outcome with
  | error failure => cases returned
  | ok b => simp only [done, List.append_nil]

/-- Work whose failures are passed on as others. -/
theorem Parallel.rescue {first : Session α} {second : Session β} (parallel : Parallel R first second)
    (change : Failure → Failure) :
    Parallel R (Session.rescue first fun failure => fail (change failure))
      (Session.rescue second fun failure => fail (change failure)) := by
  intro s a b came went
  have first_same := rescue_returned came
  have second_same := rescue_returned went
  rw [first_same] at came ⊢
  rw [second_same] at went ⊢
  exact parallel s a b came went

theorem Parallel.outermost {first : Session α} {second : Session β} (begin complete : Session Unit)
    (parallel : Parallel R first second) :
    Parallel R (Session.outermost begin complete first) (Session.outermost begin complete second) := by
  intro s a b came went
  have whole : Parallel R (do begin; let result ← first; complete; pure result)
      (do begin; let result ← second; complete; pure result) :=
    parallel_after fun _ => parallel.bind fun a b related =>
      parallel_after fun _ => parallel_pure related
  cases begun : s.model.begun with
  | true =>
    simp only [Session.outermost, begun, if_true] at came went ⊢
    exact parallel s a b came went
  | false =>
    simp only [Session.outermost, begun, Bool.false_eq_true, if_false] at came went ⊢
    obtain ⟨log, state, related⟩ := whole _ a b came went
    exact ⟨log, by rw [state], related⟩

/-! ## Events -/

theorem parallel_deliver (send : String → List Payload → Session Unit) (payload other : List Payload)
    (subscriptions : List Subscription) :
    Parallel Eq (deliver send payload subscriptions) (deliver send other subscriptions) := by
  induction subscriptions with
  | nil => exact parallel_refl _
  | cons subscription rest ih =>
    unfold deliver
    refine (parallel_record ?_).bind fun _ _ _ => parallel_after fun s => parallel_after fun _ => ih
    rfl

/-- What listeners do does not depend on what they are told. -/
theorem parallel_emit (event : String) (payload other : List Payload) :
    Parallel Eq (emit event payload) (emit event other) := by
  show Parallel Eq (state >>= fun _ => _) (state >>= fun _ => _)
  exact parallel_after fun s => parallel_after fun _ => parallel_deliver _ payload other _

/-! ## Statements -/

theorem parallel_execute {f g : Fragment} (twin : f.Twin g) : Parallel Eq (execute f) (execute g) := by
  have message : statementMessage f = statementMessage g := by
    rw [statementMessage, twin.1, twin.2]
    rfl
  refine parallel_after fun s => ?_
  cases s.database.pending with
  | none => exact parallel_fail _ _
  | some pending =>
    simp only [message]
    refine parallel_after fun _ => parallel_after fun _ => ?_
    cases pending.head? with
    | none => exact (parallel_record rfl).bind fun _ _ _ => parallel_refl _
    | some reply =>
      cases reply with
      | answered answer => exact (parallel_record rfl).bind fun _ _ _ => parallel_refl _
      | refused kind words => exact (parallel_record rfl).bind fun _ _ _ => parallel_refl _

theorem parallel_runInsert {f g : Fragment} (twin : f.Twin g) (returning : Option String) :
    Parallel Eq (runInsert f returning) (runInsert g returning) := by
  refine parallel_after fun d => ?_
  cases d with
  | sqlite => exact (parallel_execute twin).onward _
  | postgresql =>
    cases returning.filter (· != "") with
    | none => exact (parallel_execute twin).onward _
    | some column =>
      show Parallel Eq (of (quote column) >>= fun _ => _) (of (quote column) >>= fun _ => _)
      refine parallel_after fun name => ?_
      have asking : Fragment.Twin ⟨f.sql ++ " RETURNING " ++ name, f.params⟩
          ⟨g.sql ++ " RETURNING " ++ name, g.params⟩ := by
        refine ⟨?_, twin.2⟩
        simp only [twin.1]
      exact (parallel_execute asking).onward _

variable {fields others : Record}

theorem length_of_keys (same : fields.keys = others.keys) : fields.length = others.length := by
  have lengths := congrArg List.length same
  simpa only [Mapping.keys, List.length_map] using lengths

theorem isEmpty_of_keys (same : fields.keys = others.keys) : fields.isEmpty = others.isEmpty := by
  rw [Bool.eq_iff_iff, List.isEmpty_iff_length_eq_zero, List.isEmpty_iff_length_eq_zero,
    length_of_keys same]

theorem twin_insertSql {d : Dialect} {table : String} {onConflict : OnConflict} {f g : Fragment}
    (same : fields.keys = others.keys) (first : insertSql d table fields onConflict = .ok f)
    (second : insertSql d table others onConflict = .ok g) : f.Twin g := by
  have long := length_of_keys same
  have marks : fields.map (fun _ => d.placeholder) = others.map (fun _ => d.placeholder) := by
    rw [List.map_const', List.map_const', long]
  have binds : (fields.map (·.2)).length = (others.map (·.2)).length := by
    rw [List.length_map, List.length_map, long]
  unfold insertSql at first second
  rw [← same, ← marks] at second
  obtain ⟨columns, quotes, first⟩ := bind_ok first
  obtain ⟨name, quoted, first⟩ := bind_ok first
  simp only [quotes, quoted, ok_bind] at second
  split at first
  · cases pure_ok first
    cases pure_ok second
    exact ⟨rfl, binds⟩
  · cases first
  · obtain ⟨clause, made, first⟩ := bind_ok first
    simp only [made, ok_bind] at second
    cases pure_ok first
    cases pure_ok second
    exact ⟨rfl, binds⟩

theorem twin_updateSql {d : Dialect} {table : String} {filter : Record} {f g : Fragment}
    (same : fields.keys = others.keys) (first : updateSql d table fields filter = .ok f)
    (second : updateSql d table others filter = .ok g) : f.Twin g := by
  have long := length_of_keys same
  unfold updateSql at first second
  rw [← same] at second
  obtain ⟨columns, quotes, first⟩ := bind_ok first
  obtain ⟨condition, filters, first⟩ := bind_ok first
  obtain ⟨name, quoted, first⟩ := bind_ok first
  simp only [quotes, filters, quoted, ok_bind] at second
  cases pure_ok first
  cases pure_ok second
  refine ⟨rfl, ?_⟩
  simp only [List.length_append, List.length_map, long]

theorem parallel_insert (same : fields.keys = others.keys) (table : String)
    (onConflict : OnConflict) (returning : Option String) :
    Parallel Eq (insert table fields onConflict returning)
      (insert table others onConflict returning) := by
  unfold insert
  rw [isEmpty_of_keys same]
  split
  · exact parallel_fail _ _
  · refine parallel_after fun d => (parallel_of fun f g first second => ?_).bind fun f g twin =>
      parallel_runInsert twin returning
    exact twin_insertSql same first second

theorem parallel_update (same : fields.keys = others.keys) (table : String) (filter : Record) :
    Parallel Eq (update table fields filter) (update table others filter) := by
  unfold update
  rw [isEmpty_of_keys same]
  split
  · exact parallel_refl _
  · refine parallel_after fun d => (parallel_of fun f g first second => ?_).bind fun f g twin =>
      (parallel_execute twin).onward _
    exact twin_updateSql same first second

end Session

/-! ## Selections -/

namespace Sql.Select

/-- Selections that differ in the values they bind only. -/
structure Twin (s t : Select) : Prop where
  bare : s.bare = t.bare
  made : s.Made
  other_made : t.Made

variable {s t s' t' : Select} {f g : Fragment}

theorem Made.twin (made : s.Made) : s.Twin s := ⟨rfl, made, made⟩

namespace Twin

theorem dialect (twin : s.Twin t) : s.dialect = t.dialect := by
  have same : s.bare.dialect = t.bare.dialect := congrArg Select.dialect twin.bare
  exact same

/-- Statements of one text have the same placeholders, and with them equally many parameters. -/
theorem statements (twin : s.Twin t) (first : s.Renders f) (second : t.Renders g)
    (same : f.sql = g.sql) : f.Twin g := by
  have count := (twin.made.inPlace first).count
  rw [twin.dialect, same] at count
  exact ⟨same, count.symm.trans (twin.other_made.inPlace second).count⟩

theorem toSql (twin : s.Twin t) (first : s.toSql = .ok f) (second : t.toSql = .ok g) : f.Twin g :=
  twin.statements (Or.inl first) (Or.inl second) (toSql_of_bare twin.bare first second)

theorem countSql (twin : s.Twin t) (first : s.countSql = .ok f) (second : t.countSql = .ok g) :
    f.Twin g :=
  twin.statements (Or.inr ⟨_, _, first⟩) (Or.inr ⟨_, _, second⟩)
    (aggregateSql_of_bare twin.bare first second)

theorem where_ (twin : s.Twin t) {connector : Connector} {column : Column} {operator : Operator}
    {a b : Value} (alike : operator.Alike a b) (first : s.where_ connector column operator a = .ok s')
    (second : t.where_ connector column operator b = .ok t') : s'.Twin t' :=
  ⟨Plan.replayStep_alike twin.bare (.test connector column alike) first second,
    .where_ twin.made first, .where_ twin.other_made second⟩

theorem column (twin : s.Twin t) {column : Column} {label : Option String}
    (first : s.column column label = .ok s') (second : t.column column label = .ok t') :
    s'.Twin t' := by
  have same := bare_column first
  rw [twin.bare, bare_column second] at same
  exact ⟨(Except.ok.inj same).symm, .column twin.made first, .column twin.other_made second⟩

theorem limited (twin : s.Twin t) (limit : Option Int) :
    Twin { s with limit := limit } { t with limit := limit } :=
  ⟨congrArg (fun u : Select => { u with limit := limit }) twin.bare, .limit limit twin.made,
    .limit limit twin.other_made⟩

end Twin

end Sql.Select

namespace Session

variable {s t : Select}

theorem parallel_select {f g : Fragment} (twin : f.Twin g) : Parallel Eq (select f) (select g) :=
  (parallel_execute twin).onward _

theorem parallel_fetch (twin : s.Twin t) : Parallel Eq (fetch s) (fetch t) :=
  (parallel_of fun _ _ first second => twin.toSql first second).bind fun _ _ => parallel_select

theorem parallel_total (twin : s.Twin t) : Parallel Eq (total s) (total t) := by
  refine (parallel_of fun _ _ first second => twin.countSql first second).bind fun f g twin => ?_
  exact (((parallel_select twin).onward _).onward _).onward _

end Session

namespace Model

variable {s t : Select}

theorem parallel_rowsOf (table : String) :
    Session.Parallel Select.Twin (rowsOf table) (rowsOf table) := by
  refine Session.parallel_after fun d => Session.parallel_of fun s t first second => ?_
  cases Except.ok.inj (first.symm.trans second)
  exact (Select.Made.from_ (.new d) first).twin

theorem parallel_narrowed (twin : s.Twin t) (column : Column) {operator : Operator} {a b : Value}
    (alike : operator.Alike a b) :
    Session.Parallel Select.Twin (narrowed s column operator a) (narrowed t column operator b) :=
  Session.parallel_of fun _ _ first second => twin.where_ alike first second

end Model

end Curator
