import Curator.Model.Remove
import Curator.Proofs.Database.Table
import Curator.Proofs.Model.Pages
import Curator.Proofs.Plan.KeyRow
/-!
# What removing sends

A row is read by its key before it is deleted or trashed, and the write is for the key that the row
was handed out with.  So every write of a removal is for the key that was asked for, as long as
accessors and hooks after reading leave this key as it is.  An accessor that changes the key sends the
write astray.
-/

set_option autoImplicit false

namespace Curator

open Sql Outcome Session

namespace Model

/-- The statement that deletes the row with a key. -/
def deletion (m : Model) (d : Dialect) (key : Value) : Fragment :=
  let test := keyTest d m.schema.primaryKey key
  ⟨"DELETE FROM " ++ quoted m.schema.table ++ " WHERE " ++ test.sql, test.params⟩

/-- The statement that marks the row with a key as trashed at some time. -/
def trashing (m : Model) (d : Dialect) (now : String) (key : Value) : Fragment :=
  let test := keyTest d m.schema.primaryKey key
  ⟨"UPDATE " ++ quoted m.schema.table ++ " SET " ++ quoted m.schema.deletedAtColumn ++ " = " ++
    d.placeholder ++ " WHERE " ++ test.sql, .str now :: test.params⟩

/-- A statement by which the model does away with the row with a key. -/
def Destroys (m : Model) (d : Dialect) (key : Value) (f : Fragment) : Prop :=
  if m.kind.capabilities.softDeletes then ∃ now, f = m.trashing d now key else f = m.deletion d key

/-- Exchanges that read the row with a key and then write at most once.  If a fetched row carries the
key, and accessors and hooks leave the key as it is, the write is one by which this row is removed. -/
def Removal (m : Model) (d : Dialect) (removes : Value → Fragment → Prop) (key : Value)
    (xs : List Exchange) : Prop :=
  ∃ fetch write : Option Exchange, xs = fetch.toList ++ write.toList ∧
    (∀ x ∈ fetch, ∃ mode plan, m.keyPlan key mode = .ok plan ∧ plan.fetchSql d = .ok x.statement) ∧
    ∀ w ∈ write, ∃ x ∈ fetch, m.LeavesKey key →
      (∀ answer row rest, x.answer d = .ok answer → answer.rows = row :: rest →
        m.Carries row key) → removes key w.statement

variable {m : Model} {d : Dialect}

theorem removal_nil {removes : Value → Fragment → Prop} {key : Value} :
    m.Removal d removes key [] :=
  ⟨none, none, rfl, nofun, nofun⟩

theorem Quiet.removeRow (quiet : m.Quiet) {resource : Resource}
    {Q : Except Failure Bool → List Exchange → Prop} (fails : ∀ failure, Q (.error failure) [])
    (sends : ∀ x : Exchange, x.statement = m.deletion d resource.key → ∀ outcome, Q outcome [x]) :
    Tells d (m.removeRow resource) Q := by
  refine Tells.bind (tells_judges.delete (fun failure => fails failure) fun f made reply => ?_)
  have sent := sends ⟨f, reply⟩ (deleteSql_one made)
  cases (Exchange.mk f reply).answer d with
  | error failure => exact sent _
  | ok answer =>
    simp only [ok_bind]
    split
    · exact tells_pure (sent _)
    · have silent : Tells d (do
          Session.log .info ("Deleted " ++ m.schema.name.text ++ " " ++ resource.key.text)
          m.notify .afterDelete resource.data none
          Session.emit "resource.delete" [.resource resource]
          pure true) Silent := by
        refine tells_log_bind (quiet.notify.bind_none fun _ => ?_)
        exact (silent_emit _ _).bind_none fun _ => tells_pure rfl
      refine silent.mono fun outcome ys nothing => ?_
      rw [nothing]
      exact sent outcome

theorem Quiet.trashRow (quiet : m.Quiet) {resource : Resource}
    {Q : Except Failure Bool → List Exchange → Prop} (fails : ∀ failure, Q (.error failure) [])
    (sends : ∀ (x : Exchange) now, x.statement = m.trashing d now resource.key →
      ∀ outcome, Q outcome [x]) :
    Tells d (m.trashRow resource) Q := by
  refine tells_of_bind (fun failure _ => fails failure) fun now _ => ?_
  refine Tells.bind (tells_judges.update nofun (fun failure => fails failure) fun f _ made reply => ?_)
  have sent := sends ⟨f, reply⟩ now (updateSql_one made)
  cases (Exchange.mk f reply).answer d with
  | error failure => exact sent _
  | ok answer =>
    simp only [ok_bind]
    split
    · exact tells_pure (sent _)
    · have silent : Tells d (do
          Session.log .info ("Trashed " ++ m.schema.name.text ++ " " ++ resource.key.text)
          m.notify .afterTrash resource.data none
          Session.emit "resource.trash" [.resource resource]
          pure true) Silent := by
        refine tells_log_bind (quiet.notify.bind_none fun _ => ?_)
        exact (silent_emit _ _).bind_none fun _ => tells_pure rfl
      refine silent.mono fun outcome ys nothing => ?_
      rw [nothing]
      exact sent outcome

theorem Quiet.destroyRow (quiet : m.Quiet) {resource : Resource}
    {Q : Except Failure Bool → List Exchange → Prop} (fails : ∀ failure, Q (.error failure) [])
    (sends : ∀ x : Exchange, m.Destroys d resource.key x.statement → ∀ outcome, Q outcome [x]) :
    Tells d (m.destroyRow resource) Q := by
  unfold Model.destroyRow
  unfold Destroys at sends
  split
  · rename_i soft
    simp only [if_pos soft] at sends
    exact quiet.trashRow fails fun x now same => sends x ⟨now, same⟩
  · rename_i hard
    simp only [if_neg hard] at sends
    exact quiet.removeRow fails sends

/-- Work that reads the row with a key, trashed or not as the case may be. -/
def ReadsKey (m : Model) (d : Dialect) (key : Value) (find : Session Resource) : Prop :=
  ∀ {Q : Except Failure Resource → List Exchange → Prop},
    (∀ mode, Tells d (m.resource key mode) Q) → Tells d find Q

/-- A row that is not there is no failure, and any other failure is passed on. -/
theorem tells_absent {Q : Except Failure (Option Resource) → List Exchange → Prop}
    {failure : Failure} {xs : List Exchange} (refuses : Q (.error failure) xs)
    (passes : Q (.ok none) xs) :
    Tells d (match failure.category with
      | .absent => pure none
      | _ => Session.fail failure) fun outcome ys => Q outcome (xs ++ ys) := by
  split
  · refine tells_pure ?_
    rw [List.append_nil]
    exact passes
  · refine tells_fail ?_
    rw [List.append_nil]
    exact refuses

/-- What is found by a key is read once, and failing to find it is no failure. -/
theorem Quiet.ifExists (quiet : m.Quiet) {key : Value} {find : Session Resource}
    {Q : Except Failure (Option Resource) → List Exchange → Prop} (reads : m.ReadsKey d key find)
    (fails : ∀ failure, Q (.error failure) []) (none : Q (.ok none) [])
    (failed : ∀ mode plan x failure, m.keyPlan key mode = .ok plan →
      plan.fetchSql d = .ok x.statement → Q (.error failure) [x] ∧ Q (.ok .none) [x])
    (found : ∀ mode plan x data, m.keyPlan key mode = .ok plan →
      plan.fetchSql d = .ok x.statement → (x.answer d >>= m.handedOut plan) = .ok data →
        Q (.ok (some ⟨m.schema.name, m.schema.primaryKey, data⟩)) [x]) :
    Tells d (ifExists find) Q := by
  refine Tells.bind (Tells.outcomeOf (Tells.map (reads fun mode => ?_)))
  refine quiet.resource (fun failure => ?_) fun plan x compiled asked => ?_
  · exact tells_absent (fails failure) none
  · cases read : x.answer d >>= m.handedOut plan with
    | error failure =>
      obtain ⟨refused, passed⟩ := failed mode plan x failure compiled asked
      exact tells_absent refused passed
    | ok data => exact tells_done (found mode plan x data compiled asked read)

theorem Quiet.removing (quiet : m.Quiet) (checked : m.schema.Checked)
    {removes : Value → Fragment → Prop} {key : Value} {find : Session Resource}
    {remove : Resource → Session Bool} (reads : m.ReadsKey d key find)
    (removal : ∀ (resource : Resource) {Q : Except Failure Bool → List Exchange → Prop},
      (∀ failure, Q (.error failure) []) →
      (∀ x : Exchange, removes resource.key x.statement → ∀ outcome, Q outcome [x]) →
        Tells d (remove resource) Q) :
    Tells d (m.removing find remove) fun _ xs => m.Removal d removes key xs := by
  have only_fetched : ∀ mode plan x, m.keyPlan key mode = .ok plan →
      plan.fetchSql d = .ok x.statement → m.Removal d removes key [x] := by
    intro mode plan x compiled asked
    refine ⟨some x, none, rfl, ?_, nofun⟩
    intro y same
    cases same
    exact ⟨mode, plan, compiled, asked⟩
  refine Tells.bind (quiet.ifExists reads (fun _ => removal_nil) (tells_pure removal_nil)
    (fun mode plan x failure compiled asked => ⟨only_fetched mode plan x compiled asked,
      tells_pure (only_fetched mode plan x compiled asked)⟩)
    fun mode plan x data compiled asked read => ?_)
  refine Tells.bind (quiet.notify.mono fun outcome xs nothing => ?_)
  subst nothing
  cases outcome with
  | error failure => exact only_fetched mode plan x compiled asked
  | ok u =>
    refine removal _ (fun failure => only_fetched mode plan x compiled asked) fun w sent outcome => ?_
    refine ⟨some x, some w, rfl, ?_, ?_⟩
    · intro y same
      cases same
      exact ⟨mode, plan, compiled, asked⟩
    · intro v same
      cases same
      refine ⟨x, rfl, fun leaves carries => ?_⟩
      obtain ⟨answer, answered, handed⟩ := bind_ok read
      -- the write takes the key from what was handed out, so this has to be the key that was asked for
      have held := handedOut_key checked leaves compiled
        (fun row rest rows => carries answer row rest answered rows) handed
      have same_key : Resource.key ⟨m.schema.name, m.schema.primaryKey, data⟩ = key := by
        simp only [Resource.key, held]
        rfl
      rw [same_key] at sent
      exact sent

theorem Quiet.delete (quiet : m.Quiet) (checked : m.schema.Checked) (key : Value) :
    Tells d (m.delete key) fun _ xs => m.Removal d (m.Destroys d) key xs :=
  quiet.tracked
    (quiet.removing checked tells_visibleResource fun _ _ => quiet.destroyRow)
    (fun _ => removal_nil) (fun _ _ removal => removal) (fun _ _ _ removal => removal)

theorem Quiet.hardDelete (quiet : m.Quiet) (checked : m.schema.Checked) (key : Value) :
    Tells d (m.hardDelete key)
      fun _ xs => m.Removal d (fun key f => f = m.deletion d key) key xs :=
  quiet.tracked
    (quiet.removing checked (fun tells => tells .include_) fun _ _ => quiet.removeRow)
    (fun _ => removal_nil) (fun _ _ removal => removal) (fun _ _ _ removal => removal)

/-! ## Clearing away -/

/-- The keys that a listing was answered with. -/
def listedKeys (m : Model) (d : Dialect) (x : Exchange) : List Value :=
  let keys := x.answer d >>= fun answer =>
    answer.rows.mapM fun row => Session.columnValue row m.schema.primaryKey
  keys.toOption.getD []

/-- Exchanges that list keys and then remove rows by the first of them, one after the other. -/
def Clearing (m : Model) (d : Dialect) (removes : Value → Fragment → Prop) (xs : List Exchange) :
    Prop :=
  xs = [] ∨ ∃ x segments, xs = x :: List.flatten segments ∧ x.statement.Selects ∧
    List.Forall₂ (m.Removal d removes) ((m.listedKeys d x).take segments.length) segments

/-- Removing row by row removes by the first keys, down to the one whose removal fails. -/
theorem tells_removeEach {remove : Value → Session Bool} {R : Value → List Exchange → Prop}
    (each : ∀ key, Tells d (remove key) fun _ xs => R key xs) (keys : List Value) :
    Tells d (removeEach remove keys) fun _ xs => ∃ segments : List (List Exchange),
      xs = segments.flatten ∧ List.Forall₂ R (keys.take segments.length) segments := by
  induction keys with
  | nil => exact tells_pure ⟨[], rfl, .nil⟩
  | cons key rest ih =>
    refine Tells.bind ((each key).mono fun outcome xs removed => ?_)
    cases outcome with
    | error failure => exact ⟨[xs], by simp, .cons removed .nil⟩
    | ok there =>
      refine Tells.bind (ih.mono fun outcome ys others => ?_)
      obtain ⟨segments, rfl, removals⟩ := others
      have all : ∃ more : List (List Exchange), xs ++ segments.flatten = more.flatten ∧
          List.Forall₂ R ((key :: rest).take more.length) more :=
        ⟨xs :: segments, rfl, .cons removed removals⟩
      cases outcome with
      | error failure => exact all
      | ok count =>
        refine tells_pure ?_
        rw [List.append_nil]
        exact all

theorem tells_keysBefore {name : String} {before : Value}
    {Q : Except Failure (List Value) → List Exchange → Prop}
    (fails : ∀ failure, Q (.error failure) [])
    (sends : ∀ x : Exchange, x.statement.Selects → (∀ failure, Q (.error failure) [x]) ∧
      Q (.ok (m.listedKeys d x)) [x]) :
    Tells d (m.keysBefore name before) Q := by
  refine tells_rowsOf_bind fails fun s _ => ?_
  refine tells_of_bind (fun failure _ => fails failure) fun t _ => ?_
  refine tells_of_bind (fun failure _ => fails failure) fun limit _ => ?_
  refine tells_of_bind (fun failure _ => fails failure) fun u _ => ?_
  refine Tells.bind (tells_fetch (fun failure _ => fails failure) fun f made reply => ?_)
  obtain ⟨refused, listed⟩ := sends ⟨f, reply⟩ (Select.selects_of_toSql made)
  cases came : (Exchange.mk f reply).answer d with
  | error failure => exact refused failure
  | ok answer =>
    simp only [ok_bind]
    cases keys : answer.rows.mapM fun row => Session.columnValue row m.schema.primaryKey with
    | error failure => exact tells_of (refused failure)
    | ok found =>
      simp only [listedKeys, came, ok_bind, keys] at listed
      exact tells_of listed

theorem Quiet.clearing (quiet : m.Quiet) {removes : Value → Fragment → Prop}
    {remove : Value → Session Bool} {name : String} {before : Value} {message : Nat → String}
    (each : ∀ key, Tells d (remove key) fun _ xs => m.Removal d removes key xs) :
    Tells d (m.tracked do
      let keys ← m.keysBefore name before
      let removed ← removeEach remove keys
      Session.log .info (message removed)
      pure removed) fun _ xs => m.Clearing d removes xs := by
  refine quiet.tracked (Q := fun _ xs => m.Clearing d removes xs) ?_ (fun _ => Or.inl rfl)
    (fun _ _ clearing => clearing) (fun _ _ _ clearing => clearing)
  refine Tells.bind (tells_keysBefore (fun _ => Or.inl rfl) fun x selects => ⟨fun _ => ?_, ?_⟩)
  · exact Or.inr ⟨x, [], rfl, selects, .nil⟩
  · refine Tells.bind ((tells_removeEach each _).mono fun outcome xs removed => ?_)
    obtain ⟨segments, rfl, removals⟩ := removed
    have cleared : m.Clearing d removes ([x] ++ segments.flatten) :=
      Or.inr ⟨x, segments, rfl, selects, removals⟩
    cases outcome with
    | error failure => exact cleared
    | ok count =>
      refine tells_log_bind (tells_pure ?_)
      rw [List.append_nil]
      exact cleared

end Model

/-! ## Removing the right row -/

/-- A removal writes at most once, behind the selection that reads the row with its key; where the
fetched row carries the key, and neither an accessor nor a hook makes another value of it, the write is
the deletion or the trashing of the rows whose primary key is this key.  Clearing away lists keys first
and then removes by the first of them, one after the other. -/
theorem Model.removals_keep_to_their_key {m : Model} {d : Dialect} (quiet : m.Quiet)
    (declared : m.schema.Declared) {s : SessionState} {script : List Reply}
    (opened : s.Open d script) :
    (∀ key, m.Removal d (m.Destroys d) key ((m.delete key s).sent script)) ∧
    (∀ key, m.Removal d (fun key f => f = m.deletion d key) key
      ((m.hardDelete key s).sent script)) ∧
    (∀ before, m.Clearing d (m.Destroys d) ((m.prune before s).sent script)) ∧
    ∀ before, m.Clearing d (fun key f => f = m.deletion d key)
      ((m.purgeTrashed before s).sent script) := by
  have checked := declared.checked
  refine ⟨fun key => ?_, fun key => ?_, fun before => ?_, fun before => ?_⟩
  · exact (quiet.delete checked key s script opened).2
  · exact (quiet.hardDelete checked key s script opened).2
  · exact (quiet.clearing (fun key => quiet.delete checked key) s script opened).2
  · exact (quiet.clearing (fun key => quiet.hardDelete checked key) s script opened).2

namespace Sample

/-! ## Tags -/

/-- Tags, whose key is a code that is shown in small letters. -/
def tagDefinition : Definition where
  name := .str "tag"
  table := .str "tags"
  readable := .list [.str "code"]
  writable := .dict []
  primaryKey := .str "code"
  cursorField := .null
  required := .null
  related := .null
  unique := .null
  search := .null
  maxRelatedDepth := .null
  defaultLimit := .null
  maxLimit := .null
  mutators := .null
  accessors := .dict [("code", .str "lowercase")]
  defaults := .null
  deletedAt := .null
  pruneField := .null
  upsertConflict := .null
  hooks := .dict []
  omitted := .null

def tagSchema : Schema where
  name := .str "tag"
  table := "tags"
  primaryKey := "code"
  cursorField := "code"
  readable := ["code"]
  writable := []
  required := []
  related := []
  unique := []
  search := []
  maxRelatedDepth := none
  defaultLimit := none
  maxLimit := none
  mutators := []
  accessors := [("code", .str "lowercase")]
  defaults := []
  deletedAt := none
  pruneField := none
  upsertConflict := ["code"]
  hooks := []
  omitted := []

theorem tag_declared : tagSchema.Declared := ⟨tagDefinition, by rfl⟩

def tagModel : Model :=
  ⟨⟨⟨.standard, [⟨tagSchema, none⟩]⟩, [], default⟩, tagSchema,
    ⟨"ResourceModel", ⟨false, false, none⟩⟩, fun _ => Session.fail Session.endless⟩

theorem tagModel_quiet : tagModel.Quiet := by
  intro point name member
  have none : tagModel.schema.hookNames point.name = [] := by cases point <;> rfl
  rw [none] at member
  cases member

/-- The tag with a code is there, and deleting it writes one row. -/
def tagReplies (code : String) : List Reply :=
  [rowsReply [[("code", .str code)]], writtenReply 1]

def tagDeletion (code : String) : Ran Bool :=
  tagModel.delete (.str code) (pageState (tagReplies code))

theorem carries_code (code : String) : tagModel.Carries [("code", .str code)] (.str code) := by
  refine ⟨by simp [Mapping.keys], ?_, rfl⟩
  intro column member
  exact member

/-- The selection that reads the tag with a code, and the deletion of the tag with another. -/
def tagStatements (code deleted : String) : List Fragment :=
  [⟨"SELECT \"tags\".\"code\" AS \"code\" FROM \"tags\" WHERE \"tags\".\"code\" = ? " ++
    "ORDER BY \"tags\".\"code\" ASC", [.str code]⟩,
    ⟨"DELETE FROM \"tags\" WHERE \"code\" = ?", [.str deleted]⟩]

theorem tagDeletion_sent (code deleted : String)
    (sends : (statements (tagDeletion code).entries).map (fun f => (f.sql, f.params.map scalar?)) =
      (tagStatements code deleted).map fun f => (f.sql, f.params.map scalar?)) :
    (tagDeletion code).sent (tagReplies code) =
      exchanges (tagStatements code deleted) (tagReplies code) := by
  have known := statements_known [(_, [.inl code]), (_, [.inl deleted])] sends
  rw [Ran.sent, known]
  rfl

/-- A code in small letters is left as it is, so its row is deleted. -/
theorem small_code_removed : ∃ fetch write, (tagDeletion "abc").sent (tagReplies "abc") =
    [fetch, write] ∧ write.statement = tagModel.deletion .sqlite (.str "abc") := by
  have opened : (pageState (tagReplies "abc")).Open .sqlite (tagReplies "abc") := ⟨rfl, rfl, rfl⟩
  obtain ⟨fetch?, write?, same, _, keeps⟩ :=
    (Model.removals_keep_to_their_key tagModel_quiet tag_declared opened).1 (.str "abc")
  have sent : (tagDeletion "abc").sent (tagReplies "abc") = _ :=
    tagDeletion_sent "abc" "abc" (by decide +kernel)
  have parts : fetch?.toList ++ write?.toList = _ := same.symm.trans sent
  rcases fetch? with _ | fetch
  · rcases write? with _ | write
    · cases parts
    · cases parts
  rcases write? with _ | write
  · cases parts
  cases parts
  refine ⟨_, _, sent, ?_⟩
  obtain ⟨x, member, addressed⟩ := keeps _ rfl
  cases Option.mem_some.mp member
  refine addressed ⟨?_, ?_⟩ ?_
  · intro declaration member
    cases List.mem_singleton.mp member
    rfl
  · intro name member
    cases member
  · intro answer row rest answered rows
    cases answered
    cases rows
    exact carries_code "abc"

/-- A code in capitals is shown in small letters, and these are what the write looks for: the row that
was fetched for the code stays, and another one is deleted in its place. -/
theorem capital_code_misses_its_row : ∃ fetch write,
    (tagDeletion "ABC").sent (tagReplies "ABC") = [fetch, write] ∧
      fetch.answer .sqlite = .ok ⟨[[("code", .str "ABC")]], 0, .null⟩ ∧
      tagModel.Carries [("code", .str "ABC")] (.str "ABC") ∧
      write.statement = tagModel.deletion .sqlite (.str "abc") ∧
      write.statement ≠ tagModel.deletion .sqlite (.str "ABC") := by
  have sent := tagDeletion_sent "ABC" "abc" (by decide +kernel)
  refine ⟨_, _, sent, rfl, carries_code "ABC", rfl, ?_⟩
  intro same
  have texts : (Value.str "abc").string? = (Value.str "ABC").string? :=
    congrArg (fun f : Fragment => f.params.head?.bind Value.string?) same
  exact absurd texts (by decide)

end Sample

end Curator
