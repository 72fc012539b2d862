import Curator.Proofs.Model.Assigned
import Curator.Proofs.Model.WriteOrder
import Curator.Proofs.Plan.KeyRow
/-!
# Copies

A row is copied by reading it, with its accessors, and creating another one, with their mutators.  So a
copied value is what the mutators make of what the accessors make of the stored one.
-/

set_option autoImplicit false

namespace Curator

open Sql Outcome Session

/-! ## Rows and their copies -/

theorem Mapping.value?_filter {α : Type} {m : Mapping α} {keeps : String → Bool} {key : String}
    (kept : keeps key = true) :
    Mapping.value? (m.filter fun (name, _) => keeps name) key = m.value? key := by
  induction m with
  | nil => rfl
  | cons entry rest ih =>
    rcases entry with ⟨k, v⟩
    by_cases same : key = k
    · subst same
      simp [kept, value?_cons]
    · by_cases stays : keeps k = true
      · simp [stays, value?_cons, same, ih]
      · simp [stays, value?_cons, same, ih]

namespace Model

variable {m : Model} {d : Dialect} {key : Value} {overrides row data inserted : Record}

/-- A stored value as a copy has it: read with the accessors of its column, and written with its
mutators. -/
def recoded (m : Model) (column : String) (v : Value) : Except Failure Value := do
  let shown ← TransformTable.standard.applied m.schema.accessors column v
  TransformTable.standard.applied m.schema.mutators column shown

theorem recoded_plain {column : String} (unread : column ∉ m.schema.accessors.keys)
    (unwritten : column ∉ m.schema.mutators.keys) (v : Value) : m.recoded column v = .ok v := by
  unfold recoded
  rw [TransformTable.applied_none unread, ok_bind, TransformTable.applied_none unwritten]

/-- A row as a selection of readable columns returns it. -/
structure Returned (m : Model) (row : Record) : Prop where
  distinct : row.keys.Nodup
  readable : ∀ column ∈ row.keys, column ∈ m.schema.readable

/-- Without hooks a new row has a given value as the mutators leave it. -/
theorem NewMade.value? {fields : Record} (made : m.NewMade fields inserted)
    (bare : m.schema.hooks = []) {column : String} {v : Value}
    (plain : m.kind.capabilities.nullableJson ≠ some column)
    (given : fields.value? column = some v) :
    ∃ w, TransformTable.standard.applied m.schema.mutators column v = .ok w ∧
      inserted.value? column = some w := by
  obtain ⟨mutated, mutates, settled⟩ := made
  obtain ⟨w, applied, found⟩ := (TransformTable.transformed_value mutates column).2 v given
  simp only [settledNew, hooked_of_bare bare, ok_bind] at settled
  obtain ⟨row, changed, same⟩ := bind_ok settled
  cases same
  refine ⟨w, applied, ?_⟩
  rw [jsonFields_other changed plain, value?_withDefaults, found, Option.some_or]

theorem nodup_jsonFields {fields settled : Record} {change : String → Value → Except Failure Record}
    (distinct : fields.keys.Nodup) (ok : m.jsonFields fields change = .ok settled) :
    settled.keys.Nodup := by
  unfold jsonFields at ok
  split at ok
  · cases ok
    exact distinct
  · split at ok
    · cases ok
      exact distinct
    · obtain ⟨data, _, ok⟩ := bind_ok ok
      obtain ⟨changed, _, ok⟩ := bind_ok ok
      obtain ⟨text, _, ok⟩ := bind_ok ok
      cases pure_ok ok
      exact Mapping.nodup_put distinct _ _

theorem NewMade.nodup {fields : Record} (made : m.NewMade fields inserted)
    (bare : m.schema.hooks = []) (distinct : fields.keys.Nodup) : inserted.keys.Nodup := by
  obtain ⟨mutated, mutates, settled⟩ := made
  simp only [settledNew, hooked_of_bare bare, ok_bind] at settled
  obtain ⟨row, changed, same⟩ := bind_ok settled
  cases same
  refine nodup_jsonFields (nodup_withDefaults ?_) changed
  exact TransformTable.nodup_transformed distinct mutates

theorem handedOut_rows {plan : Plan} {answer : Answered} (ok : m.handedOut plan answer = .ok data) :
    ∃ row rest, answer.rows = row :: rest := by
  unfold handedOut at ok
  split at ok
  · cases ok
  · rename_i row rest rows
    exact ⟨row, rest, rows⟩

/-- Without hooks a row is handed out with the values that the accessors make of its own. -/
theorem handedOut_value {mode : TrashedMode} {plan : Plan} {answer : Answered} {rest : List Record}
    (checked : m.schema.Checked) (bare : m.schema.hooks = [])
    (compiled : m.keyPlan key mode = .ok plan) (rows : answer.rows = row :: rest)
    (returned : m.Returned row) (ok : m.handedOut plan answer = .ok data) {column : String} {v : Value}
    (stored : row.value? column = some v) :
    ∃ w, TransformTable.standard.applied m.schema.accessors column v = .ok w ∧
      data.value? column = some w := by
  unfold handedOut at ok
  rw [rows] at ok
  obtain ⟨record, reshaped, ran⟩ := bind_ok ok
  rw [hooked_of_bare bare] at ran
  cases ran
  have plain : ∀ column ∈ row.keys, Text.isIdentifier column = true :=
    fun column member => checked.readable column (returned.readable column member)
  rw [keyPlan_reshape compiled plain] at reshaped
  refine (TransformTable.transformed_value reshaped column).2 v ?_
  rw [Mapping.value?_overlay returned.distinct, stored, Option.some_or]

theorem nodup_handedOut {plan : Plan} {answer : Answered} (bare : m.schema.hooks = [])
    (ok : m.handedOut plan answer = .ok data) : data.keys.Nodup := by
  unfold handedOut at ok
  split at ok
  · cases ok
  · obtain ⟨record, reshaped, ran⟩ := bind_ok ok
    rw [hooked_of_bare bare] at ran
    cases ran
    exact Plan.nodup_reshape reshaped

theorem value?_copied (distinct : overrides.keys.Nodup) (existing : Record) {column : String}
    (writable : m.schema.isWritable column = true) :
    (m.copied existing overrides).value? column =
      (overrides.value? column).or (existing.value? column) := by
  unfold copied
  rw [Mapping.value?_overlay distinct, Mapping.value?_filter writable]

/-- Values to be written as a copy of a row: every value that is replaced as the mutators leave it, and
every other writable value of the row as accessors and mutators leave it. -/
structure Copies (m : Model) (row overrides inserted : Record) : Prop where
  distinct : inserted.keys.Nodup
  replaced : ∀ column v, m.kind.capabilities.nullableJson ≠ some column →
    overrides.value? column = some v →
    ∃ w, TransformTable.standard.applied m.schema.mutators column v = .ok w ∧
      inserted.value? column = some w
  kept : m.Returned row → ∀ column v, m.kind.capabilities.nullableJson ≠ some column →
    m.schema.isWritable column = true → overrides.value? column = none →
    row.value? column = some v → ∃ w, m.recoded column v = .ok w ∧ inserted.value? column = some w

theorem NewMade.copies {mode : TrashedMode} {plan : Plan} {answer : Answered} {rest : List Record}
    (made : m.NewMade (m.copied data overrides) inserted) (checked : m.schema.Checked)
    (bare : m.schema.hooks = []) (distinct : overrides.keys.Nodup)
    (compiled : m.keyPlan key mode = .ok plan) (rows : answer.rows = row :: rest)
    (handed : m.handedOut plan answer = .ok data) : m.Copies row overrides inserted := by
  refine ⟨made.nodup bare (nodup_copied (nodup_handedOut bare handed) overrides), ?_, ?_⟩
  · intro column v plain given
    refine made.value? bare plain ?_
    unfold copied
    rw [Mapping.value?_overlay distinct, given, Option.some_or]
  · intro returned column v plain writable unreplaced stored
    obtain ⟨shown, accessed, held⟩ :=
      handedOut_value checked bare compiled rows returned handed stored
    have given : (m.copied data overrides).value? column = some shown := by
      rw [value?_copied distinct data writable, unreplaced, held, Option.none_or]
    obtain ⟨w, mutated, found⟩ := made.value? bare plain given
    refine ⟨w, ?_, found⟩
    unfold recoded
    rw [accessed, ok_bind, mutated]

/-! ## Replicating -/

theorem fetch_selects {plan : Plan} {f : Fragment} (ok : plan.fetchSql d = .ok f) : f.Selects := by
  obtain ⟨s, _, written⟩ := Plan.fetchSql_ok ok
  exact Select.selects_of_toSql written

/-- Exchanges of a read by key: if it returns, the only one is the fetch that it hands out from. -/
def ReadsRow (m : Model) (d : Dialect) (key : Value) : Except Failure Record → List Exchange → Prop :=
  fun outcome xs => (∀ x ∈ xs, x.statement.Selects) ∧ ∀ data, outcome = .ok data →
    ∃ fetch mode plan, xs = [fetch] ∧ m.keyPlan key mode = .ok plan ∧
      plan.fetchSql d = .ok fetch.statement ∧ (fetch.answer d >>= m.handedOut plan) = .ok data

theorem Quiet.readRow (quiet : m.Quiet) (key : Value) :
    Tells d (m.tracked (m.readRow key [])) (m.ReadsRow d key) := by
  refine quiet.tracked (Q := m.ReadsRow d key) ?_ (fun _ => ⟨nofun, nofun⟩) (fun _ _ told => told)
    fun _ _ _ told => ⟨told.1, nofun⟩
  refine tells_mode_bind fun mode => quiet.fetchRow (fun _ => ⟨nofun, nofun⟩) ?_
  intro plan fetch compiled asked
  refine ⟨List.forall_mem_singleton.mpr (fetch_selects asked), fun data handed => ?_⟩
  exact ⟨fetch, mode, plan, rfl, compiled, asked, handed⟩

/-- Exchanges of a replication: selections only, or the fetch of a row and behind it one write, of a row
that is made of what was handed out. -/
def Replicates (m : Model) (d : Dialect) (key : Value) (overrides : Record) :
    Except Failure Resource → List Exchange → Prop :=
  fun outcome xs => (outcome.isOk = false ∧ ∀ x ∈ xs, x.statement.Selects) ∨
    ∃ fetch behind mode plan data, xs = fetch :: behind ∧ m.keyPlan key mode = .ok plan ∧
      plan.fetchSql d = .ok fetch.statement ∧ (fetch.answer d >>= m.handedOut plan) = .ok data ∧
      OneWrite (fun _ row => m.NewMade (m.copied data overrides) row) (fun row f =>
        insertion d m.schema.table row .fail (some m.schema.primaryKey) = .ok f) outcome behind

theorem Quiet.replicate (quiet : m.Quiet) (key : Value) (overrides : Record) :
    Tells d (m.replicate key overrides) (m.Replicates d key overrides) := by
  refine quiet.tracked (Q := m.Replicates d key overrides) ?_ (fun _ => Or.inl ⟨rfl, nofun⟩)
    (fun _ _ told => told) ?_
  · refine tells_of_bind (fun _ _ => Or.inl ⟨rfl, nofun⟩) fun _ _ => ?_
    refine Tells.bind ((quiet.readRow key).mono fun outcome xs ⟨selects, returned⟩ => ?_)
    cases outcome with
    | error failure => exact Or.inl ⟨rfl, selects⟩
    | ok data =>
      obtain ⟨fetch, mode, plan, rfl, compiled, asked, handed⟩ := returned data rfl
      refine (quiet.createMade _).mono fun outcome behind written => Or.inr ?_
      refine ⟨fetch, behind, mode, plan, data, rfl, compiled, asked, handed, ?_⟩
      exact written.mono (fun _ _ _ ready => ready.1) fun _ _ made => made
  · rintro _ _ failure (⟨failed, selects⟩ | ⟨fetch, behind, mode, plan, data, rest⟩)
    · cases failed
    · obtain ⟨rfl, compiled, asked, handed, written⟩ := rest
      exact Or.inr ⟨fetch, behind, mode, plan, data, rfl, compiled, asked, handed, written.spoiled⟩

end Model

/-- A copy has what is stored, as accessors and mutators leave it.  Without hooks a replication sends
selections only, or it fetches a row by the key and inserts one other row behind it, with
nothing but selections around: this row has every replaced value as the mutators of its column make it,
and every other writable value that was fetched as first the accessors and then the mutators of its
column make it, so exactly the stored value wherever the mutators undo the accessors. -/
theorem Model.copies_are_recoded {m : Model} {d : Dialect} (checked : m.schema.Checked)
    (bare : m.schema.hooks = []) {s : SessionState} {script : List Reply} (opened : s.Open d script)
    (key : Value) {overrides : Record} (distinct : overrides.keys.Nodup) :
    let ran := m.replicate key overrides s
    let xs := ran.sent script
    (∀ x ∈ xs, x.statement.Selects) ∨
      ∃ fetch before insert after answer row rest inserted mode plan,
        xs = fetch :: (before ++ insert :: after) ∧ (∀ x ∈ before ++ after, x.statement.Selects) ∧
        m.keyPlan key mode = .ok plan ∧ plan.fetchSql d = .ok fetch.statement ∧
        fetch.answer d = .ok answer ∧ answer.rows = row :: rest ∧
        insertion d m.schema.table inserted .fail (some m.schema.primaryKey) = .ok insert.statement ∧
        insert.statement.params = inserted.map (·.2) ∧ m.Copies row overrides inserted := by
  intro ran xs
  have quiet : m.Quiet := Model.quiet_of_bare bare
  rcases (quiet.replicate key overrides s script opened).2 with ⟨_, selects⟩ | wrote
  · exact Or.inl selects
  obtain ⟨fetch, behind, mode, plan, data, same, compiled, asked, handed, written⟩ := wrote
  obtain ⟨before, after, write, rfl, selects, reached⟩ := written
  obtain ⟨answer, answered, handed⟩ := bind_ok handed
  cases write with
  | none =>
    refine Or.inl fun x member => ?_
    simp only [Option.toList_none, List.append_nil] at same
    rw [show xs = fetch :: (before ++ after) from same] at member
    rcases List.mem_cons.mp member with rfl | other
    · exact fetch_selects asked
    · exact selects x other
  | some insert =>
    obtain ⟨inserted, made, sends⟩ := reached (Or.inl rfl)
    have sent := sends insert rfl
    obtain ⟨row, rest, rows⟩ := handedOut_rows handed
    refine Or.inr ⟨fetch, before, insert, after, answer, row, rest, inserted, mode, plan, ?_, selects,
      compiled, asked, answered, rows, sent, insertion_params sent,
      made.copies checked bare distinct compiled rows handed⟩
    rw [show xs = _ from same, Option.toList_some, List.append_assoc]
    rfl

namespace Sample

/-- Pages with some transforms for their slugs, which may be shared. -/
def sharedSchema (accessors mutators : Mapping Value) : Schema :=
  { slugSchema with related := [], unique := [], accessors, mutators }

def sharedModel (accessors mutators : Mapping Value) : Model :=
  let schema := sharedSchema accessors mutators
  { slugModel with engine := ⟨⟨.standard, [⟨schema, none⟩]⟩, [], default⟩, schema }

theorem shared_checked (accessors mutators : Mapping Value) :
    (sharedSchema accessors mutators).Checked where
  table := (by decide : Text.isIdentifier slugSchema.table = true)
  readable := by
    have all : ∀ name ∈ slugSchema.readable, Text.isIdentifier name = true := by decide
    exact all
  readable_ne_nil := nofun
  primaryKey := List.mem_cons_self
  cursorField := List.mem_cons_self
  search := nofun

def storedHome : Record := [("id", .int 1), ("slug", .str "home"), ("parent_id", .int 2)]

/-- The page is read, its copy is inserted, and the copy is read. -/
def copyReplies : List Reply :=
  [rowsReply [storedHome], writtenReply 2,
    rowsReply [[("id", .int 2), ("slug", .str "home"), ("parent_id", .int 3)]]]

/-- Slugs are shown in capitals and made small when they are written. -/
def loudModel : Model := sharedModel [("slug", .str "uppercase")] [("slug", .str "slug")]

def homeCopy : Ran Resource :=
  loudModel.replicate (.int 1) [("parent_id", .int 3)] (pageState copyReplies)

/-- The page is fetched, its copy is inserted, and the copy is fetched. -/
def homeCopyStatements : List Fragment :=
  [⟨"SELECT \"" ++ fetchedPage, [.int 1]⟩,
    ⟨"INSERT INTO \"pages\" (\"slug\", \"parent_id\") VALUES (?, ?)", [.str "home", .int 3]⟩,
    ⟨"SELECT \"" ++ fetchedPage, [.int 2]⟩]

theorem home_copy_sent : homeCopy.sent copyReplies = exchanges homeCopyStatements copyReplies := by
  have known : statements homeCopy.entries = homeCopyStatements :=
    statements_known [("SELECT \"" ++ fetchedPage, [.inr 1]),
      ("INSERT INTO \"pages\" (\"slug\", \"parent_id\") VALUES (?, ?)", [.inl "home", .inr 3]),
      ("SELECT \"" ++ fetchedPage, [.inr 2])] (by decide +kernel)
  rw [Ran.sent, known]

theorem loud_home_restored : loudModel.recoded "slug" (.str "home") = .ok (.str "home") := by
  rfl

/-- A slug in small letters is copied as it is stored, and another parent is written as it is given. -/
theorem home_slug_copied : ∃ insert ∈ homeCopy.sent copyReplies, ∃ inserted,
    insertion .sqlite "pages" inserted .fail (some "id") = .ok insert.statement ∧
    insert.statement.params = inserted.map (·.2) ∧
    inserted.value? "slug" = some (.str "home") ∧ inserted.value? "parent_id" = some (.int 3) := by
  have opened : (pageState copyReplies).Open .sqlite copyReplies := ⟨rfl, rfl, rfl⟩
  have once : Mapping.keys [("parent_id", Value.int 3)] |>.Nodup := by decide
  have copied := Model.copies_are_recoded (m := loudModel) (shared_checked _ _) rfl opened (.int 1) once
  rcases copied with selects | wrote
  · -- the second statement is no selection
    have second : homeCopyStatements[1] ∈ (homeCopy.sent copyReplies).map (·.statement) := by
      rw [home_copy_sent]
      exact List.mem_cons_of_mem _ List.mem_cons_self
    obtain ⟨x, member, same⟩ := List.mem_map.mp second
    have inserts : homeCopyStatements[1].Inserts :=
      ⟨"\"pages\" (\"slug\", \"parent_id\") VALUES (?, ?)", by decide +kernel⟩
    rw [← same] at inserts
    exact absurd (selects x member) inserts.not_selects
  obtain ⟨fetch, before, insert, after, answer, row, rest, inserted, _, _, same, _, _, _, answered, rows,
    made, binds, copies⟩ := wrote
  have sent := same.symm.trans home_copy_sent
  have member : insert ∈ homeCopy.sent copyReplies := by
    rw [homeCopy, same]
    simp
  cases (List.cons.inj sent).1
  cases answered
  cases rows
  refine ⟨insert, member, inserted, made, binds, ?_, ?_⟩
  · have returned : loudModel.Returned storedHome := ⟨by decide, by decide⟩
    obtain ⟨w, recoded, found⟩ := copies.kept returned "slug" (.str "home") nofun rfl rfl rfl
    rw [loud_home_restored] at recoded
    cases recoded
    exact found
  · obtain ⟨w, mutated, found⟩ := copies.replaced "parent_id" (.int 3) nofun rfl
    cases mutated
    exact found

/-- Slugs are not shown at all. -/
def hiddenModel : Model := sharedModel [("slug", .str "censor")] []

/-- The copy of a page whose slug is not shown has stars instead of the slug. -/
theorem hidden_slug_lost : hiddenModel.schema.hooks = [] ∧ "slug" ∈ hiddenModel.schema.readable ∧
    hiddenModel.schema.isWritable "slug" = true ∧ storedHome.value? "slug" = some (.str "home") ∧
    (statements (hiddenModel.replicate (.int 1) [] (pageState copyReplies)).entries).take 2 =
      [⟨"SELECT \"" ++ fetchedPage, [.int 1]⟩,
        ⟨"INSERT INTO \"pages\" (\"slug\", \"parent_id\") VALUES (?, ?)",
          [.str "********", .int 2]⟩] :=
  ⟨rfl, by decide, by decide, rfl,
    statements_known [("SELECT \"" ++ fetchedPage, [.inr 1]), (_, [.inl "********", .inr 2])]
      (by decide +kernel)⟩

end Sample

end Curator
