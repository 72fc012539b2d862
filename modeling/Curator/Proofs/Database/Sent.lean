import Curator.Proofs.Database.Exchange
import Curator.Proofs.Outcome
/-!
# What the operations on tables send

Every operation on the database either fails before it sends anything or sends one statement, and its
outcome is then decided by the reply.
-/

set_option autoImplicit false

namespace Curator

open Sql Outcome

/-! ## How statements begin -/

theorem Sql.Select.selects_of_toSql {s : Select} {f : Fragment} (ok : s.toSql = .ok f) :
    f.Selects := by
  unfold Select.toSql at ok
  obtain ⟨⟨source, conditional⟩, _, ok⟩ := bind_ok ok
  obtain ⟨limit, _, ok⟩ := bind_ok ok
  obtain ⟨offset, _, ok⟩ := bind_ok ok
  cases pure_ok ok
  simp only [String.append_assoc]
  exact ⟨_, rfl⟩

theorem Sql.Fragment.counts_of_sql {f : Fragment} {rest : String}
    (text : f.sql = "SELECT COUNT(*) AS \"aggregate\"" ++ rest) : f.Counts := by
  refine ⟨"*) AS \"aggregate\"" ++ rest, ?_⟩
  rw [text, ← String.append_assoc]
  rfl

theorem Sql.Select.countSql_ok {s : Select} {f : Fragment} (ok : s.countSql = .ok f) :
    ∃ source conditional, s.fromClause = .ok (source, conditional) ∧
      (s.groups = [] → f = ⟨"SELECT COUNT(*) AS \"aggregate\"" ++ source.sql, source.params⟩) ∧
      f.Counts := by
  unfold Select.countSql Select.aggregateSql at ok
  obtain ⟨aggregate, _, ok⟩ := bind_ok ok
  obtain ⟨⟨source, conditional⟩, clause, ok⟩ := bind_ok ok
  refine ⟨source, conditional, clause, ?_⟩
  simp only at ok
  split at ok
  · cases pure_ok ok
    exact ⟨fun _ => rfl, Fragment.counts_of_sql rfl⟩
  · rename_i grouped
    cases pure_ok ok
    refine ⟨fun none => absurd (by rw [none]; rfl) grouped, ?_⟩
    have opening : "SELECT COUNT(*) AS \"aggregate\" FROM (SELECT 1 AS \"grouped_row\"" =
      "SELECT COUNT(*) AS \"aggregate\"" ++ " FROM (SELECT 1 AS \"grouped_row\"" := rfl
    simp only [opening, String.append_assoc]
    exact Fragment.counts_of_sql rfl

theorem Sql.Fragment.Counts.selects {f : Fragment} (counts : f.Counts) : f.Selects := by
  obtain ⟨rest, text⟩ := counts
  refine ⟨"COUNT(" ++ rest, ?_⟩
  rw [text, ← String.append_assoc]
  rfl

theorem Sql.insertSql_inserts {d : Dialect} {table : String} {fields : Record}
    {onConflict : OnConflict} {f : Fragment} (ok : insertSql d table fields onConflict = .ok f) :
    f.Inserts := by
  unfold insertSql at ok
  obtain ⟨columns, _, ok⟩ := bind_ok ok
  obtain ⟨name, _, ok⟩ := bind_ok ok
  simp only at ok
  split at ok
  · cases pure_ok ok
    simp only [String.append_assoc]
    exact ⟨_, rfl⟩
  · cases ok
  · obtain ⟨clause, _, ok⟩ := bind_ok ok
    cases pure_ok ok
    simp only [String.append_assoc]
    exact ⟨_, rfl⟩

theorem Sql.updateSql_updates {d : Dialect} {table : String} {fields filter : Record}
    {f : Fragment} (ok : updateSql d table fields filter = .ok f) : f.Updates := by
  unfold updateSql at ok
  obtain ⟨columns, _, ok⟩ := bind_ok ok
  obtain ⟨condition, _, ok⟩ := bind_ok ok
  obtain ⟨name, _, ok⟩ := bind_ok ok
  cases pure_ok ok
  simp only [String.append_assoc]
  exact ⟨_, rfl⟩

/-! ## Selections -/

namespace Session

variable {d : Dialect}

/-- Work that only selects. -/
abbrev SelectsOnly {α : Type} : Except Failure α → List Exchange → Prop :=
  Every fun x => x.statement.Selects

/-- The rest of a statement's work on the answer. -/
theorem tells_execute_bind {α : Type} {f : Fragment} {next : Answered → Session α}
    {result : Answered → Except Failure α} {Q : Except Failure α → List Exchange → Prop}
    (same : ∀ answer, next answer = of (result answer))
    (holds : ∀ reply, Q ((Exchange.mk f reply).answer d >>= result) [⟨f, reply⟩]) :
    Tells d (execute f >>= next) Q := by
  refine Tells.bind (tells_execute fun reply => ?_)
  have told := holds reply
  cases came : (Exchange.mk f reply).answer d with
  | error failure =>
    rw [came] at told
    exact told
  | ok answer =>
    rw [came] at told
    simp only [same]
    exact tells_of told

theorem tells_select {f : Fragment} {Q : Except Failure (List Record) → List Exchange → Prop}
    (holds : ∀ reply, Q ((Exchange.mk f reply).answer d >>= fun a => .ok a.rows) [⟨f, reply⟩]) :
    Tells d (select f) Q :=
  tells_execute_bind (fun _ => rfl) holds

/-- Counting is one statement, from whose reply the number is read. -/
theorem counted_eq (f : Fragment) : counted f = execute f >>= fun a =>
    of (countOf (((a.rows.head?.bind List.head?).map (·.2)).getD .null)) := by
  simp only [counted, single, row?, select, bind_assoc, pure_bind]

theorem tells_counted {f : Fragment} {Q : Except Failure Int → List Exchange → Prop}
    (holds : ∀ reply, Q ((Exchange.mk f reply).count d) [⟨f, reply⟩]) :
    Tells d (counted f) Q := by
  rw [counted_eq]
  exact tells_execute_bind (fun _ => rfl) holds

theorem tells_fetch {selection : Select} {Q : Except Failure (List Record) → List Exchange → Prop}
    (fails : ∀ failure, selection.toSql = .error failure → Q (.error failure) [])
    (sends : ∀ f, selection.toSql = .ok f → ∀ reply,
      Q ((Exchange.mk f reply).answer d >>= fun a => .ok a.rows) [⟨f, reply⟩]) :
    Tells d (fetch selection) Q :=
  tells_of_bind fails fun f made => tells_select (sends f made)

theorem tells_total {selection : Select} {Q : Except Failure Int → List Exchange → Prop}
    (fails : ∀ failure, selection.countSql = .error failure → Q (.error failure) [])
    (sends : ∀ f, selection.countSql = .ok f → ∀ reply,
      Q ((Exchange.mk f reply).count d) [⟨f, reply⟩]) :
    Tells d (total selection) Q :=
  tells_of_bind fails fun f made => tells_counted (sends f made)

/-! ## Writes -/

/-- The statement that inserts a row, with the column it is asked to return where the database does
not tell the new key by itself. -/
def insertion (d : Dialect) (table : String) (fields : Record) (onConflict : OnConflict)
    (returning : Option String) : Except Failure Fragment := do
  let f ← insertSql d table fields onConflict
  match d, returning.filter (· != "") with
  | .sqlite, _ => pure f
  | .postgresql, none => pure f
  | .postgresql, some column =>
    let name ← quote column
    pure ⟨f.sql ++ " RETURNING " ++ name, f.params⟩

theorem insertion_inserts {d : Dialect} {table : String} {fields : Record}
    {onConflict : OnConflict} {returning : Option String} {f : Fragment}
    (ok : insertion d table fields onConflict returning = .ok f) : f.Inserts := by
  unfold insertion at ok
  obtain ⟨plain, made, ok⟩ := bind_ok ok
  have inserts := insertSql_inserts made
  split at ok
  · cases pure_ok ok
    exact inserts
  · cases pure_ok ok
    exact inserts
  · obtain ⟨name, _, ok⟩ := bind_ok ok
    cases pure_ok ok
    obtain ⟨rest, text⟩ := inserts
    refine ⟨rest ++ " RETURNING " ++ name, ?_⟩
    simp only [text, String.append_assoc]

/-- The key of an inserted row, as the answer to the insert tells it. -/
def reported (d : Dialect) (returning : Option String) (answer : Answered) : Except Failure Value :=
  match d, returning.filter (· != "") with
  | .sqlite, _ => .ok answer.lastId
  | .postgresql, none => .ok .null
  | .postgresql, some column => returnedKey answer.rows column

theorem dialect_bind_at {α : Type} (next : Dialect → Session α) (s : SessionState) :
    (dialect >>= next) s = next s.database.dialect s := rfl

theorem runInsert_at {table : String} {fields : Record} {onConflict : OnConflict} {f : Fragment}
    {returning : Option String} {s : SessionState}
    (made : insertSql s.database.dialect table fields onConflict = .ok f) :
    runInsert f returning s = (do
      let g ← of (insertion s.database.dialect table fields onConflict returning)
      let answer ← execute g
      let key ← of (reported s.database.dialect returning answer)
      keepLastId key
      pure answer.count) s := by
  unfold runInsert
  rw [dialect_bind_at]
  cases speaks : s.database.dialect with
  | sqlite =>
    rw [speaks] at made
    simp only [insertion, made, ok_bind]
    rfl
  | postgresql =>
    rw [speaks] at made
    simp only [insertion, made, ok_bind, reported]
    cases returning.filter (· != "") with
    | none => rfl
    | some column =>
      simp only [of_bind, bind_assoc]
      rfl

/-- An insert is one statement, from whose answer the new key is kept. -/
theorem insert_eq {table : String} {fields : Record} (given : fields ≠ []) (onConflict : OnConflict)
    (returning : Option String) :
    insert table fields onConflict returning = (do
      let d ← dialect
      let f ← of (insertion d table fields onConflict returning)
      let answer ← execute f
      let key ← of (reported d returning answer)
      keepLastId key
      pure answer.count) := by
  have some_fields : ¬ fields.isEmpty = true := fun none => given (List.isEmpty_iff.mp none)
  funext s
  unfold Session.insert
  rw [if_neg some_fields, dialect_bind_at, dialect_bind_at]
  cases made : insertSql s.database.dialect table fields onConflict with
  | error failure =>
    simp only [insertion, made]
    rfl
  | ok f => exact runInsert_at made

theorem tells_keepLastId {key : Value} {Q : Except Failure Unit → List Exchange → Prop}
    (holds : Q (.ok ()) []) : Tells d (keepLastId key) Q :=
  fun _ _ opened => ⟨⟨opened.dialect, opened.pending, opened.upserting⟩, holds⟩

/-- A way to judge work by its outcome and its exchanges together, as `Tells` is one.  It need not
presuppose a connection: a statement may fail before it is sent. -/
structure Judges (d : Dialect)
    (J : ∀ {α : Type}, Session α → (Except Failure α → List Exchange → Prop) → Prop) : Prop where
  of : ∀ {α : Type} {result : Except Failure α} {Q : Except Failure α → List Exchange → Prop},
    Q result [] → J (of result) Q
  bind : ∀ {α β : Type} {first : Session α} {next : α → Session β}
    {R : Except Failure β → List Exchange → Prop},
    J first (fun outcome xs =>
      match outcome with
      | .error failure => R (.error failure) xs
      | .ok a => J (next a) fun outcome ys => R outcome (xs ++ ys)) → J (first >>= next) R
  dialect : ∀ {Q : Except Failure Dialect → List Exchange → Prop}, Q (.ok d) [] → J dialect Q
  execute : ∀ {f : Fragment} {Q : Except Failure Answered → List Exchange → Prop},
    (∀ failure, Q (.error failure) []) →
    (∀ reply, Q ((Exchange.mk f reply).answer d) [⟨f, reply⟩]) → J (execute f) Q

/-- A way to judge work that may insert rows, too. -/
structure JudgesInserts (d : Dialect)
    (J : ∀ {α : Type}, Session α → (Except Failure α → List Exchange → Prop) → Prop) : Prop
    extends Judges d J where
  keepLastId : ∀ {key : Value} {Q : Except Failure Unit → List Exchange → Prop},
    Q (.ok ()) [] → J (keepLastId key) Q

theorem tells_judges : JudgesInserts d (Tells d) where
  of := tells_of
  bind := Tells.bind
  dialect := tells_dialect
  execute _ holds := tells_execute holds
  keepLastId := tells_keepLastId

namespace Judges

variable {J : ∀ {α : Type}, Session α → (Except Failure α → List Exchange → Prop) → Prop}
  {α β : Type} (judges : Judges d J)

include judges

theorem of_bind {made : Except Failure α} {next : α → Session β}
    {R : Except Failure β → List Exchange → Prop}
    (fails : ∀ failure, made = .error failure → R (.error failure) [])
    (goes : ∀ a, made = .ok a → J (next a) R) : J (Session.of made >>= next) R := by
  refine judges.bind (judges.of ?_)
  cases came : made with
  | error failure => exact fails failure came
  | ok a => exact goes a came

theorem dialect_bind {next : Dialect → Session β} {R : Except Failure β → List Exchange → Prop}
    (goes : J (next d) R) : J (Session.dialect >>= next) R :=
  judges.bind (judges.dialect goes)

/-- A statement that is made, and what follows its answer. -/
theorem asking {make : Dialect → Except Failure Fragment} {next : Answered → Session β}
    {R : Except Failure β → List Exchange → Prop} (fails : ∀ failure, R (.error failure) [])
    (sends : ∀ x : Exchange, make d = .ok x.statement → ∀ failure,
      x.answer d = .error failure → R (.error failure) [x])
    (goes : ∀ x : Exchange, make d = .ok x.statement → ∀ a, x.answer d = .ok a →
      J (next a) fun outcome ys => R outcome (x :: ys)) :
    J (do let d ← Session.dialect; let f ← Session.of (make d); let a ← Session.execute f; next a)
      R := by
  refine judges.dialect_bind (judges.of_bind (fun failure _ => fails failure) fun f made => ?_)
  refine judges.bind (judges.execute fails fun reply => ?_)
  cases came : (Exchange.mk f reply).answer d with
  | error failure => exact sends ⟨f, reply⟩ made failure came
  | ok a => exact goes ⟨f, reply⟩ made a came

end Judges

/-- An insert that returns was answered. -/
theorem JudgesInserts.insert
    {J : ∀ {α : Type}, Session α → (Except Failure α → List Exchange → Prop) → Prop}
    (judges : JudgesInserts d J) {table : String} {fields : Record} {onConflict : OnConflict}
    {returning : Option String} {Q : Except Failure Int → List Exchange → Prop}
    (fails : ∀ failure, Q (.error failure) [])
    (sends : ∀ f, fields ≠ [] → insertion d table fields onConflict returning = .ok f →
      ∀ reply outcome, (∀ n, outcome = .ok n → ∃ a, (Exchange.mk f reply).answer d = .ok a) →
        Q outcome [⟨f, reply⟩]) :
    J (insert table fields onConflict returning) Q := by
  by_cases given : fields = []
  · rw [given]
    exact judges.of (fails _)
  · rw [insert_eq given]
    refine judges.dialect_bind (judges.of_bind (fun failure _ => fails failure) fun f made => ?_)
    refine judges.bind (judges.execute (fun failure => fails failure) fun reply => ?_)
    cases came : (Exchange.mk f reply).answer d with
    | error failure => exact sends f given made reply _ fun n impossible => nomatch impossible
    | ok a =>
      -- what follows the answer sends nothing more
      have sent := fun outcome => sends f given made reply outcome fun _ _ => ⟨a, came⟩
      refine judges.of_bind (fun failure _ => sent _) fun key _ => ?_
      exact judges.bind (judges.keepLastId (judges.of (sent _)))

namespace Judges

variable {J : ∀ {α : Type}, Session α → (Except Failure α → List Exchange → Prop) → Prop}
  {α β : Type} (judges : Judges d J)

include judges

theorem write {f : Fragment} {Q : Except Failure Int → List Exchange → Prop}
    (fails : ∀ failure, Q (.error failure) [])
    (holds : ∀ reply, Q ((Exchange.mk f reply).answer d >>= fun a => .ok a.count) [⟨f, reply⟩]) :
    J (write f) Q := by
  refine judges.bind (judges.execute fails fun reply => ?_)
  have told := holds reply
  cases came : (Exchange.mk f reply).answer d with
  | error failure =>
    rw [came] at told
    exact told
  | ok answer =>
    rw [came] at told
    exact judges.of told

theorem update {table : String} {fields filter : Record}
    {Q : Except Failure Int → List Exchange → Prop} (nothing : fields = [] → Q (.ok 0) [])
    (fails : ∀ failure, Q (.error failure) [])
    (sends : ∀ f, fields ≠ [] → updateSql d table fields filter = .ok f → ∀ reply,
      Q ((Exchange.mk f reply).answer d >>= fun a => .ok a.count) [⟨f, reply⟩]) :
    J (update table fields filter) Q := by
  unfold Session.update
  split
  · rename_i empty
    exact judges.of (nothing (List.isEmpty_iff.mp empty))
  · rename_i given
    have some_fields : fields ≠ [] := fun none => given (by rw [none]; rfl)
    refine judges.dialect_bind (judges.of_bind (fun failure _ => fails failure) fun f made => ?_)
    exact judges.write fails (sends f some_fields made)

theorem delete {table : String} {filter : Record}
    {Q : Except Failure Int → List Exchange → Prop} (fails : ∀ failure, Q (.error failure) [])
    (sends : ∀ f, deleteSql d table filter = .ok f → ∀ reply,
      Q ((Exchange.mk f reply).answer d >>= fun a => .ok a.count) [⟨f, reply⟩]) :
    J (delete table filter) Q :=
  judges.dialect_bind (judges.of_bind (fun failure _ => fails failure)
    fun f made => judges.write fails (sends f made))

end Judges

/-! ## Work that sends nothing -/

abbrev Silent {α : Type} : Except Failure α → List Exchange → Prop := fun _ xs => xs = []

theorem Tells.bind_none {α β : Type} {first : Session α} {next : α → Session β}
    (head : Tells d first Silent) (tail : ∀ a, Tells d (next a) Silent) :
    Tells d (first >>= next) Silent := by
  refine Tells.bind (head.mono fun outcome xs nothing => ?_)
  cases outcome with
  | error failure => exact nothing
  | ok a =>
    refine (tail a).mono fun outcome ys none => ?_
    rw [nothing, none]
    rfl

end Session

end Curator
