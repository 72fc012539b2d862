import Curator.Proofs.Database.Table
import Curator.Proofs.Database.Truthful
import Curator.Proofs.Event.Announced
import Curator.Proofs.Lifecycle.Visibility
import Curator.Proofs.Model.Notifications
import Curator.Proofs.Model.Phases
import Curator.Proofs.Registry.Tables
import Curator.Proofs.Schema.Sample
/-!
# Capabilities follow schemas

The class that serves a resource trashes rows or deletes them as its schema says, whatever classes were
given with schemas and whatever was refused before.  Neither deleting a row nor pruning does what the
other kind of resource does.
-/

set_option autoImplicit false

namespace Curator

open Sql Outcome Session

/-! ## Statements that delete -/

def Sql.Fragment.Deletes (f : Fragment) : Prop := ∃ rest, f.sql = "DELETE " ++ rest

namespace Sql.Fragment

variable {f : Fragment}

theorem Selects.not_deletes (selects : f.Selects) : ¬ f.Deletes := by
  obtain ⟨rest, text⟩ := selects
  rintro ⟨more, deletes⟩
  have opening : "SELECT " = "SELECT" ++ " " := rfl
  have other : "DELETE " = "DELETE" ++ " " := rfl
  rw [opening, String.append_assoc] at text
  rw [other, String.append_assoc] at deletes
  exact begun_apart text deletes (by decide) (by decide)

theorem Updates.not_deletes (updates : f.Updates) : ¬ f.Deletes := by
  obtain ⟨rest, text⟩ := updates
  rintro ⟨more, deletes⟩
  exact begun_apart text deletes (by decide) (by decide)

theorem Updates.not_selects (updates : f.Updates) : ¬ f.Selects := by
  obtain ⟨rest, text⟩ := updates
  rintro ⟨more, selects⟩
  exact begun_apart text selects (by decide) (by decide)

theorem deletes_of_deleteSql {d : Dialect} {table column : String} {key : Value}
    (made : deleteSql d table [(column, key)] = .ok f) : f.Deletes := by
  rw [deleteSql_one made]
  refine ⟨"FROM " ++ quoted table ++ " WHERE " ++ (keyTest d column key).sql, ?_⟩
  simp only [← String.append_assoc]
  rfl

end Sql.Fragment

/-! ## Deeds of removals -/

/-- A deed of removing rows on a resource that trashes them, or on one that deletes them. -/
def Deed.Disposing (trashing : Bool) : Deed → Prop
  | sent x => if trashing then ¬ x.statement.Deletes else ¬ x.statement.Updates
  | emitted news =>
    if trashing then news.event ≠ "resource.delete" else news.event ≠ "resource.trash"
  | _ => True

theorem Deed.Calm.disposing {deed : Deed} (calm : deed.Calm) (trashing : Bool) :
    deed.Disposing trashing := by
  cases deed with
  | sent x =>
    cases trashing with
    | true => exact Fragment.Selects.not_deletes calm
    | false => exact fun updates => updates.not_selects calm
  | emitted news => exact calm.elim
  | notified point record previous returned => trivial
  | said entry => trivial

/-- A call that removes rows as the resource does it. -/
def Call.Disposes : Call → Prop
  | .delete _ | .prune _ => True
  | _ => False

namespace Model

variable {m : Model} {d : Dialect} (quiet : m.Quiet)

include quiet

theorem acts_trashRow_disposing (resource : Resource) :
    Acts m d (m.trashRow resource) (Only (Deed.Disposing true)) := by
  have closed := acts_closed (m := m) (d := d) (P := Deed.Disposing true) fun _ => trivial
  refine closed.bind (closed.of _) fun now => closed.bind (acts_update_only fun x made => ?_) fun n => ?_
  · exact (updateSql_updates made).not_deletes
  · split
    · exact closed.pure _
    · refine (acts_farewell quiet _ (.trashed resource) rfl).mono fun _ _ concludes => ?_
      exact concludes.only (fun _ calm => calm.disposing true) (by simp [Deed.Disposing, News.event])

theorem acts_removeRow_disposing (resource : Resource) :
    Acts m d (m.removeRow resource) (Only (Deed.Disposing false)) := by
  have closed := acts_closed (m := m) (d := d) (P := Deed.Disposing false) fun _ => trivial
  refine closed.bind (acts_delete_only fun x made => ?_) fun n => ?_
  · exact fun updates => updates.not_deletes (Fragment.deletes_of_deleteSql made)
  · split
    · exact closed.pure _
    · refine (acts_farewell quiet _ (.deleted resource) rfl).mono fun _ _ concludes => ?_
      exact concludes.only (fun _ calm => calm.disposing false) (by simp [Deed.Disposing, News.event])

theorem acts_destroyRow_disposing (resource : Resource) :
    Acts m d (m.destroyRow resource) (Only (Deed.Disposing m.kind.capabilities.softDeletes)) := by
  unfold destroyRow
  cases m.kind.capabilities.softDeletes with
  | true => exact acts_trashRow_disposing quiet resource
  | false => exact acts_removeRow_disposing quiet resource

theorem acts_delete_disposing (key : Value) :
    Acts m d (m.delete key) (Only (Deed.Disposing m.kind.capabilities.softDeletes)) := by
  have absorbs := only_absorbs fun _ calm => calm.disposing m.kind.capabilities.softDeletes
  exact absorbs.acts_tracked quiet (acts_removing quiet absorbs
    (calmly.visibleResource quiet.steps key) (acts_destroyRow_disposing quiet))

/-- A run of deleting or pruning does only deeds of the kind that the model's capability says. -/
theorem acts_disposing (questions : List CollectionCall) {c : Call} (disposes : c.Disposes) :
    Acts m d (m.call questions c) (Only (Deed.Disposing m.kind.capabilities.softDeletes)) := by
  have absorbs := only_absorbs fun _ calm => calm.disposing m.kind.capabilities.softDeletes
  cases c with
  | delete key => exact Acts.map (acts_delete_disposing quiet key)
  | prune before =>
    simp only [call, requires]
    split
    · exact Acts.map (acts_clearing quiet absorbs (fun first second =>
        List.forall_mem_append.mpr ⟨first, second⟩) _ (calmly.keysBefore m _ before)
        (acts_delete_disposing quiet))
    · exact acts_fail (List.forall_mem_nil _)
  | _ => exact disposes.elim

end Model

/-- The model of a resource has its schema and is of the kind that the registry tells. -/
theorem Engine.model_parts {engine : Engine} {name : String}
    {perform : Model → Step → Session Answer} {m : Model}
    (ok : engine.model name perform = .ok m) :
    engine.registry.schema name = .ok m.schema ∧ engine.registry.modelKind name = .ok m.kind := by
  obtain ⟨schema, known, ok⟩ := bind_ok ok
  obtain ⟨kind, served, ok⟩ := bind_ok ok
  cases pure_ok ok
  exact ⟨known, served⟩

/-- Capabilities follow schemas.  After any calls on the tables of a registry, accepted or refused and
with classes that mix in whatever capabilities, a registration has the outcome it has on the registry
and leaves the tables as they were if it is refused.  The class that serves a registered resource has
the capabilities which its schema switches on, and no other of these, and its removal is the one that
the schema asks for.  So neither deleting nor pruning, whose hooks ask for no operations, deletes a row
or tells of that on a resource that trashes rows, and on any other they change no row and tell of none
that was trashed. -/
theorem Tables.capabilities_follow_schemas {settings : Settings} {t : Tables} {r : Registry}
    (reached : Tables.Reached settings t r) :
    (∀ schema given,
      (t.after (register schema given)).1 =
          (r.register schema (given.map GivenClass.described)).map (fun _ => ()) ∧
        ∀ failure, (t.after (register schema given)).1 = .error failure →
          (t.after (register schema given)).2 = t) ∧
    ∀ name schema, t.schemas.get? (.str name) = some schema →
      ∃ c, (t.after (modelClass name)).1 = .ok c ∧ r.modelKind name = .ok c.kind ∧
        (c.mixes .softDeletes = true ↔ schema.deletedAt.isSome) ∧
        (c.mixes .prunable = true ↔ schema.pruneField.isSome) ∧
        c.removal? = some (if schema.deletedAt.isSome then .trashing else .deleting) ∧
        ∀ (engine : Engine) perform m questions (call : Call) s, engine.registry = r →
          engine.model name perform = .ok m → m.Quiet → call.Disposes →
            let ran := m.call questions call s
            ∃ deeds, m.Did s deeds ran.entries ran.state ∧
              (∀ entry ∈ ran.entries, entry.OfEmission → ∃ news, .emitted news ∈ deeds) ∧
              (schema.deletedAt.isSome → (∀ f ∈ statements ran.entries, ¬ f.Deletes) ∧
                ∀ news, .emitted news ∈ deeds → news.event ≠ "resource.delete") ∧
              (¬ schema.deletedAt.isSome → (∀ f ∈ statements ran.entries, ¬ f.Updates) ∧
                ∀ news, .emitted news ∈ deeds → news.event ≠ "resource.trash") := by
  have hold := reached.hold
  refine ⟨fun schema given => ⟨(hold.register schema given).1, fun _ => after_refused⟩, ?_⟩
  intro name schema known
  rw [hold.get?_schemas] at known
  obtain ⟨g, registered, rfl⟩ := Option.map_eq_some_iff.mp known
  obtain ⟨soft, old, removal, kind⟩ := hold.served registered
  refine ⟨t.fresh name g.schema, hold.modelClass registered, kind, Bool.eq_iff_iff.mp soft,
    Bool.eq_iff_iff.mp old, removal, ?_⟩
  intro engine perform m questions call s same made quiet disposes ran
  obtain ⟨_, served⟩ := Engine.model_parts made
  rw [same, kind] at served
  have trashing : m.kind.capabilities.softDeletes = g.schema.deletedAt.isSome := by
    rw [← Except.ok.inj served]
    exact soft
  obtain ⟨_, deeds, did, all⟩ :=
    Model.acts_disposing (d := s.database.dialect) quiet questions disposes s rfl
  rw [trashing] at all
  have sends : ∀ f ∈ statements ran.entries, ∃ x, .sent x ∈ deeds ∧ x.statement = f :=
    fun f member => did.sends quiet member
  refine ⟨deeds, did, fun entry member => did.emits quiet member, fun softly => ?_, fun firmly => ?_⟩
  · rw [softly] at all
    refine ⟨fun f member => ?_, fun news emitted => all _ emitted⟩
    obtain ⟨x, inside, rfl⟩ := sends f member
    exact all _ inside
  · rw [Bool.eq_false_iff.mpr firmly] at all
    refine ⟨fun f member => ?_, fun news emitted => all _ emitted⟩
    obtain ⟨x, inside, rfl⟩ := sends f member
    exact all _ inside

namespace Sample

/-- Folders were refused with a class that prunes, and then registered by themselves. -/
def folderTables : Tables :=
  let refused := (Tables.empty.after (Tables.register folderSchema (some (.model [.prunable] "")))).2
  (refused.after (Tables.register folderSchema none)).2

theorem folders_reached : Tables.Reached .standard folderTables folderRegistry :=
  .register folderSchema none (.register folderSchema (some (.model [.prunable] "")) .start)

def folderEngine : Engine := ⟨folderRegistry, [], default⟩

/-- A folder is read and then removed. -/
def folderDeletion : Ran Answer :=
  folderModel.call [] (.delete (.int 1)) (pageState
    [rowsReply [[("id", .int 1), ("name", .str "a"), ("parent_id", .null)]], writtenReply 1])

/-- Removing a folder is two statements, of which none deletes. -/
theorem folders_trashed : ∃ c, (folderTables.after (Tables.modelClass "folder")).1 = .ok c ∧
    c.removal? = some .trashing ∧ (statements folderDeletion.entries).length = 2 ∧
    ∀ f ∈ statements folderDeletion.entries, ¬ f.Deletes := by
  obtain ⟨_, served⟩ := Tables.capabilities_follow_schemas folders_reached
  obtain ⟨c, asked, _, _, _, removal, runs⟩ := served "folder" folderSchema rfl
  obtain ⟨_, _, _, softly, _⟩ := runs folderEngine (fun _ => folderModel.perform) folderModel []
    (.delete (.int 1)) (pageState _) rfl rfl folder_quiet trivial
  exact ⟨c, asked, removal, by decide +kernel, (softly rfl).1⟩

end Sample

end Curator
