import Curator.Plan.Compile
import Curator.Proofs.Schema.Declared
import Curator.Proofs.Sql.Made
/-!
# A resource related to itself

Folders within folders, of which some are in the trash: a resource on which general statements can be
seen at work.
-/

set_option autoImplicit false

namespace Curator.Sample

open Sql Outcome

/-- Folders, each in a folder above it. -/
def folderDefinition : Definition where
  name := .str "folder"
  table := .str "folders"
  readable := .list [.str "id", .str "name", .str "parent_id"]
  writable := .list []
  primaryKey := .str "id"
  cursorField := .null
  required := .null
  related := .dict [("parent_id", .str "folder")]
  unique := .null
  search := .list [.str "name"]
  maxRelatedDepth := .null
  defaultLimit := .null
  maxLimit := .null
  mutators := .null
  accessors := .null
  defaults := .null
  deletedAt := .str "deleted_at"
  pruneField := .null
  upsertConflict := .null
  hooks := .dict []
  omitted := .null

def folderSchema : Schema where
  name := .str "folder"
  table := "folders"
  primaryKey := "id"
  cursorField := "id"
  readable := ["id", "name", "parent_id"]
  writable := []
  required := []
  related := [("parent_id", "folder")]
  unique := []
  search := ["name"]
  maxRelatedDepth := none
  defaultLimit := none
  maxLimit := none
  mutators := []
  accessors := []
  defaults := []
  deletedAt := some (.str "deleted_at")
  pruneField := none
  upsertConflict := ["id"]
  hooks := []
  omitted := []

theorem folder_declared : folderSchema.Declared := ⟨folderDefinition, by rfl⟩

/-- A registry that holds folders and nothing else. -/
def folderRegistry : Registry := ⟨.standard, [⟨folderSchema, none⟩]⟩

theorem folderRegistry_declared : folderRegistry.Declared := by
  intro registration member
  rw [List.mem_singleton.mp member]
  exact folder_declared

/-- The engine's own settings over this registry. -/
def folderSetting : Plan.Setting := ⟨folderRegistry, .standard, default⟩

/-- The names of folders and of those above them, filtered, searched and ordered. -/
def folderRequest : Spec :=
  { Spec.all with
    fields := ["name", "parent_id.name"]
    filter := .dict [("OR", .list [.dict [("name", .dict [("eq", .str "a")])],
      .dict [("parent_id", .dict [("isNull", .bool true)])]])]
    search := "x"
    sort := ["-name"] }

/-- The statement that fetches the rows of a request for folders. -/
def folderSql (request : Spec) (d : Dialect) : Except Failure Fragment := do
  let plan ← Plan.compile folderSetting folderSchema request .exclude false []
  plan.fetchSql d

theorem folderSql_ok {request : Spec} {d : Dialect} {f : Fragment}
    (ok : folderSql request d = .ok f) : ∃ plan s,
      Plan.compile folderSetting folderSchema request .exclude false [] = .ok plan ∧
      plan.fetchSql d = .ok f ∧ plan.selection d true = .ok s ∧ s.toSql = .ok f := by
  obtain ⟨plan, plan_ok, f_ok⟩ := bind_ok ok
  obtain ⟨s, s_ok, text⟩ := Plan.fetchSql_ok f_ok
  exact ⟨plan, s, plan_ok, f_ok, s_ok, text⟩

end Curator.Sample
