import Curator.Model.Perform
import Curator.Proofs.Database.Exchange
import Curator.Proofs.Schema.Declared
/-!
# Pages

Pages under other pages, each with a slug of its own: a resource on which statements about writes can
be seen at work.
-/

set_option autoImplicit false

namespace Curator.Sample

def pageDefinition : Definition where
  name := .str "page"
  table := .str "pages"
  readable := .list [.str "id", .str "slug", .str "parent_id"]
  writable := .dict [("slug", .str "string"), ("parent_id", .str "integer")]
  primaryKey := .str "id"
  cursorField := .null
  required := .list [.str "slug"]
  related := .dict [("parent_id", .str "page")]
  unique := .list [.str "slug"]
  search := .null
  maxRelatedDepth := .null
  defaultLimit := .null
  maxLimit := .null
  mutators := .dict [("slug", .str "slug")]
  accessors := .null
  defaults := .null
  deletedAt := .null
  pruneField := .null
  upsertConflict := .list [.str "slug"]
  hooks := .dict [("begin", .list [.str "touch_home"])]
  omitted := .null

def pageSchema : Schema where
  name := .str "page"
  table := "pages"
  primaryKey := "id"
  cursorField := "id"
  readable := ["id", "slug", "parent_id"]
  writable := [("slug", .ofType .string), ("parent_id", .ofType .integer)]
  required := ["slug"]
  related := [("parent_id", "page")]
  unique := [.single "slug"]
  search := []
  maxRelatedDepth := none
  defaultLimit := none
  maxLimit := none
  mutators := [("slug", .str "slug")]
  accessors := []
  defaults := []
  deletedAt := none
  pruneField := none
  upsertConflict := ["slug"]
  hooks := [("begin", [.str "touch_home"])]
  omitted := []

theorem page_declared : pageSchema.Declared := ⟨pageDefinition, by rfl⟩

/-- An engine that knows pages, with some hooks. -/
def pageEngine (hooks : HookTable) : Engine :=
  ⟨⟨.standard, [⟨pageSchema, none⟩]⟩, hooks, default⟩

/-- The model of pages, whose hooks perform steps on it. -/
def pageModel (hooks : HookTable) : Model :=
  let engine := pageEngine hooks
  let kind : ModelKind := ⟨"ResourceModel", ⟨false, false, none⟩⟩
  let bare : Model := ⟨engine, pageSchema, kind, fun _ => Session.fail Session.endless⟩
  { bare with perform := engine.performWithin Session.greatestDepth bare }

example (hooks : HookTable) : (pageEngine hooks).modelOf "page" = .ok (pageModel hooks) := rfl

/-- An open connection to a database that gives some replies, and an idle model. -/
def pageState (replies : List Reply) : SessionState :=
  ⟨.opened .sqlite ":memory:" replies, .empty, .idle⟩

/-- The answer to a count. -/
def countReply (n : Int) : Reply := .answered ⟨[[("aggregate", .int n)]], 0, .null⟩

/-- The answer to a selection of rows. -/
def rowsReply (rows : List Record) : Reply := .answered ⟨rows, 0, .null⟩

/-- The answer to a write of one row. -/
def writtenReply (key : Int) : Reply := .answered ⟨[], 1, .int key⟩

/-! ## Known statements -/

/-- A text or an integer, which unlike other values are compared by computation. -/
def scalar? : Value → Option (String ⊕ Int)
  | .str s => some (.inl s)
  | .int n => some (.inr n)
  | _ => none

def valueOf : String ⊕ Int → Value
  | .inl s => .str s
  | .inr n => .int n

theorem values_known {values : List Value} {scalars : List (String ⊕ Int)}
    (same : values.map scalar? = scalars.map some) : values = scalars.map valueOf := by
  induction values generalizing scalars with
  | nil =>
    cases scalars with
    | nil => rfl
    | cons first rest => cases same
  | cons value others ih =>
    cases scalars with
    | nil => cases same
    | cons first rest =>
      obtain ⟨head, tail⟩ := List.cons.inj same
      have this : value = valueOf first := by
        cases value <;> cases head <;> rfl
      rw [this, ih tail]
      rfl

/-- Statements whose parameters are texts and integers are known by these and their own texts. -/
theorem statements_known {fs : List Sql.Fragment} (known : List (String × List (String ⊕ Int)))
    (same : fs.map (fun f => (f.sql, f.params.map scalar?)) =
      known.map fun k => (k.1, k.2.map some)) :
    fs = known.map fun k => ⟨k.1, k.2.map valueOf⟩ := by
  induction fs generalizing known with
  | nil =>
    cases known with
    | nil => rfl
    | cons first rest => cases same
  | cons f others ih =>
    cases known with
    | nil => cases same
    | cons first rest =>
      obtain ⟨head, tail⟩ := List.cons.inj same
      obtain ⟨text, params⟩ := Prod.mk.inj head
      have this : f = ⟨first.1, first.2.map valueOf⟩ := by
        rw [← text, ← values_known params]
      rw [this, ih rest tail]
      rfl

end Curator.Sample
