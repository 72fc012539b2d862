import Curator.Proofs.Outcome
import Curator.Proofs.Sql.Layout
import Curator.Sql.Select
/-!
# Conditions with other predicates

Conditions and selections whose predicates are rewritten one by one.  Where the rewriting agrees with
how predicates are joined and put in parentheses, the text of the rewritten conditions is the
rewritten text.
-/

set_option autoImplicit false

namespace Curator.Sql

/-- A rewriting of fragments that can be done before they are put together or afterwards. -/
structure Fragment.Rewriting (f : Fragment → Fragment) : Prop where
  empty : f ⟨"", []⟩ = ⟨"", []⟩
  blank : ∀ g : Fragment, (f g).sql.isEmpty = g.sql.isEmpty
  joined : ∀ (before next : Fragment) (connector : Connector),
    f (before.joined connector next) = (f before).joined connector (f next)
  wrapped : ∀ g : Fragment,
    f ⟨"(" ++ g.sql ++ ")", g.params⟩ = ⟨"(" ++ (f g).sql ++ ")", (f g).params⟩

namespace Condition

variable (f : Fragment → Fragment)

mutual

/-- A condition with its predicates rewritten. -/
def rewritten : Condition → Condition
  | .predicate connector fragment => .predicate connector (f fragment)
  | .group connector children => .group connector (rewrittenRow children)

def rewrittenRow : List Condition → List Condition
  | [] => []
  | first :: rest => first.rewritten :: rewrittenRow rest

end

theorem rewrittenRow_append (first second : List Condition) :
    rewrittenRow f (first ++ second) = rewrittenRow f first ++ rewrittenRow f second := by
  induction first with
  | nil => rfl
  | cons c rest ih => rw [List.cons_append, rewrittenRow, rewrittenRow, ih, List.cons_append]

theorem rewritten_connector (c : Condition) : (c.rewritten f).connector = c.connector := by
  cases c <;> rfl

variable {f}

/-- The text of rewritten conditions is their rewritten text. -/
theorem render_rewritten (rewriting : Fragment.Rewriting f) :
    (∀ c : Condition, (c.rewritten f).render = f c.render) ∧
    ∀ cs : List Condition, ∀ before : Fragment,
      renderAll (f before) (rewrittenRow f cs) = f (renderAll before cs) := by
  refine nested_induction ?predicate ?group ?nil ?cons
  case predicate =>
    intro connector fragment
    rfl
  case group =>
    intro connector children row
    have inner := row ⟨"", []⟩
    rw [rewriting.empty] at inner
    rw [rewritten, render, render, inner, rewriting.blank]
    split
    · rfl
    · exact (rewriting.wrapped _).symm
  case nil =>
    intro before
    rfl
  case cons =>
    intro first rest head tail before
    rw [rewrittenRow, renderAll_cons, renderAll_cons, rewritten_connector, head, ← rewriting.joined]
    exact tail _

theorem renderRoot_rewritten (rewriting : Fragment.Rewriting f) (cs : List Condition) :
    renderRoot (rewrittenRow f cs) = f (renderRoot cs) := by
  have whole := (render_rewritten rewriting).2 cs ⟨"", []⟩
  rw [rewriting.empty] at whole
  exact whole

end Condition

def OpenGroup.rewritten (f : Fragment → Fragment) (g : OpenGroup) : OpenGroup :=
  ⟨g.connector, Condition.rewrittenRow f g.children⟩

namespace Select

variable (f : Fragment → Fragment)

/-- A selection with the predicates of its conditions rewritten. -/
def rewritten (s : Select) : Select :=
  { s with
    root := Condition.rewrittenRow f s.root
    openGroups := s.openGroups.map (OpenGroup.rewritten f) }

theorem rewritten_add (s : Select) (c : Condition) :
    (s.add c).rewritten f = (s.rewritten f).add (c.rewritten f) := by
  unfold add
  cases opened : s.openGroups with
  | nil => simp [rewritten, opened, Condition.rewrittenRow_append, Condition.rewrittenRow]
  | cons innermost outer =>
    simp [rewritten, opened, OpenGroup.rewritten, Condition.rewrittenRow_append,
      Condition.rewrittenRow]

theorem rewritten_endGroup (s : Select) :
    (s.rewritten f).endGroup = s.endGroup.map (rewritten f) := by
  cases opened : s.openGroups with
  | nil => simp [endGroup, rewritten, opened, Except.map]
  | cons innermost outer =>
    have closed := rewritten_add f { s with openGroups := outer }
      (.group innermost.connector innermost.children)
    simp only [endGroup, opened, Except.map, closed]
    simp [rewritten, opened, OpenGroup.rewritten, Condition.rewritten]

end Select

/-!
## Statements without their parameters

The text of a statement does not depend on its parameters: a selection whose conditions have lost
theirs renders to the same texts.  So two selections that differ in parameters only, condition by
condition, have the same statements but for the parameters.
-/

open Outcome

/-! ### Conditions -/

def Fragment.bare (f : Fragment) : Fragment := ⟨f.sql, []⟩

theorem Fragment.bare_rewriting : Fragment.Rewriting Fragment.bare where
  empty := rfl
  blank := fun _ => rfl
  joined := by
    intro before next connector
    unfold Fragment.joined
    unfold Fragment.bare
    cases next.sql.isEmpty with
    | true => rfl
    | false =>
      cases before.sql.isEmpty with
      | true => rfl
      | false => rfl
  wrapped := fun _ => rfl

/-! ### Selections -/

namespace Select

/-- A selection whose conditions have no parameters. -/
def bare (s : Select) : Select := s.rewritten Fragment.bare

theorem bare_add (s : Select) (c : Condition) :
    (s.add c).bare = s.bare.add (c.rewritten Fragment.bare) := rewritten_add Fragment.bare s c

theorem bare_column {s t : Select} {column : Column} {label : Option String}
    (ok : s.column column label = .ok t) : s.bare.column column label = .ok t.bare := by
  obtain ⟨expr, rendered, ok⟩ := bind_ok ok
  have same : column.render s.bare.dialect = .ok expr := rendered
  rw [Select.column, same, ok_bind]
  cases label with
  | none =>
    cases pure_ok ok
    rfl
  | some label =>
    obtain ⟨text, quotes, ok⟩ := bind_ok ok
    cases pure_ok ok
    simp only [quotes, ok_bind]
    rfl

theorem bare_startGroup (s : Select) (connector : Connector) :
    (s.startGroup connector).bare = s.bare.startGroup connector := rfl

theorem bare_endGroup {s t : Select} (ok : s.endGroup = .ok t) : s.bare.endGroup = .ok t.bare := by
  rw [bare, rewritten_endGroup, ok]
  rfl

theorem bare_groupBy (s : Select) (columns : List Column) :
    (s.groupBy columns).1.bare = (s.bare.groupBy columns).1 := rfl

theorem bare_orderBy (s : Select) (fields : List String) :
    (s.orderBy fields).1.bare = (s.bare.orderBy fields).1 := rfl

theorem bare_fromClause {s : Select} {source : Fragment} {conditional : Bool}
    (ok : s.fromClause = .ok (source, conditional)) :
    s.bare.fromClause = .ok (source.bare, conditional) := by
  unfold fromClause at ok
  split at ok
  · cases ok
  · cases ok
  · rename_i table named closed
    cases ok
    simp [fromClause, bare, rewritten, named, closed,
      Condition.renderRoot_rewritten Fragment.bare_rewriting,
      Fragment.bare]

theorem bare_toSql {s : Select} {f : Fragment} (ok : s.toSql = .ok f) :
    s.bare.toSql = .ok f.bare := by
  obtain ⟨⟨source, conditional⟩, source_ok, ok⟩ := bind_ok ok
  obtain ⟨limit, limit_ok, ok⟩ := bind_ok ok
  obtain ⟨offset, offset_ok, ok⟩ := bind_ok ok
  cases pure_ok ok
  have bareLimit : s.bare.limitClause = .ok limit := limit_ok
  have bareOffset : s.bare.offsetClause = .ok offset := offset_ok
  rw [toSql, bare_fromClause source_ok, bareLimit, bareOffset]
  rfl

theorem bare_aggregateSql {s : Select} {function : Value} {column : Option Column} {f : Fragment}
    (ok : s.aggregateSql function column = .ok f) :
    s.bare.aggregateSql function column = .ok f.bare := by
  obtain ⟨aggregate, aggregate_ok, ok⟩ := bind_ok ok
  obtain ⟨⟨source, conditional⟩, source_ok, ok⟩ := bind_ok ok
  rw [aggregateSql, aggregate_ok, bare_fromClause source_ok]
  cases column with
  | none =>
    simp only [ok_bind] at ok ⊢
    split at ok
    · rename_i ungrouped
      cases pure_ok ok
      exact if_pos ungrouped
    · rename_i grouped
      cases pure_ok ok
      exact if_neg grouped
  | some column =>
    obtain ⟨expr, expr_ok, ok⟩ := bind_ok ok
    cases pure_ok ok
    have bareExpr : column.render s.bare.dialect = .ok expr := expr_ok
    simp only [ok_bind, bareExpr]
    rfl

/-- Selections that differ in parameters only have the same text. -/
theorem toSql_of_bare {s t : Select} {f g : Fragment} (same : s.bare = t.bare)
    (first : s.toSql = .ok f) (second : t.toSql = .ok g) : f.sql = g.sql := by
  have rendered := bare_toSql first
  rw [same, bare_toSql second] at rendered
  exact (congrArg Fragment.sql (Except.ok.inj rendered)).symm

theorem aggregateSql_of_bare {s t : Select} {function : Value} {column : Option Column}
    {f g : Fragment} (same : s.bare = t.bare) (first : s.aggregateSql function column = .ok f)
    (second : t.aggregateSql function column = .ok g) : f.sql = g.sql := by
  have rendered := bare_aggregateSql first
  rw [same, bare_aggregateSql second] at rendered
  exact (congrArg Fragment.sql (Except.ok.inj rendered)).symm

end Select

end Curator.Sql
