import Curator.Plan.Basic
import Curator.Proofs.Sql.Filled
/-!
# Selections as they are made

The selections that the clauses of a statement lead to, in whatever order they are added: each of
their conditions is a rendered test of a column, and nothing else of them has a placeholder.
-/

set_option autoImplicit false

namespace Curator.Sql

open Outcome

/-- A fragment that an operator made of a column and an operand. -/
def Fragment.IsTest (d : Dialect) (f : Fragment) : Prop :=
  ∃ (column : Column) (operator : Operator) (operand : Value) (expr : String),
    column.render d = .ok expr ∧ operator.render expr operand d.placeholder = .ok f

namespace Select

/-- The selections that can be made, clause by clause. -/
inductive Made : Select → Prop where
  | new (d : Dialect) : Made (new d)
  | from_ {s t : Select} {table : String} (made : Made s) (ok : s.from_ table = .ok t) : Made t
  | column {s t : Select} {column : Column} {label : Option String} (made : Made s)
      (ok : s.column column label = .ok t) : Made t
  | leftJoin {s t : Select} {table : String} {left right : Column} {label : Option String}
      (made : Made s) (ok : s.leftJoin table left right label = .ok t) : Made t
  | whereNamed {s t : Select} {connector : Connector} {column : Column} {operator operand : Value}
      (made : Made s) (ok : s.whereNamed connector column operator operand = .ok t) : Made t
  | where_ {s t : Select} {connector : Connector} {column : Column} {operator : Operator}
      {operand : Value} (made : Made s) (ok : s.where_ connector column operator operand = .ok t) :
      Made t
  | startGroup {s : Select} (connector : Connector) (made : Made s) : Made (s.startGroup connector)
  | endGroup {s t : Select} (made : Made s) (ok : s.endGroup = .ok t) : Made t
  | orderBy {s : Select} (fields : List String) (made : Made s) : Made (s.orderBy fields).1
  | groupBy {s : Select} (columns : List Column) (made : Made s) : Made (s.groupBy columns).1
  | limit {s : Select} (limit : Option Int) (made : Made s) : Made { s with limit := limit }
  | offset {s : Select} (offset : Option Int) (made : Made s) : Made { s with offset := offset }

/-- Every clause makes a selection from one that is made, also where the clause is refused. -/
theorem Made.give {s : Select} (made : s.Made) (clause : Clause) : (s.give clause).1.Made := by
  have taken : ∀ {r : Except Failure Select}, (∀ t, r = .ok t → t.Made) → (s.takenOr r).1.Made := by
    intro r all
    cases r with
    | ok t => exact all t rfl
    | error failure => exact made
  have mapped : ∀ {β : Type} {r : Except Failure β} {f : β → Select}, (∀ b, (f b).Made) →
      ∀ t, r.map f = .ok t → t.Made := by
    intro β r f all t ok
    cases r with
    | ok b =>
      cases ok
      exact all b
    | error failure => cases ok
  cases clause with
  | table name => exact taken fun _ ok => .from_ made ok
  | column column label => exact taken fun _ ok => .column made ok
  | leftJoin table left right label => exact taken fun _ ok => .leftJoin made ok
  | test connector column operator operand => exact taken fun _ ok => .whereNamed made ok
  | opening connector => exact taken (mapped fun c => .startGroup c made)
  | closing => exact taken fun _ ok => .endGroup made ok
  | orderBy fields => exact .orderBy fields made
  | groupBy columns => exact .groupBy columns made
  | limit value => exact taken (mapped fun limit => .limit limit made)
  | offset value => exact taken (mapped fun offset => .offset offset made)

/-! ## What they are made of -/

/-- A selection whose conditions are tests, and whose other texts have no placeholder. -/
structure Sound (s : Select) : Prop where
  table : ∀ text, s.table = some text → s.dialect.Clear text.toList
  columns : ∀ text ∈ s.columns, s.dialect.Clear text.toList
  joins : ∀ text ∈ s.joins, s.dialect.Clear text.toList
  order : ∀ text ∈ s.order, s.dialect.Clear text.toList
  groups : ∀ text ∈ s.groups, s.dialect.Clear text.toList
  root : Condition.EveryRow (·.IsTest s.dialect) s.root
  openGroups : ∀ g ∈ s.openGroups, Condition.EveryRow (·.IsTest s.dialect) g.children

end Select

namespace Dialect

variable {d : Dialect}

theorem clear_append {first second : String} (before : d.Clear first.toList)
    (after : d.Clear second.toList) : d.Clear (first ++ second).toList := by
  rw [String.toList_append]
  exact before.append after

theorem clear_quoted {name : String} (valid : Text.isIdentifier name = true) :
    d.Clear (quoted name).toList :=
  clear_expression (isExpression_quoted (isExpression_identifier valid))

theorem clear_quoteAlias {name text : String} (ok : quoteAlias name = .ok text) :
    d.Clear text.toList := by
  obtain ⟨valid, rfl⟩ := quoteAlias_ok ok
  refine clear_expression (isExpression_quoted fun c member => ?_)
  rcases Text.isLabelChar_of_isAlias valid member with key | rfl | rfl | rfl
  · exact Or.inl key
  · decide
  · decide
  · decide

theorem clear_join {mark : String} {parts : List String} (clear : d.Clear mark.toList)
    (all : ∀ part ∈ parts, d.Clear part.toList) : d.Clear (Text.join mark parts).toList := by
  intro member
  rcases Text.mem_join member with member | ⟨part, inside, member⟩
  · exact clear member
  · exact all part inside member

end Dialect

namespace Select

variable {s t : Select}

theorem mem_append_singleton {α : Type} {P : α → Prop} {xs : List α} {x : α}
    (all : ∀ y ∈ xs, P y) (last : P x) : ∀ y ∈ xs ++ [x], P y := by
  intro y member
  rcases List.mem_append.mp member with member | member
  · exact all y member
  · rw [List.mem_singleton.mp member]
    exact last

theorem Sound.add (sound : s.Sound) {c : Condition} (tests : c.Every (·.IsTest s.dialect)) :
    (s.add c).Sound := by
  unfold Select.add
  split
  · exact { sound with root := Condition.everyRow_append sound.root ⟨tests, trivial⟩ }
  · rename_i innermost outer opened
    have groups := sound.openGroups
    rw [opened] at groups
    refine { sound with openGroups := fun g member => ?_ }
    rcases List.mem_cons.mp member with rfl | member
    · exact Condition.everyRow_append (groups innermost List.mem_cons_self) ⟨tests, trivial⟩
    · exact groups g (List.mem_cons_of_mem _ member)

theorem add_dialect (c : Condition) : (s.add c).dialect = s.dialect := by
  unfold Select.add
  split <;> rfl

theorem from_dialect {table : String} (ok : s.from_ table = .ok t) : t.dialect = s.dialect := by
  obtain ⟨_, _, ok⟩ := bind_ok ok
  cases pure_ok ok
  rfl

theorem where_dialect {connector : Connector} {column : Column} {operator : Operator}
    {operand : Value} (ok : s.where_ connector column operator operand = .ok t) :
    t.dialect = s.dialect := by
  obtain ⟨_, _, ok⟩ := bind_ok ok
  obtain ⟨_, _, ok⟩ := bind_ok ok
  cases pure_ok ok
  exact add_dialect _

theorem endGroup_dialect (ok : s.endGroup = .ok t) : t.dialect = s.dialect := by
  unfold Select.endGroup at ok
  split at ok
  · cases ok
  · cases ok
    exact add_dialect _

theorem Sound.from_ (sound : s.Sound) {table : String} (ok : s.from_ table = .ok t) : t.Sound := by
  obtain ⟨_, quotes, ok⟩ := bind_ok ok
  obtain ⟨valid, rfl⟩ := quote_ok quotes
  cases pure_ok ok
  refine { sound with table := fun text same => ?_ }
  cases same
  exact Dialect.clear_quoted valid

theorem Sound.column (sound : s.Sound) {column : Column} {label : Option String}
    (ok : s.column column label = .ok t) : t.Sound := by
  obtain ⟨expr, expr_ok, ok⟩ := bind_ok ok
  have clear := Dialect.clear_render expr_ok
  cases label with
  | none =>
    cases pure_ok ok
    exact { sound with columns := mem_append_singleton sound.columns clear }
  | some label =>
    obtain ⟨label, label_ok, ok⟩ := bind_ok ok
    cases pure_ok ok
    have named : s.dialect.Clear (expr ++ " AS " ++ label).toList :=
      Dialect.clear_append (Dialect.clear_append clear (Dialect.clear_text (by decide)))
        (Dialect.clear_quoteAlias label_ok)
    exact { sound with columns := mem_append_singleton sound.columns named }

/-- A join names its table, with an alias where that is another name. -/
theorem leftJoin_ok {table : String} {left right : Column} {label : Option String}
    (ok : s.leftJoin table left right label = .ok t) :
    ∃ target leftExpr rightExpr, Text.isIdentifier table = true ∧
      (target = quoted table ∨ ∃ name, label = some name ∧ Text.isIdentifier name = true ∧
        target = quoted table ++ " AS " ++ quoted name) ∧
      left.render s.dialect = .ok leftExpr ∧ right.render s.dialect = .ok rightExpr ∧
      t = { s with
        joins := s.joins ++ ["LEFT JOIN " ++ target ++ " ON " ++ leftExpr ++ " = " ++ rightExpr] } := by
  obtain ⟨_, quotes, ok⟩ := bind_ok ok
  obtain ⟨valid, rfl⟩ := quote_ok quotes
  have joined : ∀ {target : String}, (do
      let left ← left.render s.dialect
      let right ← right.render s.dialect
      pure { s with
        joins := s.joins ++ ["LEFT JOIN " ++ target ++ " ON " ++ left ++ " = " ++ right] }) =
        Except.ok t → ∃ leftExpr rightExpr, left.render s.dialect = .ok leftExpr ∧
      right.render s.dialect = .ok rightExpr ∧ t = { s with
        joins := s.joins ++ ["LEFT JOIN " ++ target ++ " ON " ++ leftExpr ++ " = " ++ rightExpr] } := by
    intro target ok
    obtain ⟨leftExpr, left_ok, ok⟩ := bind_ok ok
    obtain ⟨rightExpr, right_ok, ok⟩ := bind_ok ok
    exact ⟨leftExpr, rightExpr, left_ok, right_ok, (pure_ok ok).symm⟩
  cases label with
  | none =>
    obtain ⟨leftExpr, rightExpr, rest⟩ := joined ok
    exact ⟨_, leftExpr, rightExpr, valid, Or.inl rfl, rest⟩
  | some name =>
    simp only at ok
    split at ok
    · obtain ⟨leftExpr, rightExpr, rest⟩ := joined ok
      exact ⟨_, leftExpr, rightExpr, valid, Or.inl rfl, rest⟩
    · obtain ⟨_, named, ok⟩ := bind_ok ok
      obtain ⟨nameValid, rfl⟩ := quote_ok named
      obtain ⟨leftExpr, rightExpr, rest⟩ := joined ok
      exact ⟨_, leftExpr, rightExpr, valid, Or.inr ⟨name, rfl, nameValid, rfl⟩, rest⟩

theorem Sound.leftJoin (sound : s.Sound) {table : String} {left right : Column}
    {label : Option String} (ok : s.leftJoin table left right label = .ok t) : t.Sound := by
  obtain ⟨target, leftExpr, rightExpr, valid, named, left_ok, right_ok, rfl⟩ := leftJoin_ok ok
  have target_clear : s.dialect.Clear target.toList := by
    rcases named with rfl | ⟨name, _, nameValid, rfl⟩
    · exact Dialect.clear_quoted valid
    · exact Dialect.clear_append (Dialect.clear_append (Dialect.clear_quoted valid)
        (Dialect.clear_text (by decide))) (Dialect.clear_quoted nameValid)
  have front : s.dialect.Clear ("LEFT JOIN " ++ target ++ " ON ").toList :=
    Dialect.clear_append (Dialect.clear_append (Dialect.clear_text (by decide)) target_clear)
      (Dialect.clear_text (by decide))
  have equated : s.dialect.Clear
      ("LEFT JOIN " ++ target ++ " ON " ++ leftExpr ++ " = " ++ rightExpr).toList :=
    Dialect.clear_append (Dialect.clear_append (Dialect.clear_append front
      (Dialect.clear_render left_ok)) (Dialect.clear_text (by decide)))
      (Dialect.clear_render right_ok)
  exact { sound with joins := mem_append_singleton sound.joins equated }

theorem Sound.where_ (sound : s.Sound) {connector : Connector} {column : Column}
    {operator : Operator} {operand : Value}
    (ok : s.where_ connector column operator operand = .ok t) : t.Sound := by
  obtain ⟨expr, expr_ok, ok⟩ := bind_ok ok
  obtain ⟨fragment, fragment_ok, ok⟩ := bind_ok ok
  cases pure_ok ok
  exact sound.add ⟨column, operator, operand, expr, expr_ok, fragment_ok⟩

theorem whereNamed_ok {connector : Connector} {column : Column} {operator operand : Value}
    (ok : s.whereNamed connector column operator operand = .ok t) :
    ∃ named, s.where_ connector column named operand = .ok t := by
  obtain ⟨expr, expr_ok, ok⟩ := bind_ok ok
  obtain ⟨named, _, ok⟩ := bind_ok ok
  refine ⟨named, ?_⟩
  rw [Select.where_, expr_ok]
  exact ok

theorem Sound.endGroup (sound : s.Sound) (ok : s.endGroup = .ok t) : t.Sound := by
  unfold Select.endGroup at ok
  split at ok
  · cases ok
  · rename_i innermost outer opened
    cases ok
    have groups := sound.openGroups
    rw [opened] at groups
    have closed : Sound { s with openGroups := outer } :=
      { sound with openGroups := fun g member => groups g (List.mem_cons_of_mem _ member) }
    exact closed.add (groups innermost List.mem_cons_self)

theorem mem_renderedUntilRefused {α : Type} {render : α → Except Failure String} {items : List α}
    {text : String} (member : text ∈ (renderedUntilRefused render items).1) :
    ∃ item ∈ items, render item = .ok text := by
  induction items with
  | nil => cases member
  | cons item rest ih =>
    rw [renderedUntilRefused] at member
    split at member
    · cases member
    · rename_i first rendered
      rcases List.mem_cons.mp member with rfl | member
      · exact ⟨item, List.mem_cons_self, rendered⟩
      · obtain ⟨other, inside, ok⟩ := ih member
        exact ⟨other, List.mem_cons_of_mem _ inside, ok⟩

theorem clear_orderItem {d : Dialect} {field text : String} (ok : orderItem d field = .ok text) :
    d.Clear text.toList := by
  obtain ⟨expr, expr_ok, ok⟩ := bind_ok ok
  cases pure_ok ok
  refine Dialect.clear_append (Dialect.clear_append (Dialect.clear_render expr_ok)
    (Dialect.clear_text (by decide))) ?_
  split
  · exact Dialect.clear_text (by decide)
  · exact Dialect.clear_text (by decide)

/-- Whatever is made is sound. -/
theorem Made.sound (made : s.Made) : s.Sound := by
  induction made with
  | new d => exact ⟨nofun, nofun, nofun, nofun, nofun, trivial, nofun⟩
  | from_ _ ok sound => exact sound.from_ ok
  | column _ ok sound => exact sound.column ok
  | leftJoin _ ok sound => exact sound.leftJoin ok
  | whereNamed _ ok sound =>
    obtain ⟨named, ok⟩ := whereNamed_ok ok
    exact sound.where_ ok
  | where_ _ ok sound => exact sound.where_ ok
  | startGroup connector _ sound =>
    refine { sound with openGroups := fun g member => ?_ }
    rcases List.mem_cons.mp member with rfl | member
    · trivial
    · exact sound.openGroups g member
  | endGroup _ ok sound => exact sound.endGroup ok
  | orderBy fields _ sound =>
    refine { sound with order := fun text member => ?_ }
    rcases List.mem_append.mp member with member | member
    · exact sound.order text member
    · obtain ⟨field, _, ok⟩ := mem_renderedUntilRefused member
      exact clear_orderItem ok
  | groupBy columns _ sound =>
    refine { sound with groups := fun text member => ?_ }
    rcases List.mem_append.mp member with member | member
    · exact sound.groups text member
    · obtain ⟨column, _, ok⟩ := mem_renderedUntilRefused member
      exact Dialect.clear_render ok
  | limit _ _ sound => exact { sound with }
  | offset _ _ sound => exact { sound with }

end Select

end Curator.Sql

namespace Curator.Plan

open Sql Outcome

theorem settled_ok {r : Select × Option Failure} {s : Select} (ok : settled r = .ok s) :
    s = r.1 := by
  obtain ⟨made, refused⟩ := r
  cases refused with
  | none => exact (Except.ok.inj ok).symm
  | some failure => cases ok

/-- The steps of a plan's selection, from the table to its limits. -/
theorem selection_ok {plan : Plan} {d : Dialect} {paginate : Bool} {s : Select}
    (ok : plan.selection d paginate = .ok s) : ∃ table columns joins steps,
      (Select.new d).from_ plan.schema.table = .ok table ∧
      (if paginate then plan.columns.foldlM replayColumn table else pure table) = .ok columns ∧
      plan.joins.foldlM replayJoin columns = .ok joins ∧
      plan.steps.foldlM replayStep joins = .ok steps ∧
      s = (let grouped := (steps.groupBy (plan.group.map Column.parse)).1
        if paginate then
          { (grouped.orderBy plan.order).1 with limit := plan.limit, offset := plan.offset }
        else grouped) := by
  obtain ⟨table, table_ok, ok⟩ := bind_ok ok
  cases paginate with
  | false =>
    obtain ⟨_, same, ok⟩ := bind_ok ok
    cases pure_ok same
    obtain ⟨joins, joins_ok, ok⟩ := bind_ok ok
    obtain ⟨steps, steps_ok, ok⟩ := bind_ok ok
    obtain ⟨grouped, grouped_ok, ok⟩ := bind_ok ok
    cases settled_ok grouped_ok
    exact ⟨table, table, joins, steps, table_ok, rfl, joins_ok, steps_ok, (pure_ok ok).symm⟩
  | true =>
    obtain ⟨columns, columns_ok, ok⟩ := bind_ok ok
    obtain ⟨joins, joins_ok, ok⟩ := bind_ok ok
    obtain ⟨steps, steps_ok, ok⟩ := bind_ok ok
    obtain ⟨grouped, grouped_ok, ok⟩ := bind_ok ok
    obtain ⟨ordered, ordered_ok, ok⟩ := bind_ok ok
    cases settled_ok grouped_ok
    cases settled_ok ordered_ok
    exact ⟨table, columns, joins, steps, table_ok, columns_ok, joins_ok, steps_ok,
      (pure_ok ok).symm⟩

theorem fetchSql_ok {plan : Plan} {d : Dialect} {f : Fragment} (ok : plan.fetchSql d = .ok f) :
    ∃ s, plan.selection d true = .ok s ∧ s.toSql = .ok f := bind_ok ok

theorem totalSql_ok {plan : Plan} {d : Dialect} {f : Fragment} (ok : plan.totalSql d = .ok f) :
    ∃ s, plan.selection d false = .ok s ∧ s.aggregateSql (.str "COUNT") none = .ok f := bind_ok ok

theorem made_replayStep {s t : Select} {step : PlanStep} (made : s.Made)
    (ok : replayStep s step = .ok t) : t.Made := by
  cases step with
  | test connector column operator operand => exact .where_ made ok
  | opening connector =>
    cases ok
    exact .startGroup connector made
  | closing => exact .endGroup made ok

/-- The selection of a plan is made clause by clause. -/
theorem selection_made {plan : Plan} {d : Dialect} {paginate : Bool} {s : Select}
    (ok : plan.selection d paginate = .ok s) : s.Made := by
  obtain ⟨table, columns, joins, steps, table_ok, columns_ok, joins_ok, steps_ok, rfl⟩ :=
    selection_ok ok
  have table_made : table.Made := .from_ (.new d) table_ok
  have columns_made : columns.Made := by
    cases paginate with
    | false =>
      cases pure_ok columns_ok
      exact table_made
    | true =>
      exact foldlM_keeps (P := Select.Made) (fun _ _ _ _ made ok => .column made ok) table_made
        columns_ok
  have joins_made : joins.Made :=
    foldlM_keeps (P := Select.Made) (fun _ _ _ _ made ok => .leftJoin made ok) columns_made joins_ok
  have steps_made : steps.Made :=
    foldlM_keeps (P := Select.Made) (fun _ _ _ _ made ok => made_replayStep made ok) joins_made
      steps_ok
  have grouped := Select.Made.groupBy (plan.group.map Column.parse) steps_made
  cases paginate with
  | false => exact grouped
  | true => exact .offset plan.offset (.limit plan.limit (.orderBy plan.order grouped))

end Curator.Plan
