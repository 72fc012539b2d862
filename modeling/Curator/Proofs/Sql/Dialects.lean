import Curator.Proofs.Sql.Placed
import Curator.Proofs.Sql.Rewritten
/-!
# The two dialects

One row of clauses makes the same statement in both dialects, but for the marks of parameters and for
the limit that one of them wants in front of an offset.
-/

set_option autoImplicit false

namespace Curator.Sql

open Outcome

/-! ## Marks -/

/-- A text of SQLite with the marks of PostgreSQL. -/
def percentMarked (text : String) : String := Text.replace text "?" "%s"

/-- What becomes of a character. -/
def percentMark (c : Char) : List Char := if c = '?' then ['%', 's'] else [c]

theorem toList_percentMarked (text : String) :
    (percentMarked text).toList = text.toList.flatMap percentMark := by
  have replaced : ∀ chars : List Char,
      Text.pieces ['?'] chars ≠ [] ∧
        Text.replaced ['?'] ['%', 's'] chars = chars.flatMap percentMark := by
    intro chars
    unfold Text.replaced Text.pieces
    induction chars with
    | nil => exact ⟨by simp [Text.piecesFrom], rfl⟩
    | cons c rest ih =>
      obtain ⟨some_piece, same⟩ := ih
      obtain ⟨first, others, pieces⟩ := List.exists_cons_of_ne_nil some_piece
      rw [Text.piecesFrom, List.flatMap_cons, ← same, pieces]
      by_cases mark : c = '?'
      · subst mark
        refine ⟨by simp [List.isPrefixOf], ?_⟩
        simp [List.isPrefixOf, percentMark, pieces, List.intercalate_cons_cons]
      · have other : ('?' == c) = false := by simpa using Ne.symm mark
        refine ⟨by simp [List.isPrefixOf, other], ?_⟩
        cases others <;> simp [List.isPrefixOf, other, percentMark, mark, List.intercalate_cons_cons]
  rw [percentMarked, Text.replace, String.toList_ofList]
  exact (replaced text.toList).2

theorem percentMarked_append (first second : String) :
    percentMarked (first ++ second) = percentMarked first ++ percentMarked second := by
  apply String.toList_inj.mp
  simp [toList_percentMarked]

/-- A text without question marks stays as it is. -/
theorem percentMarked_clear {text : String} (clear : Dialect.sqlite.Clear text.toList) :
    percentMarked text = text := by
  have kept : ∀ chars : List Char, '?' ∉ chars → chars.flatMap percentMark = chars := by
    intro chars absent
    induction chars with
    | nil => rfl
    | cons c rest ih =>
      simp only [List.mem_cons, not_or] at absent
      rw [List.flatMap_cons, ih absent.2, percentMark, if_neg (Ne.symm absent.1)]
      rfl
  apply String.toList_inj.mp
  rw [toList_percentMarked, kept _ clear]

theorem percentMarked_mark :
    percentMarked Dialect.sqlite.placeholder = Dialect.postgresql.placeholder := by decide

theorem percentMarked_isEmpty (text : String) : (percentMarked text).isEmpty = text.isEmpty := by
  rw [Condition.isEmpty_toList, Condition.isEmpty_toList, toList_percentMarked]
  cases text.toList with
  | nil => rfl
  | cons c rest =>
    rw [List.flatMap_cons, percentMark]
    split <;> rfl

/-- The marks of a list, with commas between them. -/
theorem percentMarked_marks (items : List Value) :
    percentMarked (Text.join ", " (items.map fun _ => Dialect.sqlite.placeholder)) =
      Text.join ", " (items.map fun _ => Dialect.postgresql.placeholder) := by
  apply String.toList_inj.mp
  rw [toList_percentMarked, Text.join, Text.join, String.toList_intercalate,
    String.toList_intercalate]
  induction items with
  | nil => rfl
  | cons v rest ih =>
    cases rest with
    | nil => simp [Dialect.placeholder, percentMark]
    | cons w rest =>
      simp only [List.map_cons, List.intercalate_cons_cons, List.flatMap_append] at ih ⊢
      rw [ih]
      rfl

def Fragment.percentMarked (f : Fragment) : Fragment := ⟨Sql.percentMarked f.sql, f.params⟩

theorem ok_percent {sql other : String} (same : Sql.percentMarked sql = other)
    (params : List Value) : (.ok ⟨other, params⟩ : Except Failure Fragment) =
      (Except.ok ⟨sql, params⟩).map Fragment.percentMarked := by
  rw [← same]
  rfl

/-- Texts without marks around others. -/
theorem percentMarked_between {head tail : String} (front : Dialect.sqlite.Clear head.toList)
    (back : Dialect.sqlite.Clear tail.toList) (text : String) :
    percentMarked (head ++ text ++ tail) = head ++ percentMarked text ++ tail := by
  rw [percentMarked_append, percentMarked_append, percentMarked_clear front,
    percentMarked_clear back]

theorem Fragment.percentMarked_rewriting : Fragment.Rewriting Fragment.percentMarked where
  empty := rfl
  blank := fun g => percentMarked_isEmpty g.sql
  joined := by
    intro before next connector
    have word : Dialect.sqlite.Clear (" " ++ connector.text ++ " ").toList := by
      cases connector <;> exact Dialect.clear_text (by decide)
    have apart : ∀ first second : String, first ++ " " ++ connector.text ++ " " ++ second =
        first ++ (" " ++ connector.text ++ " ") ++ second := by simp [String.append_assoc]
    have texts : Sql.percentMarked (before.sql ++ " " ++ connector.text ++ " " ++ next.sql) =
        Sql.percentMarked before.sql ++ " " ++ connector.text ++ " " ++
          Sql.percentMarked next.sql := by
      rw [apart, apart, percentMarked_append, percentMarked_append, percentMarked_clear word]
    unfold Fragment.joined Fragment.percentMarked
    rw [percentMarked_isEmpty, percentMarked_isEmpty]
    split
    · rfl
    · split
      · rfl
      · exact congrArg (Fragment.mk · _) texts
  wrapped := fun g => congrArg (Fragment.mk · g.params)
    (percentMarked_between (Dialect.clear_text (by decide)) (Dialect.clear_text (by decide)) g.sql)

/-! ## Predicates -/

section

variable {expr keyword : String} (clear : Dialect.sqlite.Clear expr.toList)
  (plain : Dialect.sqlite.Clear keyword.toList) (operand : Value)

include clear

theorem clear_worded (plain : Dialect.sqlite.Clear keyword.toList) {back : String}
    (after : Dialect.sqlite.Clear back.toList) :
    Dialect.sqlite.Clear (expr ++ " " ++ keyword ++ back).toList :=
  Dialect.clear_append (Dialect.clear_append (Dialect.clear_append clear
    (Dialect.clear_text (by decide))) plain) after

/-- An expression and a word, a mark, and a text behind it. -/
theorem percentMarked_worded (plain : Dialect.sqlite.Clear keyword.toList) {back : String}
    (after : Dialect.sqlite.Clear back.toList) :
    percentMarked (expr ++ " " ++ keyword ++ " " ++ Dialect.sqlite.placeholder ++ back) =
      expr ++ " " ++ keyword ++ " " ++ Dialect.postgresql.placeholder ++ back := by
  rw [percentMarked_between (clear_worded clear plain (Dialect.clear_text (by decide))) after,
    percentMarked_mark]

include plain

theorem compared_percent : compared keyword expr operand Dialect.postgresql.placeholder =
    (compared keyword expr operand Dialect.sqlite.placeholder).map Fragment.percentMarked := by
  have nothing : Dialect.sqlite.Clear "".toList := Dialect.clear_text (by decide)
  have text := percentMarked_worded clear plain nothing
  rw [String.append_empty, String.append_empty] at text
  unfold compared
  cases scalar operand with
  | error failure => rfl
  | ok v => exact ok_percent text _

theorem liked_percent (place : LikePlace) :
    liked place keyword expr operand Dialect.postgresql.placeholder =
      (liked place keyword expr operand Dialect.sqlite.placeholder).map Fragment.percentMarked := by
  have escape : Dialect.sqlite.Clear " ESCAPE '\\'".toList := Dialect.clear_text (by decide)
  have text := percentMarked_worded clear plain escape
  unfold liked
  cases scalar operand with
  | error failure => rfl
  | ok v =>
    rw [ok_bind, ok_bind]
    cases v.text? with
    | error failure => rfl
    | ok written => exact ok_percent text _

theorem listed_percent : listed keyword expr operand Dialect.postgresql.placeholder =
    (listed keyword expr operand Dialect.sqlite.placeholder).map Fragment.percentMarked := by
  unfold listed
  split
  · rename_i first rest
    have opening : Dialect.sqlite.Clear " (".toList := Dialect.clear_text (by decide)
    have closing : Dialect.sqlite.Clear ")".toList := Dialect.clear_text (by decide)
    have text := percentMarked_between (clear_worded clear plain opening) closing
      (Text.join ", " ((first :: rest).map fun _ => Dialect.sqlite.placeholder))
    rw [percentMarked_marks] at text
    simp only
    cases (first :: rest).mapM scalar with
    | error failure => rfl
    | ok values => exact ok_percent text _
  · rfl

omit plain

theorem likedInLowerCase_percent :
    likedInLowerCase expr operand Dialect.postgresql.placeholder =
      (likedInLowerCase expr operand Dialect.sqlite.placeholder).map Fragment.percentMarked := by
  have front : Dialect.sqlite.Clear ("LOWER(CAST(" ++ expr ++ " AS TEXT)) LIKE ").toList :=
    Dialect.clear_append (Dialect.clear_append (Dialect.clear_text (by decide)) clear)
      (Dialect.clear_text (by decide))
  have escape : Dialect.sqlite.Clear " ESCAPE '\\'".toList := Dialect.clear_text (by decide)
  have text := percentMarked_between front escape Dialect.sqlite.placeholder
  rw [percentMarked_mark] at text
  unfold likedInLowerCase
  cases scalar operand with
  | error failure => rfl
  | ok v =>
    rw [ok_bind, ok_bind]
    cases v.text? with
    | error failure => rfl
    | ok written => exact ok_percent text _

/-- A test for null has no mark. -/
theorem nullTest_percent (null : Bool) : (nullTest null expr).percentMarked = nullTest null expr := by
  have unmarked : ∀ word : String, Dialect.sqlite.Clear word.toList →
      percentMarked (expr ++ word) = expr ++ word :=
    fun word plain => percentMarked_clear (Dialect.clear_append clear plain)
  cases null with
  | false => exact congrArg (Fragment.mk · []) (unmarked _ (Dialect.clear_text (by decide)))
  | true => exact congrArg (Fragment.mk · []) (unmarked _ (Dialect.clear_text (by decide)))

theorem nullCheck_percent (wantNull : Bool) :
    nullCheck wantNull expr operand =
      (nullCheck wantNull expr operand).map Fragment.percentMarked := by
  unfold nullCheck
  cases flag operand with
  | error failure => rfl
  | ok asked => exact congrArg Except.ok (nullTest_percent clear (asked == wantNull)).symm

theorem ranged_percent : ranged expr operand Dialect.postgresql.placeholder =
    (ranged expr operand Dialect.sqlite.placeholder).map Fragment.percentMarked := by
  have text : percentMarked (expr ++ " BETWEEN " ++ Dialect.sqlite.placeholder ++ " AND " ++
      Dialect.sqlite.placeholder) = expr ++ " BETWEEN " ++ Dialect.postgresql.placeholder ++
      " AND " ++ Dialect.postgresql.placeholder := by
    rw [percentMarked_append, percentMarked_between (Dialect.clear_append clear
      (Dialect.clear_text (by decide))) (Dialect.clear_text (by decide)), percentMarked_mark]
  unfold ranged
  split
  · rename_i low high
    cases scalar low with
    | error failure => rfl
    | ok low =>
      rw [ok_bind, ok_bind]
      cases scalar high with
      | error failure => rfl
      | ok high => exact ok_percent text _
  · rfl

/-- An operator makes the same predicate in both dialects but for the marks, and is refused in both
for the same reason. -/
theorem Operator.render_percent (operator : Operator) :
    operator.render expr operand Dialect.postgresql.placeholder =
      (operator.render expr operand Dialect.sqlite.placeholder).map Fragment.percentMarked := by
  have null := nullTest_percent clear
  cases operator with
  | eq =>
    rw [Operator.render, Operator.render]
    split
    · exact congrArg Except.ok (null true).symm
    · exact compared_percent clear (Dialect.clear_text (by decide)) operand
  | neq =>
    rw [Operator.render, Operator.render]
    split
    · exact congrArg Except.ok (null false).symm
    · exact compared_percent clear (Dialect.clear_text (by decide)) operand
  | lt | lte | gt | gte => exact compared_percent clear (Dialect.clear_text (by decide)) operand
  | isIn | notIn => exact listed_percent clear (Dialect.clear_text (by decide)) operand
  | contains | notContains | startsWith | notStartsWith | endsWith | notEndsWith =>
    exact liked_percent clear (Dialect.clear_text (by decide)) operand _
  | icontains => exact likedInLowerCase_percent clear operand
  | isNull | isNotNull => exact nullCheck_percent clear operand _
  | between => exact ranged_percent clear operand

end

/-! ## Clauses -/

/-- A column without keys inside it is written alike in both dialects. -/
theorem Column.render_pathless {column : Column} (pathless : column.path = []) (d e : Dialect) :
    column.render d = column.render e := by
  simp [Column.render, pathless]

theorem Column.parse_path (text : String) : (Column.parse text).path = [] := by
  unfold Column.parse
  split <;> rfl

/-- A clause whose columns have no keys inside them. -/
def Clause.Pathless : Clause → Prop
  | .column c _ => c.path = []
  | .leftJoin _ left right _ => left.path = [] ∧ right.path = []
  | .test _ c _ _ => c.path = []
  | .groupBy columns => ∀ c ∈ columns, c.path = []
  | _ => True

namespace Select

/-- A selection for SQLite as it is for PostgreSQL. -/
def percentMarked (s : Select) : Select :=
  { s.rewritten Fragment.percentMarked with dialect := .postgresql }

theorem takenOr_percent (s : Select) (r : Except Failure Select) :
    s.percentMarked.takenOr (r.map percentMarked) =
      ((s.takenOr r).1.percentMarked, (s.takenOr r).2) := by
  cases r <;> rfl

theorem percentMarked_add (s : Select) (c : Condition) :
    (s.add c).percentMarked = s.percentMarked.add (c.rewritten Fragment.percentMarked) := by
  have added := rewritten_add Fragment.percentMarked s c
  unfold percentMarked
  rw [added]
  unfold add
  cases opened : s.openGroups with
  | nil => simp [rewritten, opened]
  | cons innermost outer => simp [rewritten, opened]

theorem percentMarked_endGroup (s : Select) :
    s.percentMarked.endGroup = s.endGroup.map percentMarked := by
  have closed := rewritten_endGroup Fragment.percentMarked s
  unfold percentMarked
  cases opened : s.openGroups with
  | nil => simp [endGroup, rewritten, opened, Except.map]
  | cons innermost outer =>
    have added := percentMarked_add { s with openGroups := outer }
      (.group innermost.connector innermost.children)
    unfold percentMarked at added
    simp only [endGroup, opened, Except.map, added]
    simp [rewritten, opened, OpenGroup.rewritten, Condition.rewritten]

theorem renderedUntilRefused_congr {α : Type} {render other : α → Except Failure String}
    {items : List α} (same : ∀ item ∈ items, render item = other item) :
    renderedUntilRefused render items = renderedUntilRefused other items := by
  induction items with
  | nil => rfl
  | cons item rest ih =>
    obtain ⟨first, others⟩ := List.forall_mem_cons.mp same
    rw [renderedUntilRefused, renderedUntilRefused, first, ih others]

theorem column_percent (s : Select) {column : Column} (pathless : column.path = [])
    (label : Option String) :
    s.percentMarked.column column label = (s.column column label).map percentMarked := by
  unfold Select.column
  rw [Column.render_pathless pathless s.percentMarked.dialect s.dialect]
  refine bind_map_congr fun expr => ?_
  cases label with
  | none => rfl
  | some label => exact bind_map_congr fun _ => rfl

theorem leftJoin_percent (s : Select) (table : String) {left right : Column}
    (leftPathless : left.path = []) (rightPathless : right.path = []) (label : Option String) :
    s.percentMarked.leftJoin table left right label =
      (s.leftJoin table left right label).map percentMarked := by
  unfold leftJoin
  rw [Column.render_pathless leftPathless s.percentMarked.dialect s.dialect,
    Column.render_pathless rightPathless s.percentMarked.dialect s.dialect]
  refine bind_map_congr fun target => ?_
  cases label with
  | none => exact bind_map_congr fun _ => bind_map_congr fun _ => bind_map_congr fun _ => rfl
  | some label =>
    simp only
    split
    · exact bind_map_congr fun _ => bind_map_congr fun _ => bind_map_congr fun _ => rfl
    · exact bind_map_congr fun _ => bind_map_congr fun _ => bind_map_congr fun _ => bind_map_congr fun _ => rfl

theorem whereNamed_percent {s : Select} (lite : s.dialect = .sqlite) (connector : Connector)
    {column : Column} (pathless : column.path = []) (operator operand : Value) :
    s.percentMarked.whereNamed connector column operator operand =
      (s.whereNamed connector column operator operand).map percentMarked := by
  have post : s.percentMarked.dialect = .postgresql := rfl
  unfold whereNamed
  rw [post, lite, Column.render_pathless pathless .postgresql .sqlite]
  cases expr_ok : column.render .sqlite with
  | error failure => rfl
  | ok expr =>
    rw [ok_bind, ok_bind]
    refine bind_map_congr fun operator => ?_
    rw [Operator.render_percent (Dialect.clear_render expr_ok) operand operator]
    cases operator.render expr operand Dialect.sqlite.placeholder with
    | error failure => rfl
    | ok fragment =>
      exact congrArg Except.ok (percentMarked_add s (.predicate connector fragment)).symm

/-- One clause has the same effect and the same failure in both dialects. -/
theorem give_percent {s : Select} (lite : s.dialect = .sqlite) {clause : Clause}
    (pathless : clause.Pathless) :
    s.percentMarked.give clause = ((s.give clause).1.percentMarked, (s.give clause).2) := by
  have taken : ∀ {r other : Except Failure Select}, r = other.map percentMarked →
      s.percentMarked.takenOr r = ((s.takenOr other).1.percentMarked, (s.takenOr other).2) := by
    intro r other same
    rw [same, takenOr_percent]
  cases clause with
  | table name => exact taken (bind_map_congr fun _ => rfl)
  | column column label => exact taken (column_percent s pathless label)
  | leftJoin table left right label =>
    exact taken (leftJoin_percent s table pathless.1 pathless.2 label)
  | test connector column operator operand =>
    exact taken (whereNamed_percent lite connector pathless operator operand)
  | opening connector =>
    refine taken ?_
    cases Connector.ofName connector <;> rfl
  | closing => exact taken (percentMarked_endGroup s)
  | orderBy fields =>
    have items : ∀ field ∈ fields,
        orderItem s.percentMarked.dialect field = orderItem s.dialect field := by
      intro field _
      simp only [orderItem]
      rw [Column.render_pathless (Column.parse_path _) s.percentMarked.dialect s.dialect]
    simp only [give, Select.orderBy, renderedUntilRefused_congr items]
    rfl
  | groupBy columns =>
    have items : ∀ column ∈ columns,
        column.render s.percentMarked.dialect = column.render s.dialect :=
      fun column member => Column.render_pathless (pathless column member) _ _
    simp only [give, Select.groupBy, renderedUntilRefused_congr items]
    rfl
  | limit value =>
    refine taken ?_
    cases readBound value <;> rfl
  | offset value =>
    refine taken ?_
    cases readBound value <;> rfl

/-- The selection after a row of clauses, with the failure of each clause that was refused. -/
def giveAll (s : Select) : List Clause → Select × List (Option Failure)
  | [] => (s, [])
  | clause :: rest =>
    let (next, refused) := s.give clause
    let (last, others) := next.giveAll rest
    (last, refused :: others)

theorem give_dialect (s : Select) (clause : Clause) : (s.give clause).1.dialect = s.dialect := by
  have taken : ∀ {r : Except Failure Select}, (∀ t, r = .ok t → t.dialect = s.dialect) →
      (s.takenOr r).1.dialect = s.dialect := by
    intro r all
    cases r with
    | ok t => exact all t rfl
    | error failure => rfl
  have mapped : ∀ {β : Type} {r : Except Failure β} {f : β → Select},
      (∀ b, (f b).dialect = s.dialect) → ∀ t, r.map f = .ok t → t.dialect = s.dialect := by
    intro β r f all t ok
    cases r with
    | ok b =>
      cases ok
      exact all b
    | error failure => cases ok
  cases clause with
  | table name => exact taken fun t ok => from_dialect ok
  | column column label =>
    refine taken fun t ok => ?_
    obtain ⟨_, _, ok⟩ := bind_ok ok
    cases label with
    | none =>
      cases pure_ok ok
      rfl
    | some label =>
      obtain ⟨_, _, ok⟩ := bind_ok ok
      cases pure_ok ok
      rfl
  | leftJoin table left right label =>
    refine taken fun t ok => ?_
    obtain ⟨_, _, _, _, _, _, _, rfl⟩ := leftJoin_ok ok
    rfl
  | test connector column operator operand =>
    refine taken fun t ok => ?_
    obtain ⟨_, ok⟩ := whereNamed_ok ok
    exact where_dialect ok
  | opening connector => exact taken (mapped fun _ => rfl)
  | closing => exact taken fun t ok => endGroup_dialect ok
  | orderBy fields => rfl
  | groupBy columns => rfl
  | limit value => exact taken (mapped fun _ => rfl)
  | offset value => exact taken (mapped fun _ => rfl)

theorem Made.giveAll {s : Select} (made : s.Made) (clauses : List Clause) :
    (s.giveAll clauses).1.Made := by
  induction clauses generalizing s with
  | nil => exact made
  | cons clause rest ih => exact ih (made.give clause)

theorem giveAll_dialect (s : Select) (clauses : List Clause) :
    (s.giveAll clauses).1.dialect = s.dialect := by
  induction clauses generalizing s with
  | nil => rfl
  | cons clause rest ih => exact (ih (s.give clause).1).trans (give_dialect s clause)

/-- A row of clauses has the same effect and the same failures in both dialects. -/
theorem giveAll_percent {s : Select} (lite : s.dialect = .sqlite) {clauses : List Clause}
    (pathless : ∀ clause ∈ clauses, clause.Pathless) :
    s.percentMarked.giveAll clauses =
      ((s.giveAll clauses).1.percentMarked, (s.giveAll clauses).2) := by
  induction clauses generalizing s with
  | nil => rfl
  | cons clause rest ih =>
    obtain ⟨first, others⟩ := List.forall_mem_cons.mp pathless
    rw [giveAll, give_percent lite first]
    simp only
    rw [ih ((give_dialect s clause).trans lite) others]
    rfl

/-! ## Statements -/

theorem filterText_percent (s : Select) :
    s.percentMarked.filterText = Sql.percentMarked s.filterText := by
  have conditions : Condition.renderRoot s.percentMarked.root =
      (Condition.renderRoot s.root).percentMarked :=
    Condition.renderRoot_rewritten Fragment.percentMarked_rewriting s.root
  unfold filterText
  rw [conditions]
  simp only [Fragment.percentMarked, percentMarked_isEmpty]
  split
  · rfl
  · have word : Dialect.sqlite.Clear " WHERE ".toList := Dialect.clear_text (by decide)
    rw [percentMarked_append, percentMarked_clear word]

section

variable {s : Select} (made : s.Made) (lite : s.dialect = .sqlite)

include made lite

theorem fromClause_percent : s.percentMarked.fromClause =
    s.fromClause.map fun (source, conditional) => (source.percentMarked, conditional) := by
  cases named : s.table with
  | none => simp [fromClause, percentMarked, rewritten, named, Except.map]
  | some table =>
    cases opened : s.openGroups with
    | cons g outer => simp [fromClause, percentMarked, rewritten, named, opened, Except.map]
    | nil =>
      have closed : s.percentMarked.openGroups = [] := by simp [percentMarked, rewritten, opened]
      have head : Dialect.sqlite.Clear (s.headText "" table).toList :=
        lite ▸ clear_headText made (Dialect.clear_text (by decide)) named
      have conditions : Condition.renderRoot s.percentMarked.root =
          (Condition.renderRoot s.root).percentMarked :=
        Condition.renderRoot_rewritten Fragment.percentMarked_rewriting s.root
      have source : s.percentMarked.headText "" table ++ s.percentMarked.filterText =
          Sql.percentMarked (s.headText "" table ++ s.filterText) := by
        rw [filterText_percent, percentMarked_append, percentMarked_clear head]
        rfl
      rw [fromClause_eq named opened, fromClause_eq (s := s.percentMarked) named closed, source,
        conditions]
      simp [Except.map, Fragment.percentMarked, percentMarked_isEmpty]

/-- With the same clause for its offset, a selection has the same statement in both dialects. -/
theorem toSql_percent (offset : s.percentMarked.offsetClause = s.offsetClause) :
    s.percentMarked.toSql = s.toSql.map Fragment.percentMarked := by
  unfold toSql
  rw [fromClause_percent made lite, offset]
  cases s.fromClause with
  | error failure => rfl
  | ok found =>
    obtain ⟨source, conditional⟩ := found
    simp only [Except.map, ok_bind]
    have limit : s.percentMarked.limitClause = s.limitClause := rfl
    rw [limit]
    cases limit_ok : s.limitClause with
    | error failure => rfl
    | ok limit =>
      rw [ok_bind, ok_bind]
      cases offset_ok : s.offsetClause with
      | error failure => rfl
      | ok offset =>
        have head : Dialect.sqlite.Clear s.selectedText.toList := lite ▸ clear_selectedText made
        have tail : Dialect.sqlite.Clear (s.tailText limit offset).toList :=
          lite ▸ clear_tailText made limit_ok offset_ok
        have parts : ∀ middle : String, "SELECT " ++
            (if s.columns.isEmpty then "*" else Text.join ", " s.columns) ++ middle ++
            (if s.groups.isEmpty then "" else " GROUP BY " ++ Text.join ", " s.groups) ++
            (if s.order.isEmpty then "" else " ORDER BY " ++ Text.join ", " s.order) ++ limit ++
            offset = s.selectedText ++ middle ++ s.tailText limit offset := by
          intro middle
          simp [selectedText, tailText, String.append_assoc]
        refine ok_percent ?_ source.params
        rw [parts, percentMarked_between head tail, ← parts]
        rfl

/-- What is reduced to one value is the same in both dialects. -/
theorem aggregateSql_percent (function : Value) {column : Option Column}
    (pathless : ∀ c, column = some c → c.path = []) :
    s.percentMarked.aggregateSql function column =
      (s.aggregateSql function column).map Fragment.percentMarked := by
  unfold aggregateSql
  rw [fromClause_percent made lite]
  cases aggregate_ok : Aggregate.ofValue function with
  | error failure => rfl
  | ok aggregate =>
    rw [ok_bind, ok_bind]
    cases s.fromClause with
    | error failure => rfl
    | ok found =>
      obtain ⟨source, conditional⟩ := found
      have behind : ∀ {head : String}, Dialect.sqlite.Clear head.toList →
          Sql.percentMarked (head ++ source.sql) = head ++ Sql.percentMarked source.sql := by
        intro head clear
        rw [percentMarked_append, percentMarked_clear clear]
      cases column with
      | none =>
        have groups : s.percentMarked.groups = s.groups := rfl
        simp only [Except.map, ok_bind, groups]
        split
        · exact ok_percent (behind (Dialect.clear_text (by decide))) _
        · have joined : Dialect.sqlite.Clear (Text.join ", " s.groups).toList :=
            Dialect.clear_join (Dialect.clear_text (by decide)) (lite ▸ made.sound.groups)
          refine ok_percent ?_ source.params
          rw [percentMarked_append, percentMarked_append, percentMarked_append,
            behind (Dialect.clear_text (by decide)), percentMarked_clear joined]
          rfl
      | some column =>
        simp only [Except.map, ok_bind]
        rw [Column.render_pathless (pathless column rfl) s.percentMarked.dialect .sqlite, lite]
        cases expr_ok : column.render .sqlite with
        | error failure => rfl
        | ok expr =>
          have reduced : s.dialect.Clear (aggregate.render expr).toList :=
            clear_aggregate aggregate_ok (lite ▸ Dialect.clear_render expr_ok)
          rw [lite] at reduced
          exact ok_percent (behind (Dialect.clear_append (Dialect.clear_append
            (Dialect.clear_text (by decide)) reduced) (Dialect.clear_text (by decide)))) _

end

/-- A selection with an offset and no limit: its statement without the offset, and the offset behind
it. -/
theorem toSql_offset {s : Select} {n : Int} (unlimited : s.limit = none)
    (passes : s.offset = some n) (some_rows : n ≠ 0) : s.toSql = (do
      let front ← { s with offset := none }.toSql
      let count ← integerText n
      pure ⟨front.sql ++ (if s.dialect == .sqlite then " LIMIT -1" else "") ++ " OFFSET " ++ count,
        front.params⟩) := by
  have source : { s with offset := none }.fromClause = s.fromClause := rfl
  unfold toSql
  rw [source]
  cases s.fromClause with
  | error failure => rfl
  | ok found =>
    obtain ⟨source, conditional⟩ := found
    simp only [ok_bind, limitClause, offsetClause, unlimited, passes, if_neg some_rows]
    cases integerText n with
    | error failure => rfl
    | ok count =>
      simp [String.append_assoc]

theorem offsetClause_percent {s : Select}
    (ordinary : s.limit ≠ none ∨ s.offset = none ∨ s.offset = some 0) :
    s.percentMarked.offsetClause = s.offsetClause := by
  have limit : s.percentMarked.limit = s.limit := rfl
  have offset : s.percentMarked.offset = s.offset := rfl
  unfold offsetClause
  rw [limit, offset]
  rcases ordinary with limited | passes | passes
  · simp [limited]
  · rw [passes]
  · simp [passes]

theorem toSql_percent_offset {s : Select} {n : Int} (made : s.Made) (lite : s.dialect = .sqlite)
    (unlimited : s.limit = none) (passes : s.offset = some n) (some_rows : n ≠ 0) :
    s.percentMarked.toSql = (do
      let front ← { s with offset := none }.toSql
      let count ← integerText n
      pure ⟨Sql.percentMarked (front.sql ++ " OFFSET " ++ count), front.params⟩) := by
  have front : { s.percentMarked with offset := none }.toSql =
      { s with offset := none }.toSql.map Fragment.percentMarked :=
    toSql_percent (s := { s with offset := none }) (.offset none made) lite rfl
  rw [toSql_offset (s := s.percentMarked) unlimited passes some_rows, front]
  cases { s with offset := none }.toSql with
  | error failure => simp only [Except.map, bind, Except.bind]
  | ok front =>
    simp only [Except.map, ok_bind]
    cases count_ok : integerText n with
    | error failure => rfl
    | ok count =>
      have tail : Dialect.sqlite.Clear (" OFFSET " ++ count).toList :=
        Dialect.clear_append (Dialect.clear_text (by decide))
          (lite ▸ clear_integerText (s := s) count_ok)
      have text : Sql.percentMarked (front.sql ++ " OFFSET " ++ count) =
          Sql.percentMarked front.sql ++ " OFFSET " ++ count := by
        rw [String.append_assoc, percentMarked_append, percentMarked_clear tail,
          String.append_assoc]
      rw [ok_bind, ok_bind, text]
      simp [percentMarked, Fragment.percentMarked]

end Select

/-- For every row of clauses over columns without keys inside them, each clause is refused in one
dialect exactly when it is refused in the other, for the same reason.  After it both fail to make a
statement for the same reason, or the statement for PostgreSQL is the one for SQLite with every
question mark replaced by `%s`, its parameters the same.  Only where rows are passed over without a
limit does SQLite have a limit that PostgreSQL does not have. -/
theorem dialects_agree (clauses : List Clause) (pathless : ∀ clause ∈ clauses, clause.Pathless) :
    let lite := (Select.new .sqlite).giveAll clauses
    let post := (Select.new .postgresql).giveAll clauses
    post.2 = lite.2 ∧
    ((lite.1.limit ≠ none ∨ lite.1.offset = none ∨ lite.1.offset = some 0) →
      post.1.toSql =
        lite.1.toSql.map fun f => ⟨Text.replace f.sql "?" "%s", f.params⟩) ∧
    (∀ n, lite.1.limit = none → lite.1.offset = some n → n ≠ 0 →
      let front := { lite.1 with offset := none }.toSql
      lite.1.toSql = (do
        let front ← front
        let count ← Select.integerText n
        pure ⟨front.sql ++ " LIMIT -1" ++ " OFFSET " ++ count, front.params⟩) ∧
      post.1.toSql = (do
        let front ← front
        let count ← Select.integerText n
        pure ⟨Text.replace (front.sql ++ " OFFSET " ++ count) "?" "%s", front.params⟩)) ∧
    ∀ (function : Value) (column : Option Column), (∀ c, column = some c → c.path = []) →
      post.1.aggregateSql function column =
        (lite.1.aggregateSql function column).map fun f =>
          ⟨Text.replace f.sql "?" "%s", f.params⟩ := by
  have made : ((Select.new .sqlite).giveAll clauses).1.Made :=
    Select.Made.giveAll (.new .sqlite) clauses
  have dialect : ((Select.new .sqlite).giveAll clauses).1.dialect = .sqlite :=
    Select.giveAll_dialect _ clauses
  have run : (Select.new .postgresql).giveAll clauses =
      (((Select.new .sqlite).giveAll clauses).1.percentMarked,
        ((Select.new .sqlite).giveAll clauses).2) :=
    Select.giveAll_percent (s := Select.new .sqlite) rfl pathless
  intro lite post
  have same : post = (lite.1.percentMarked, lite.2) := run
  rw [same]
  refine ⟨rfl, ?ordinary, ?passing, ?reduced⟩
  case ordinary =>
    intro ordinary
    exact Select.toSql_percent made dialect (Select.offsetClause_percent ordinary)
  case passing =>
    intro n unlimited passes some_rows
    refine ⟨?_, Select.toSql_percent_offset made dialect unlimited passes some_rows⟩
    have statement := Select.toSql_offset unlimited passes some_rows
    rw [dialect] at statement
    exact statement
  case reduced =>
    intro function column pathless
    exact Select.aggregateSql_percent made dialect function pathless

namespace Sample

/-- A search for folders without a limit, one of its clauses refused. -/
def passingClauses : List Clause := [
  .table "folders",
  .test .and ⟨"name", none, []⟩ (.str "in") (.list [.str "inbox", .str "outbox"]),
  .opening "or",
  .test .and ⟨"name", some "folders", []⟩ (.str "startsWith") (.str "50%?"),
  .closing,
  .opening "xor",
  .offset (.int 3)]

end Sample

theorem dialects_agree_on_passing :
    (∀ clause ∈ Sample.passingClauses, clause.Pathless) ∧
    ((Select.new .sqlite).giveAll Sample.passingClauses).2 =
      [none, none, none, none, none, some (.misuse (.connector "XOR")), none] ∧
    ((Select.new .postgresql).giveAll Sample.passingClauses).2 =
      [none, none, none, none, none, some (.misuse (.connector "XOR")), none] ∧
    (((Select.new .postgresql).giveAll Sample.passingClauses).1.toSql.map (·.sql)).toOption =
      some ("SELECT * FROM \"folders\" WHERE \"name\" IN (%s, %s) OR " ++
        "(\"folders\".\"name\" LIKE %s ESCAPE '\\') OFFSET 3") := by
  have pathless : ∀ clause ∈ Sample.passingClauses, clause.Pathless := by
    simp [Sample.passingClauses, Clause.Pathless]
  have refused : ((Select.new .sqlite).giveAll Sample.passingClauses).2 =
      [none, none, none, none, none, some (.misuse (.connector "XOR")), none] := by rfl
  obtain ⟨failures, _, passing, _⟩ := dialects_agree Sample.passingClauses pathless
  obtain ⟨_, post⟩ := passing 3 (by rfl) (by rfl) (by decide)
  rw [Select.integerText_short (by decide +kernel)] at post
  refine ⟨pathless, refused, failures.trans refused, ?_⟩
  rw [post]
  decide +kernel

end Curator.Sql
