import Curator.Proofs.Database.Deletions
import Curator.Proofs.Sql.Refusals
import Curator.Proofs.Sql.Writing
/-!
# Writes as they are read

A write that is accepted is read as what it was made of, column by column: every placeholder stands
for the column whose value is bound there, tests for null are bound to nothing, and a row that is met
takes the columns of the new row that do not decide what is met.  The text is the same whatever the
values are.
-/

set_option autoImplicit false

namespace Curator

open Outcome

namespace Sql

/-! ## Texts -/

/-- A text that fills with values to what is read as given tokens and ends between tokens. -/
def Dialect.Puts (d : Dialect) (text : String) (params : List Value) (ts : List Token) : Prop :=
  ∃ pieces, d.Fills text.toList params pieces ∧ Closed pieces ts

/-- A text that fills with values to what is read as given tokens, the last of them maybe a word. -/
def Dialect.Ends (d : Dialect) (text : String) (params : List Value) (ts : List Token) : Prop :=
  ∃ pieces, d.Fills text.toList params pieces ∧ Reads pieces ts

section

variable {d : Dialect} {text first second : String} {params others : List Value}
  {ts us : List Token} {α : Type}

theorem Dialect.Puts.append (before : d.Puts first params ts) (after : d.Puts second others us) :
    d.Puts (first ++ second) (params ++ others) (ts ++ us) := by
  obtain ⟨pieces, fills, closed⟩ := before
  obtain ⟨more, fills_more, closed_more⟩ := after
  refine ⟨pieces ++ more, ?_, closed.append closed_more⟩
  rw [String.toList_append]
  exact fills.append fills_more

theorem Dialect.Puts.append_ends (before : d.Puts first params ts)
    (after : d.Ends second others us) : d.Ends (first ++ second) (params ++ others) (ts ++ us) := by
  obtain ⟨pieces, fills, closed⟩ := before
  obtain ⟨more, fills_more, reads⟩ := after
  refine ⟨pieces ++ more, ?_, closed.append_reads reads⟩
  rw [String.toList_append]
  exact fills.append fills_more

theorem Dialect.Puts.ends (puts : d.Puts text params ts) : d.Ends text params ts := by
  obtain ⟨pieces, fills, closed⟩ := puts
  exact ⟨pieces, fills, closed.reads⟩

/-- A statement that is read to its end. -/
theorem Dialect.Ends.tokens (ends : d.Ends text params ts) :
    Fragment.tokens d ⟨text, params⟩ = ts ∧ d.placeholders text = params.length := by
  obtain ⟨pieces, fills, reads⟩ := ends
  have filled : Fragment.filled d ⟨text, params⟩ = some pieces := fills.filled
  have length := placeholders_of_filled filled
  refine ⟨?_, length⟩
  rw [Fragment.tokens, filled]
  exact reads.tokens

theorem puts_text (clear : text.toList.all (fun c => c != '?' && c != '%') = true)
    (closed : Closed (Piece.ofText text.toList) ts) : d.Puts text [] ts :=
  ⟨_, Dialect.fills_clear (Dialect.clear_text clear), closed⟩

/-- A text that ends in a word. -/
theorem ends_text (clear : text.toList.all (fun c => c != '?' && c != '%') = true)
    {word : List Char}
    (run : Lexer.run ⟨[], .nothing⟩ (Piece.ofText text.toList) = ⟨ts, .word word⟩) :
    d.Ends text [] (ts ++ [.word word]) :=
  ⟨_, Dialect.fills_clear (Dialect.clear_text clear), reads_of_run run⟩

theorem puts_name {name : String} (valid : Text.isIdentifier name = true) :
    d.Puts (quoted name) [] [nameToken name] :=
  ⟨_, Dialect.fills_clear (Dialect.clear_expression
    (isExpression_quoted (isExpression_identifier valid))), closed_name valid⟩

theorem puts_mark (v : Value) : d.Puts d.placeholder [v] [.value v] :=
  ⟨_, Dialect.fills_mark v, closed_value v⟩

/-- Items with commas between them. -/
theorem puts_items {items : List α} {item : α → String} {bound : α → List Value}
    {tokens : α → List Token} (puts : ∀ a ∈ items, d.Puts (item a) (bound a) (tokens a)) :
    d.Puts (Text.join ", " (items.map item)) (items.flatMap bound)
      (itemTokens (items.map tokens)) := by
  have comma : d.Puts ", " [] [.sign ','] := puts_text (by decide) (closed_of_run rfl)
  induction items with
  | nil => exact ⟨[], Dialect.fills_nil, closed_nil⟩
  | cons a rest ih =>
    obtain ⟨own, later⟩ := List.forall_mem_cons.mp puts
    cases rest with
    | nil =>
      rw [List.flatMap_singleton, itemTokens, List.map_singleton, List.map_singleton,
        List.intercalate_singleton]
      exact own
    | cons b more =>
      have whole := (own.append comma).append (ih later)
      rw [List.append_nil] at whole
      rw [List.flatMap_cons, List.map_cons, List.map_cons, Text.join_cons_cons, itemTokens,
        List.map_cons, List.map_cons, List.intercalate_cons_cons]
      exact whole

/-- Items without values. -/
theorem puts_plainItems {items : List α} {item : α → String} {tokens : α → List Token}
    (puts : ∀ a ∈ items, d.Puts (item a) [] (tokens a)) :
    d.Puts (Text.join ", " (items.map item)) [] (itemTokens (items.map tokens)) := by
  have bare : (items.flatMap fun _ => ([] : List Value)) = [] :=
    List.flatMap_eq_nil_iff.mpr fun _ _ => rfl
  rw [← bare]
  exact puts_items puts

theorem Dialect.Puts.inParentheses (inside : d.Puts text params ts) :
    d.Puts ("(" ++ text ++ ")") params (wrapped ts) := by
  have opening : d.Puts "(" [] [.sign '('] := puts_text (by decide) (closed_of_run rfl)
  have ending : d.Puts ")" [] [.sign ')'] := puts_text (by decide) (closed_of_run rfl)
  have whole := (opening.append inside).append ending
  rw [List.nil_append, List.append_nil] at whole
  exact whole

theorem puts_names {names : List String} (valid : ∀ name ∈ names, Text.isIdentifier name = true) :
    d.Puts ("(" ++ Text.join ", " (names.map quoted) ++ ")") [] (namesTokens names) :=
  (puts_plainItems fun name member => puts_name (valid name member)).inParentheses

theorem puts_bound (values : List Value) :
    d.Puts ("(" ++ Text.join ", " (values.map fun _ => d.placeholder) ++ ")") values
      (boundTokens values) := by
  have marks : d.Puts (Text.join ", " (values.map fun _ => d.placeholder))
      (values.flatMap fun v => [v]) (itemTokens (values.map fun v => [.value v])) :=
    puts_items fun v _ => puts_mark v
  rw [List.flatMap_singleton'] at marks
  exact marks.inParentheses

theorem puts_assigned {column : String} (valid : Text.isIdentifier column = true) (v : Value) :
    d.Puts (quoted column ++ " = " ++ d.placeholder) [v] (assignedTokens (column, v)) := by
  have sign : d.Puts " = " [] [.sign '='] := puts_text (by decide) (closed_of_run rfl)
  exact ((puts_name valid).append sign).append (puts_mark v)

theorem puts_taken {column : String} (valid : Text.isIdentifier column = true) :
    d.Puts (quoted column ++ " = excluded." ++ quoted column) []
      (takenTokens (column, column)) := by
  have row : d.Puts " = excluded." [] [.sign '=', .word "excluded".toList, .sign '.'] :=
    puts_text (by decide) (closed_of_run rfl)
  exact ((puts_name valid).append row).append (puts_name valid)

theorem puts_allTaken {names : List String}
    (valid : ∀ name ∈ names, Text.isIdentifier name = true) :
    d.Puts (Text.join ", " (names.map fun name => quoted name ++ " = excluded." ++ quoted name)) []
      (itemTokens ((names.map fun name => (name, name)).map takenTokens)) := by
  rw [List.map_map]
  exact puts_plainItems fun name member => puts_taken (valid name member)

/-- The word between tests may stand behind a word. -/
theorem Dialect.Ends.append_and (before : d.Ends first params ts)
    (after : d.Ends second others us) :
    d.Ends (first ++ " AND " ++ second) (params ++ others) (ts ++ Connector.and.token :: us) := by
  obtain ⟨pieces, fills, reads⟩ := before
  obtain ⟨more, fills_more, reads_more⟩ := after
  have between : Closed (Piece.ofText " AND ".toList) [Connector.and.token] := closed_of_run rfl
  have breaks : Breaks (Piece.ofText " AND ".toList ++ more) := Or.inr ⟨' ', _, rfl, rfl⟩
  have clear : d.Fills " AND ".toList [] (Piece.ofText " AND ".toList) :=
    Dialect.fills_clear (Dialect.clear_text (by decide))
  refine ⟨pieces ++ (Piece.ofText " AND ".toList ++ more), ?_,
    reads.append (between.append_reads reads_more) breaks⟩
  rw [String.toList_append, String.toList_append, List.append_assoc]
  exact fills.append (clear.append fills_more)

/-- Tests with AND between them. -/
theorem ends_tests {items : List α} {item : α → String} {bound : α → List Value}
    {tokens : α → List Token} (ends : ∀ a ∈ items, d.Ends (item a) (bound a) (tokens a)) :
    d.Ends (Text.join " AND " (items.map item)) (items.flatMap bound)
      (joinTokens .and (items.map tokens)) := by
  induction items with
  | nil => exact ⟨[], Dialect.fills_nil, closed_nil.reads⟩
  | cons a rest ih =>
    obtain ⟨own, later⟩ := List.forall_mem_cons.mp ends
    cases rest with
    | nil =>
      rw [List.flatMap_singleton]
      exact own
    | cons b more =>
      rw [List.flatMap_cons, List.map_cons, List.map_cons, Text.join_cons_cons]
      exact own.append_and (ih later)

end

/-! ## What is written -/

/-- What an insert does where its row meets another: the columns that do not decide this take their
values from the new row, and the row stays as it is where there are none. -/
def OnConflict.clash (fields : Record) : OnConflict → Clash
  | .fail => .fails
  | .overwrite target =>
    let others := fields.keys.filter fun column => !target.contains column
    if others.isEmpty then .keeps target
    else .takes target (others.map fun column => (column, column))

/-- What a column is tested for: its value, or null. -/
def testOf (entry : String × Value) : String × Option Value :=
  (entry.1, if entry.2.isNull then none else some entry.2)

def testsOf (filter : Record) : List (String × Option Value) := filter.map testOf

/-- The columns of a mapping, and which of them are null. -/
def outline (filter : Record) : List (String × Bool) :=
  filter.map fun entry => (entry.1, entry.2.isNull)

/-- What an insert needs. -/
structure Insertable (table : String) (fields : Record) (onConflict : OnConflict) : Prop where
  table : Text.isIdentifier table = true
  columns : ∀ column ∈ fields.keys, Text.isIdentifier column = true
  target : ∀ columns, onConflict = .overwrite columns →
    columns ≠ [] ∧ ∀ column ∈ columns, Text.isIdentifier column = true

/-- What an update by the values of columns needs. -/
structure UpdatableBy (table : String) (fields filter : Record) : Prop where
  table : Text.isIdentifier table = true
  columns : ∀ column ∈ fields.keys, Text.isIdentifier column = true
  tests : ∀ column ∈ filter.keys, Text.isIdentifier column = true

/-- A statement that is read as a write: it has a value for every placeholder, in the order of the
write, and with the values in place of the placeholders every column has the value it has there. -/
structure Fragment.LinesUp (d : Dialect) (f : Fragment) (w : Write) : Prop where
  placeholders : d.placeholders f.sql = f.params.length
  params : f.params = w.values
  read : readWrite? (f.tokens d) = some w

def conflictText (fields : Record) : OnConflict → String
  | .fail => ""
  | .overwrite target =>
    let others := fields.keys.filter fun column => !target.contains column
    " ON CONFLICT " ++ ("(" ++ Text.join ", " (target.map quoted) ++ ")") ++ " DO " ++
      if others.isEmpty then "NOTHING"
      else "UPDATE SET " ++
        Text.join ", " (others.map fun column => quoted column ++ " = excluded." ++ quoted column)

/-- The test of a column, for null or not. -/
def testText (d : Dialect) : String × Bool → String
  | (column, true) => quoted column ++ " IS NULL"
  | (column, false) => quoted column ++ " = " ++ d.placeholder

def testsText (d : Dialect) (tests : List (String × Bool)) : String :=
  if tests.isEmpty then "" else " WHERE " ++ Text.join " AND " (tests.map (testText d))

section

variable {d : Dialect} {f : Fragment} {table column : String} {fields filter : Record}
  {onConflict : OnConflict} {names : List String}

theorem quoteAll_of (valid : ∀ name ∈ names, Text.isIdentifier name = true) :
    quoteAll names = .ok (names.map quoted) := by
  obtain ⟨texts, ok⟩ := ok_of_never (quoteAll_fails valid)
  rw [ok, (quoteAll_ok ok).1]

theorem quote_of (valid : Text.isIdentifier column = true) : quote column = .ok (quoted column) :=
  if_pos valid

theorem insertable_of_ok (ok : insertSql d table fields onConflict = .ok f) :
    Insertable table fields onConflict := by
  obtain ⟨columns, quotes, ok⟩ := bind_ok ok
  obtain ⟨name, named, ok⟩ := bind_ok ok
  refine ⟨(quote_ok named).1, (quoteAll_ok quotes).2, ?_⟩
  rintro target rfl
  cases target with
  | nil => cases ok
  | cons first others =>
    obtain ⟨clause, upsert, _⟩ := bind_ok ok
    obtain ⟨targets, quotes, _⟩ := bind_ok upsert
    exact ⟨List.cons_ne_nil first others, (quoteAll_ok quotes).2⟩

theorem upsertClause_of (target : ∀ column ∈ names, Text.isIdentifier column = true)
    (valid : ∀ column ∈ fields.keys, Text.isIdentifier column = true) :
    upsertClause names (fields.keys.filter fun column => !names.contains column) =
      .ok (conflictText fields (.overwrite names)) := by
  have others : ∀ column ∈ fields.keys.filter fun column => !names.contains column,
      Text.isIdentifier column = true := fun column member =>
    valid column (List.mem_of_mem_filter member)
  unfold upsertClause conflictText
  rw [quoteAll_of target, ok_bind]
  simp only
  split
  · simp only [String.append_assoc]
    rfl
  · rw [quoteAll_of others, ok_bind, List.map_map]
    simp only [String.append_assoc]
    rfl

theorem insertSql_of (may : Insertable table fields onConflict) :
    insertSql d table fields onConflict =
      .ok ⟨insertHead d table fields ++ conflictText fields onConflict, fields.map (·.2)⟩ := by
  unfold insertSql
  rw [quoteAll_of may.columns, ok_bind, quote_of may.table, ok_bind]
  cases onConflict with
  | fail =>
    have none : conflictText fields .fail = "" := rfl
    rw [none, String.append_empty]
    rfl
  | overwrite target =>
    obtain ⟨some_column, valid⟩ := may.target target rfl
    obtain ⟨first, others, rfl⟩ := List.exists_cons_of_ne_nil some_column
    simp only [upsertClause_of valid may.columns, ok_bind]
    rfl

theorem keyTest_eq (column : String) (v : Value) :
    keyTest d column v = ⟨testText d (column, v.isNull), (testOf (column, v)).2.toList⟩ := by
  rw [keyTest, testOf]
  cases v.isNull with
  | true => rfl
  | false => rfl

theorem testsOf_values (filter : Record) :
    (testsOf filter).filterMap (·.2) = filter.flatMap fun entry => (testOf entry).2.toList := by
  rw [List.filterMap_eq_flatMap_toList, testsOf, List.flatMap_map]

theorem whereEquals_eq (valid : ∀ column ∈ filter.keys, Text.isIdentifier column = true) :
    whereEquals d filter =
      .ok ⟨testsText d (outline filter), (testsOf filter).filterMap (·.2)⟩ := by
  have parts : ∀ test : String × Value → Fragment, (∀ entry, test entry = keyTest d entry.1 entry.2) →
      filter.map test =
        filter.map fun entry => ⟨testText d (entry.1, entry.2.isNull), (testOf entry).2.toList⟩ :=
    fun test same => List.map_congr_left fun entry _ => (same entry).trans (keyTest_eq _ _)
  unfold whereEquals
  cases filter with
  | nil => rfl
  | cons entry rest =>
    rw [mapM_equality valid, parts _ fun _ => rfl, testsOf_values]
    simp only [List.isEmpty_cons, Bool.false_eq_true, if_false, ok_bind, List.map_map,
      List.flatMap_map]
    rw [testsText, outline, List.map_map]
    rfl

theorem updateSql_of (may : UpdatableBy table fields filter) :
    updateSql d table fields filter = .ok ⟨"UPDATE " ++ quoted table ++ " SET " ++
      Text.join ", " (fields.keys.map fun column => quoted column ++ " = " ++ d.placeholder) ++
      testsText d (outline filter), fields.map (·.2) ++ (testsOf filter).filterMap (·.2)⟩ := by
  unfold updateSql
  rw [quoteAll_of may.columns, ok_bind]
  simp only [whereEquals_eq may.tests, ok_bind, quote_of may.table, List.map_map]
  rfl

theorem updatableBy_of_ok (ok : updateSql d table fields filter = .ok f) :
    UpdatableBy table fields filter := by
  obtain ⟨columns, quotes, ok⟩ := bind_ok ok
  obtain ⟨condition, filtered, ok⟩ := bind_ok ok
  obtain ⟨name, named, _⟩ := bind_ok ok
  refine ⟨(quote_ok named).1, (quoteAll_ok quotes).2, ?_⟩
  unfold whereEquals at filtered
  split at filtered
  · rename_i empty
    rw [List.isEmpty_iff.mp empty]
    exact nofun
  · obtain ⟨parts, mapped, _⟩ := bind_ok filtered
    exact columns_of_mapM mapped

theorem deleteSql_eq (may : DeletableBy table filter) :
    deleteSql d table filter = .ok ⟨"DELETE FROM " ++ quoted table ++ testsText d (outline filter),
      (testsOf filter).filterMap (·.2)⟩ := by
  have given : filter.isEmpty = false := by simpa using may.some_value
  unfold deleteSql
  simp only [given, Bool.false_eq_true, if_false, whereEquals_eq may.columns, ok_bind,
    quote_of may.table]
  rfl

/-! ## Writes that line up -/

theorem ends_test (valid : Text.isIdentifier column = true) (v : Value) :
    d.Ends (testText d (column, v.isNull)) (testOf (column, v)).2.toList
      (testTokens (testOf (column, v))) := by
  rw [testOf]
  cases v.isNull with
  | false => exact (puts_assigned valid v).ends
  | true =>
    have null : d.Ends " IS NULL" [] ([.word "IS".toList] ++ [.word "NULL".toList]) :=
      ends_text (by decide) rfl
    exact (puts_name valid).append_ends null

theorem ends_testsText (valid : ∀ column ∈ filter.keys, Text.isIdentifier column = true) :
    d.Ends (testsText d (outline filter)) ((testsOf filter).filterMap (·.2))
      (testsTokens (testsOf filter)) := by
  rw [testsOf_values]
  cases filter with
  | nil => exact ⟨[], Dialect.fills_nil, closed_nil.reads⟩
  | cons entry rest =>
    have word : d.Puts " WHERE " [] (wordTokens ["WHERE"]) :=
      puts_text (by decide) (closed_of_run rfl)
    have tests : d.Ends
        (Text.join " AND " ((entry :: rest).map fun entry => testText d (entry.1, entry.2.isNull)))
        ((entry :: rest).flatMap fun entry => (testOf entry).2.toList)
        (joinTokens .and ((entry :: rest).map fun entry => testTokens (testOf entry))) :=
      ends_tests fun entry member => ends_test (valid entry.1 (List.mem_map_of_mem member)) entry.2
    have whole := word.append_ends tests
    rw [List.nil_append] at whole
    simp only [testsText, outline, testsTokens, testsOf, List.map_map]
    exact whole

theorem ends_conflictText (may : Insertable table fields onConflict) :
    d.Ends (conflictText fields onConflict) [] (onConflict.clash fields).tokens := by
  cases onConflict with
  | fail => exact ⟨[], Dialect.fills_nil, closed_nil.reads⟩
  | overwrite target =>
    have head : d.Puts " ON CONFLICT " [] (wordTokens ["ON", "CONFLICT"]) :=
      puts_text (by decide) (closed_of_run rfl)
    have names := puts_names (d := d) (may.target target rfl).2
    have action : d.Puts " DO " [] (wordTokens ["DO"]) := puts_text (by decide) (closed_of_run rfl)
    have front := (head.append names).append action
    unfold conflictText OnConflict.clash
    simp only
    split
    · have nothing : d.Ends "NOTHING" [] ([] ++ [.word "NOTHING".toList]) :=
        ends_text (by decide) rfl
      have whole := front.append_ends nothing
      simp only [List.append_assoc] at whole
      exact whole
    · have sets : d.Puts "UPDATE SET " [] (wordTokens ["UPDATE", "SET"]) :=
        puts_text (by decide) (closed_of_run rfl)
      have others : ∀ column ∈ fields.keys.filter fun column => !target.contains column,
          Text.isIdentifier column = true := fun column member =>
        may.columns column (List.mem_of_mem_filter member)
      have taken := puts_allTaken (d := d) others
      have whole := (front.append (sets.append taken)).ends
      simp only [List.append_assoc] at whole
      simp only [Clash.tokens]
      exact whole

/-- A text that is read as the tokens of a write lines up with it. -/
theorem Dialect.Ends.linesUp {text : String} {w : Write} (ends : d.Ends text w.values w.tokens) :
    Fragment.LinesUp d ⟨text, w.values⟩ w where
  placeholders := ends.tokens.2
  params := rfl
  read := by rw [ends.tokens.1, readWrite?_tokens]

theorem linesUp_insert (ok : insertSql d table fields onConflict = .ok f) :
    f.LinesUp d (.insert table fields (onConflict.clash fields)) := by
  have may := insertable_of_ok ok
  rw [insertSql_of may] at ok
  cases ok
  have head : d.Puts "INSERT INTO " [] (wordTokens ["INSERT", "INTO"]) :=
    puts_text (by decide) (closed_of_run rfl)
  have blank : d.Puts " " [] [] := puts_text (by decide) (closed_of_run rfl)
  have middle : d.Puts " VALUES " [] (wordTokens ["VALUES"]) :=
    puts_text (by decide) (closed_of_run rfl)
  have columns := ((head.append (puts_name may.table)).append blank).append (puts_names may.columns)
  have values := (columns.append middle).append (puts_bound (fields.map (·.2)))
  have whole := values.append_ends (ends_conflictText may)
  have opening : " (" = " " ++ "(" := rfl
  have between : ") VALUES (" = ")" ++ (" VALUES " ++ "(") := rfl
  have marks : ((fields.map (·.2)).map fun _ => d.placeholder) = fields.map fun _ => d.placeholder :=
    List.map_map
  have text : insertHead d table fields = "INSERT INTO " ++ quoted table ++ " " ++
      ("(" ++ Text.join ", " (fields.keys.map quoted) ++ ")") ++ " VALUES " ++
      ("(" ++ Text.join ", " ((fields.map (·.2)).map fun _ => d.placeholder) ++ ")") := by
    unfold insertHead
    rw [opening, between, marks]
    simp only [String.append_assoc]
  rw [← text] at whole
  simp only [List.nil_append, List.append_nil, List.append_assoc, List.cons_append] at whole
  exact whole.linesUp (w := .insert table fields (onConflict.clash fields))

theorem linesUp_update (ok : updateSql d table fields filter = .ok f) :
    f.LinesUp d (.update table fields (testsOf filter)) := by
  have may := updatableBy_of_ok ok
  rw [updateSql_of may] at ok
  cases ok
  have head : d.Puts "UPDATE " [] (wordTokens ["UPDATE"]) :=
    puts_text (by decide) (closed_of_run rfl)
  have sets : d.Puts " SET " [] (wordTokens ["SET"]) := puts_text (by decide) (closed_of_run rfl)
  have assigned : d.Puts
      (Text.join ", " (fields.map fun entry => quoted entry.1 ++ " = " ++ d.placeholder))
      (fields.flatMap fun entry => [entry.2]) (itemTokens (fields.map assignedTokens)) :=
    puts_items fun entry member =>
      puts_assigned (may.columns entry.1 (List.mem_map_of_mem member)) entry.2
  have front := ((head.append (puts_name may.table)).append sets).append assigned
  have whole := front.append_ends (ends_testsText may.tests)
  have bound : (fields.flatMap fun entry => [entry.2]) = fields.map (·.2) :=
    List.flatMap_pure_eq_map _ _
  have columns : (fields.keys.map fun column => quoted column ++ " = " ++ d.placeholder) =
      fields.map fun entry => quoted entry.1 ++ " = " ++ d.placeholder := List.map_map
  rw [bound] at whole
  rw [columns]
  simp only [List.nil_append, List.append_assoc, List.singleton_append] at whole
  exact whole.linesUp (w := .update table fields (testsOf filter))

theorem linesUp_delete (ok : deleteSql d table filter = .ok f) :
    f.LinesUp d (.delete table (testsOf filter)) := by
  have may := deletableBy_of_ok ok
  rw [deleteSql_eq may] at ok
  cases ok
  have head : d.Puts "DELETE FROM " [] (wordTokens ["DELETE", "FROM"]) :=
    puts_text (by decide) (closed_of_run rfl)
  have whole := (head.append (puts_name may.table)).append_ends (ends_testsText may.columns)
  simp only [List.nil_append, List.append_assoc, List.singleton_append] at whole
  exact whole.linesUp (w := .delete table (testsOf filter))

/-! ## Texts without values -/

variable {others tests : Record} {g : Fragment}

theorem insertSql_text (same : others.keys = fields.keys)
    (ok : insertSql d table fields onConflict = .ok f)
    (other : insertSql d table others onConflict = .ok g) : g.sql = f.sql := by
  rw [insertSql_of (insertable_of_ok ok)] at ok
  rw [insertSql_of (insertable_of_ok other)] at other
  cases ok
  cases other
  have marks : ∀ row : Record, (row.map fun _ => d.placeholder) =
      row.keys.map fun _ => d.placeholder := by
    intro row
    rw [Mapping.keys, List.map_map]
    rfl
  have head : insertHead d table others = insertHead d table fields := by
    unfold insertHead
    rw [marks, marks, same]
  have conflict : conflictText others onConflict = conflictText fields onConflict := by
    unfold conflictText
    rw [same]
  rw [head, conflict]

theorem updateSql_text (same : others.keys = fields.keys) (alike : outline tests = outline filter)
    (ok : updateSql d table fields filter = .ok f)
    (other : updateSql d table others tests = .ok g) : g.sql = f.sql := by
  rw [updateSql_of (updatableBy_of_ok ok)] at ok
  rw [updateSql_of (updatableBy_of_ok other)] at other
  cases ok
  cases other
  simp only [same, alike]

theorem deleteSql_text (alike : outline tests = outline filter)
    (ok : deleteSql d table filter = .ok f) (other : deleteSql d table tests = .ok g) :
    g.sql = f.sql := by
  rw [deleteSql_eq (deletableBy_of_ok ok)] at ok
  rw [deleteSql_eq (deletableBy_of_ok other)] at other
  cases ok
  cases other
  simp only [alike]

end

end Sql

open Sql

/-- The columns of a write take the values that they are given.  An insert is made exactly if its
names are identifiers and, where it overwrites, there are columns that decide what it meets.  An update
that has fields is sent exactly if there is a connection and its names are identifiers, a deletion
exactly if there is a value to delete by as well.  Each has a placeholder for every value, and read
with the values in place it is the write that was asked for.  An insert gives every field its value, in
order; where it meets a row, all columns but the deciding ones take those of the new row, or nothing
is done if there are none.  An update gives every field its value and tests, as a deletion does, the
columns of the filter in order, for null where they are null and without a value.  The text depends on
the names and on which tests are for null, and no value is in it. -/
theorem writes_line_up (s : SessionState) (table : String) (fields filter : Record)
    (onConflict : OnConflict) :
    let d := s.database.dialect
    ((∃ f, insertSql d table fields onConflict = .ok f) ↔ Insertable table fields onConflict) ∧
    (∀ f, insertSql d table fields onConflict = .ok f →
      f.LinesUp d (.insert table fields (onConflict.clash fields)) ∧
      ∀ others g, others.keys = fields.keys →
        insertSql d table others onConflict = .ok g → g.sql = f.sql) ∧
    (fields = [] → Session.update table fields filter s = ⟨.ok 0, s, []⟩) ∧
    (fields ≠ [] → (Session.update table fields filter s).SendsOne s
      (s.database.pending ≠ none ∧ UpdatableBy table fields filter)
      (fun f => f.LinesUp d (.update table fields (testsOf filter)) ∧
        ∀ others tests g, others.keys = fields.keys → outline tests = outline filter →
          updateSql d table others tests = .ok g → g.sql = f.sql)) ∧
    (Session.delete table filter s).SendsOne s
      (s.database.pending ≠ none ∧ DeletableBy table filter)
      (fun f => f.LinesUp d (.delete table (testsOf filter)) ∧
        ∀ tests g, outline tests = outline filter →
          deleteSql d table tests = .ok g → g.sql = f.sql) := by
  intro d
  have deletes : Session.delete table filter s =
      (Session.of (deleteSql d table filter) >>= Session.write) s := rfl
  refine ⟨⟨fun ⟨f, ok⟩ => insertable_of_ok ok, fun may => ⟨_, insertSql_of may⟩⟩,
    fun f ok => ⟨linesUp_insert ok, fun others g same other => insertSql_text same ok other⟩,
    ?_, ?_, deletes ▸ Session.sendsOne_write ?_ ?_⟩
  · rintro rfl
    rfl
  · intro some_field
    have updates : Session.update table fields filter s =
        (Session.of (updateSql d table fields filter) >>= Session.write) s := by
      have given : fields.isEmpty = false := by simpa using some_field
      rw [Session.update, given]
      rfl
    rw [updates]
    refine Session.sendsOne_write ?_ ?_
    · rintro ⟨connected, may⟩
      have ok := updateSql_of (d := d) may
      exact ⟨connected, _, ok, linesUp_update ok,
        fun others tests g same alike other => updateSql_text same alike ok other⟩
    · exact fun f ok connected => ⟨connected, updatableBy_of_ok ok⟩
  · rintro ⟨connected, may⟩
    have ok := deleteSql_eq (d := d) may
    exact ⟨connected, _, ok, linesUp_delete ok,
      fun tests g alike other => deleteSql_text alike ok other⟩
  · exact fun f ok connected => ⟨connected, deletableBy_of_ok ok⟩

namespace Sample

/-- A folder without a parent. -/
def folderRow : Record := [("id", .int 1), ("title", .str "Letters"), ("parent", .null)]

theorem folder_writes_line_up :
    (∃ f, insertSql .sqlite "folders" folderRow (.overwrite ["id"]) = .ok f ∧
      f.params = [.int 1, .str "Letters", .null] ∧
      readWrite? (f.tokens .sqlite) = some (.insert "folders" folderRow
        (.takes ["id"] [("title", "title"), ("parent", "parent")]))) ∧
    ∃ f, statements (Session.update "folders" folderRow [("parent", .null), ("id", .int 2)]
        folderState).entries = [f] ∧
      f.params = [.int 1, .str "Letters", .null, .int 2] ∧
      readWrite? (f.tokens .sqlite) = some (.update "folders" folderRow
        [("parent", none), ("id", some (.int 2))]) := by
  obtain ⟨inserts, lines_up, _, update, _⟩ :=
    writes_line_up folderState "folders" folderRow [("parent", .null), ("id", .int 2)]
      (.overwrite ["id"])
  constructor
  · obtain ⟨f, ok⟩ := inserts.mpr ⟨by decide, by decide, by rintro _ ⟨⟩; decide⟩
    obtain ⟨lined, _⟩ := lines_up f ok
    exact ⟨f, ok, lined.params, lined.read⟩
  · obtain ⟨f, sent, lined, _⟩ :=
      (update (by decide)).sent ⟨nofun, by decide, by decide, by decide⟩
    exact ⟨f, sent, lined.params, lined.read⟩

end Sample

end Curator
