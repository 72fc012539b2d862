import Curator.Proofs.Model.Walking
/-!
# Rows before a cursor

A request for the rows before a cursor keeps the ascending order, so that its limit counts from the
first row of all and not back from the cursor.
-/

set_option autoImplicit false

namespace Curator

open Sql Outcome

section

variable {Row : Type} {number : Row → Int}

/-- Of ascending rows the first few are the last few only if there are no more. -/
theorem take_eq_drop_iff {rows : List Row} {n : Nat} (positive : 1 ≤ n)
    (ascending : rows.Pairwise fun a b => number a < number b) :
    rows.take n = rows.drop (rows.length - n) ↔ rows.length ≤ n := by
  constructor
  · intro same
    by_contra more
    obtain ⟨first, rest, rfl⟩ := List.exists_cons_of_length_pos (l := rows) (by omega)
    obtain ⟨least, _⟩ := List.pairwise_cons.mp ascending
    obtain ⟨skipped, counted⟩ :=
      Nat.exists_eq_add_of_lt (show 0 < (first :: rest).length - n by omega)
    have inside : first ∈ rest := by
      have member : first ∈ (first :: rest).take n := by
        rw [List.take_cons (by omega)]
        exact List.mem_cons_self
      rw [same, counted, Nat.zero_add, List.drop_succ_cons] at member
      exact List.mem_of_mem_drop member
    exact absurd (least first inside) (Int.lt_irrefl _)
  · intro few
    rw [List.take_of_length_le few, Nat.sub_eq_zero_of_le few, List.drop_zero]

end

section

variable {Row : Type} {setting : Plan.Setting} {schema : Schema} {trashed : TrashedMode}
  {sight : Sight Row} {table : List Row} {request : Record} {spec : Spec} {plan : Plan}
  {limit c : Int} {number : Row → Int}

/-- Rows below a cursor, by ascending cursors. -/
structure Below (plan : Plan) (sight : Sight Row) (table : List Row) (number : Row → Int) (c : Int)
    (below : List Row) : Prop where
  perm : below.Perm (table.filter fun row => plan.keeps sight row && decide (number row < c))
  ascending : below.Pairwise fun a b => number a < number b

theorem exists_below (distinct : (table.map number).Nodup) :
    ∃ below, Below plan sight table number c below := by
  have apart : ((table.filter fun row =>
      plan.keeps sight row && decide (number row < c)).map number).Nodup :=
    distinct.sublist (List.filter_sublist.map number)
  obtain ⟨below, perm, ascending⟩ := exists_ascending apart
  exact ⟨below, perm, ascending⟩

/-- The plan with a cursor that rows must be below is answered with the first of those rows. -/
theorem Below.answers_iff {below : List Row} (rowsBelow : Below plan sight table number c below)
    (declared : schema.Declared) (registered : setting.registry.Declared) (first : spec.page = 1)
    (order : spec.sort = [schema.cursorField] ∨
      spec.sort = [] ∧ schema.cursorField = schema.primaryKey)
    (compiled : Plan.compile setting schema spec trashed false [] = .ok plan)
    (limited : plan.limit = some limit)
    (numbered : ∀ row ∈ table,
      sight.value row ⟨schema.cursorField, some schema.table, []⟩ = .int (number row))
    (rows : List Row) :
    (plan.narrowed ⟨schema.cursorField, some schema.table, []⟩ .lt (.int c)).Answers sight table
      rows ↔ rows = below.take limit.toNat := by
  have uniform := Plan.compile_uniform declared registered compiled
  have kept : table.filter ((plan.narrowed ⟨schema.cursorField, some schema.table, []⟩ .lt
      (.int c)).keeps sight) =
      table.filter fun row => plan.keeps sight row && decide (number row < c) := by
    apply List.filter_congr
    intro row member
    exact Plan.keeps_narrowed_below uniform sight (numbered row member) c
  refine answers_of_compiled declared.checked first order compiled limited numbered rfl rfl rfl ?_
    rowsBelow.ascending
  rw [kept]
  exact rowsBelow.perm

end

/-- Paging back from a cursor shows the first rows of all and not the page before the cursor.  The
request, in the order of the cursor field and with a limit of one row or more, is read and has a plan;
over a table whose cursors are different integers it is answered with the first of the rows below the
cursor, in ascending order.  Those are the preceding page, the rows with the largest cursors below it,
exactly if no more rows are below the cursor than the limit allows. -/
theorem before_shows_first_rows {Row : Type} {setting : Plan.Setting} {schema : Schema}
    {trashed : TrashedMode} {sight : Sight Row} {table : List Row} {request : Record} {spec : Spec}
    {plan : Plan} {limit c : Int} {number : Row → Int} {token : String} (declared : schema.Declared)
    (registered : setting.registry.Declared) (noPage : request.value? "page" = none)
    (noBefore : request.value? "before" = none) (noAfter : request.value? "after" = none)
    (read : Spec.ofEntries request = .ok spec)
    (order : spec.sort = [schema.cursorField] ∨
      spec.sort = [] ∧ schema.cursorField = schema.primaryKey)
    (compiled : Plan.compile setting schema spec trashed false [] = .ok plan)
    (limited : plan.limit = some limit) (positive : 1 ≤ limit)
    (numbered : ∀ row ∈ table,
      sight.value row ⟨schema.cursorField, some schema.table, []⟩ = .int (number row))
    (distinct : (table.map number).Nodup) (encoded : Cursor.encode (.int c) = .ok token) :
    ∃ here page, Spec.ofEntries (request.put "before" (.str token)) = .ok here ∧
      Plan.compile setting schema here trashed false [] = .ok page ∧
      ∃ below, Below plan sight table number c below ∧
        (∀ rows, page.Answers sight table rows ↔ rows = below.take limit.toNat) ∧
        (page.Answers sight table (below.drop (below.length - limit.toNat)) ↔
          below.length ≤ limit.toNat) := by
  obtain ⟨method, first⟩ := Spec.ofEntries_first noPage noBefore noAfter read
  have planned := Plan.compile_preceding method first (Cursor.decode_encode encoded) compiled
  obtain ⟨below, rowsBelow⟩ : ∃ below, Below plan sight table number c below :=
    exists_below distinct
  have answers := rowsBelow.answers_iff declared registered first order compiled limited numbered
  refine ⟨_, _, Spec.ofEntries_preceding token noPage noAfter read, planned, below, rowsBelow,
    answers, ?_⟩
  rw [answers, eq_comm]
  exact take_eq_drop_iff (by omega) rowsBelow.ascending

namespace Sample

/-- Folders two by two. -/
def folderPairs : Record := [("limit", .int 2)]

/-- With two folders before the cursor, a page of two shows both. -/
theorem folders_before_three : ∃ token here page, Cursor.encode (.int 3) = .ok token ∧
    Spec.ofEntries (folderPairs.put "before" (.str token)) = .ok here ∧
    Plan.compile folderSetting folderSchema here .exclude false [] = .ok page ∧
    page.Answers numberSight [3, 1, 2] [1, 2] := by
  have distinct : ([3, 1, 2].map (fun row : Int => row)).Nodup := by decide
  have short : Number.withinDigitLimit 3 = true := by decide +kernel
  obtain ⟨token, encoded⟩ := Cursor.exists_token short
  obtain ⟨here, page, read, planned, below, rowsBelow, answers, _⟩ :=
    @before_shows_first_rows Int folderSetting folderSchema .exclude numberSight [3, 1, 2]
      folderPairs _ _ 2 3 (fun row => row) token folder_declared folderRegistry_declared rfl rfl rfl
      rfl (Or.inr ⟨rfl, rfl⟩) rfl rfl (by decide) (fun row _ => rfl) distinct encoded
  have rows : below = [1, 2] := by
    have others : below.Perm [1, 2] := rowsBelow.perm.trans (by decide +kernel)
    apply others.eq_of_pairwise _ rowsBelow.ascending (by decide)
    intro a b _ _ less more
    omega
  subst rows
  exact ⟨token, here, page, encoded, read, planned, (answers _).mpr rfl⟩

/-- Of folders 1, 2 and 3 the two before 4 are said to be 1 and 2, and not 2 and 3. -/
theorem last_folder_not_before_four : ∃ token here page, Cursor.encode (.int 4) = .ok token ∧
    Spec.ofEntries (folderPairs.put "before" (.str token)) = .ok here ∧
    Plan.compile folderSetting folderSchema here .exclude false [] = .ok page ∧
    page.Answers numberSight [3, 1, 2] [1, 2] ∧ ¬ page.Answers numberSight [3, 1, 2] [2, 3] := by
  have short : Number.withinDigitLimit 4 = true := by decide +kernel
  obtain ⟨token, encoded⟩ := Cursor.exists_token short
  have read : Spec.ofEntries folderPairs = .ok { Spec.all with limit := some 2 } := by rfl
  obtain ⟨plan, compiled⟩ := ok_of_isOk (show (Plan.compile folderSetting folderSchema
    { Spec.all with limit := some 2 } .exclude false []).isOk = true by decide +kernel)
  have limited : plan.limit = some 2 := by
    obtain ⟨_, _, _, _, parts⟩ := Plan.compile_ok compiled
    exact (Except.ok.inj parts.limit_ok).symm
  have kept : (Plan.compile folderSetting folderSchema { Spec.all with limit := some 2 } .exclude
      false []).toOption.map (fun plan => [3, 1, 2].filter fun row =>
        plan.keeps numberSight row && decide (row < 4)) = some [3, 1, 2] := by decide +kernel
  rw [compiled] at kept
  have same : [3, 1, 2].filter (fun row => plan.keeps numberSight row && decide (row < 4)) =
      [3, 1, 2] := Option.some.inj kept
  have rowsBelow : Below plan numberSight [3, 1, 2] (fun row => row) 4 [1, 2, 3] := by
    refine ⟨?_, by decide⟩
    rw [same]
    decide
  have answers := rowsBelow.answers_iff folder_declared folderRegistry_declared rfl
    (Or.inr ⟨rfl, rfl⟩) compiled limited (fun row _ => rfl)
  refine ⟨token, _, _, encoded, Spec.ofEntries_preceding token rfl rfl read,
    Plan.compile_preceding rfl rfl (Cursor.decode_encode encoded) compiled, (answers _).mpr rfl,
    fun shown => ?_⟩
  exact absurd ((answers _).mp shown) (by decide)

end Sample

end Curator
