import Curator.Proofs.Plan.Rows
/-!
# Going on after a cursor

The request for what comes after a cursor reads and compiles as the request it goes on from, with one
more condition.
-/

set_option autoImplicit false

namespace Curator

open Sql Outcome

/-- The request for what comes after a cursor. -/
def Spec.continued (spec : Spec) (token : String) : Spec :=
  { spec with method := .after, page := 1, before := "", after := token }

/-- The request for what comes before a cursor. -/
def Spec.preceding (spec : Spec) (token : String) : Spec :=
  { spec with method := .before, page := 1, before := token, after := "" }

/-- Requests that differ in their paging are read alike but for it. -/
theorem Spec.ofEntries_paging {request other : Record} {spec : Spec} {paging : Paging}
    (same : ∀ key, key ≠ "page" → key ≠ "before" → key ≠ "after" →
      other.value? key = request.value? key)
    (paging_ok : readPaging other = .ok paging) (ok : ofEntries request = .ok spec) :
    readPaging request = .ok ⟨spec.method, spec.page, spec.before, spec.after⟩ ∧
      ofEntries other = .ok
        { spec with
          method := paging.method
          page := paging.page
          before := paging.before
          after := paging.after } := by
  unfold ofEntries at ok ⊢
  dsimp only at ok ⊢
  obtain ⟨search, search_ok, ok⟩ := bind_ok ok
  obtain ⟨limit, limit_ok, ok⟩ := bind_ok ok
  obtain ⟨own, own_ok, ok⟩ := bind_ok ok
  obtain ⟨pagination, pagination_ok, ok⟩ := bind_ok ok
  obtain ⟨fields, fields_ok, ok⟩ := bind_ok ok
  obtain ⟨filter, filter_ok, ok⟩ := bind_ok ok
  obtain ⟨sort, sort_ok, ok⟩ := bind_ok ok
  obtain ⟨group, group_ok, ok⟩ := bind_ok ok
  obtain ⟨aggregate, aggregate_ok, ok⟩ := bind_ok ok
  cases pure_ok ok
  refine ⟨own_ok, ?_⟩
  rw [same "search" (by decide) (by decide) (by decide),
    same "limit" (by decide) (by decide) (by decide),
    same "pagination" (by decide) (by decide) (by decide),
    same "fields" (by decide) (by decide) (by decide),
    same "filter" (by decide) (by decide) (by decide),
    same "sort" (by decide) (by decide) (by decide),
    same "group" (by decide) (by decide) (by decide),
    same "aggregate" (by decide) (by decide) (by decide)]
  rw [search_ok, ok_bind, limit_ok, ok_bind, paging_ok, ok_bind, pagination_ok, ok_bind, fields_ok,
    ok_bind, filter_ok, ok_bind, sort_ok, ok_bind, group_ok, ok_bind, aggregate_ok]
  rfl

/-- A request without paging parameters is for the first page. -/
theorem Spec.ofEntries_first {request : Record} {spec : Spec}
    (noPage : request.value? "page" = none) (noBefore : request.value? "before" = none)
    (noAfter : request.value? "after" = none) (ok : ofEntries request = .ok spec) :
    spec.method = .page ∧ spec.page = 1 := by
  have paging : readPaging request = .ok ⟨.page, 1, "", ""⟩ := by
    rw [readPaging, noPage, noBefore, noAfter]
  have own := (ofEntries_paging (fun _ _ _ _ => rfl) paging ok).1
  have parts := Except.ok.inj (own.symm.trans paging)
  rw [Paging.mk.injEq] at parts
  exact ⟨parts.1, parts.2.1⟩

/-- A request with a cursor in place of the one it had, if any, reads as the request with it. -/
theorem Spec.ofEntries_continued {request : Record} {spec : Spec} (token : String)
    (noPage : request.value? "page" = none) (noBefore : request.value? "before" = none)
    (ok : ofEntries request = .ok spec) :
    ofEntries (request.put "after" (.str token)) = .ok (spec.continued token) := by
  have others : ∀ key, key ≠ "after" →
      (request.put "after" (.str token)).value? key = request.value? key :=
    fun key => request.value?_put_other (.str token)
  have paging : readPaging (request.put "after" (.str token)) = .ok ⟨.after, 1, "", token⟩ := by
    rw [readPaging, others "page" (by decide), others "before" (by decide), noPage, noBefore,
      Mapping.value?_put, if_pos rfl]
    rfl
  exact (ofEntries_paging (fun key _ _ other => others key other) paging ok).2

theorem Spec.ofEntries_preceding {request : Record} {spec : Spec} (token : String)
    (noPage : request.value? "page" = none) (noAfter : request.value? "after" = none)
    (ok : ofEntries request = .ok spec) :
    ofEntries (request.put "before" (.str token)) = .ok (spec.preceding token) := by
  have others : ∀ key, key ≠ "before" →
      (request.put "before" (.str token)).value? key = request.value? key :=
    fun key => request.value?_put_other (.str token)
  have paging : readPaging (request.put "before" (.str token)) = .ok ⟨.before, 1, token, ""⟩ := by
    rw [readPaging, others "page" (by decide), others "after" (by decide), noPage, noAfter,
      Mapping.value?_put, if_pos rfl]
    rfl
  exact (ofEntries_paging (fun key _ other _ => others key other) paging ok).2

namespace Plan

/-- A request compiles to the plan of its parts. -/
theorem compile_parts {setting : Setting} {schema : Schema} {spec : Spec} {trashed : TrashedMode}
    {equals : Record} {selected : FieldSelection} {filter search cursor : List PlanStep}
    {order group : List String} {limit : Option Int}
    (selected_ok : FieldSelection.ofFields setting.registry
      (schema.limits setting.settings).relatedDepth.toInt schema (askedFields spec) = .ok selected)
    (filter_ok : filterSteps schema setting.now setting.settings.maxFilterDepth .and 0
      spec.filter = .ok filter)
    (search_ok : searchSteps schema spec.search = .ok search)
    (order_ok : sortOrder schema spec.sort = .ok order)
    (group_ok : spec.group.mapM (groupColumn schema) = .ok group)
    (limit_ok : effectiveLimit spec.limit (schema.limits setting.settings).default.toInt
      (schema.limits setting.settings).max.toInt = .ok limit)
    (cursor_ok : cursorSteps schema spec = .ok cursor) :
    compile setting schema spec trashed false equals = .ok {
      schema
      columns := selected.columns
      joins := selected.joins
      steps := selected.exclusions ++ filter ++ visibilitySteps schema trashed ++
        equalitySteps schema equals ++ search ++ cursor
      order
      group
      limit
      offset := pageOffset spec limit
      keepCursor := (askedFields spec).contains schema.cursorField ||
        (askedFields spec).any fun field => Text.startsWith field "*"
      related := selected.related } := by
  unfold askedFields at selected_ok
  unfold compile
  dsimp only
  rw [selected_ok, ok_bind, filter_ok, ok_bind, search_ok, ok_bind, order_ok, ok_bind, group_ok,
    ok_bind, if_neg Bool.false_ne_true, limit_ok, ok_bind, if_neg Bool.false_ne_true, cursor_ok]
  rfl

theorem pageOffset_first {spec : Spec} (page : spec.page = 1) (limit : Option Int) :
    pageOffset spec limit = none := by
  unfold pageOffset
  rw [page]
  cases spec.method with
  | page =>
    cases limit with
    | none => rfl
    | some limit => rfl
  | after => rfl
  | before => rfl

/-- The plan of a request that goes on from a cursor has one more condition. -/
theorem compile_resumed {setting : Setting} {schema : Schema} {spec : Spec} {method : PagingMethod}
    {before after : String} {trashed : TrashedMode} {equals : Record} {plan : Plan}
    {operator : Operator} {value : Value} (first : spec.method = .page) (page : spec.page = 1)
    (resumed : cursorSteps schema
      { spec with method := method, page := 1, before := before, after := after } =
        .ok [.test .and ⟨schema.cursorField, some schema.table, []⟩ operator value])
    (ok : compile setting schema spec trashed false equals = .ok plan) :
    compile setting schema
      { spec with method := method, page := 1, before := before, after := after } trashed false
      equals = .ok (plan.narrowed ⟨schema.cursorField, some schema.table, []⟩ operator value) := by
  have none_before : cursorSteps schema spec = .ok [] := by rw [cursorSteps, first]
  obtain ⟨selected, filter, search, cursor, parts⟩ := compile_ok ok
  -- nothing is skipped on the first page, nor beside a cursor
  have start : pageOffset spec plan.limit = pageOffset
      { spec with method := method, page := 1, before := before, after := after } plan.limit := by
    rw [pageOffset_first page, pageOffset_first rfl]
  have made : compile setting schema spec trashed false equals = .ok _ :=
    compile_parts parts.fields_ok parts.filter_ok parts.search_ok parts.order_ok parts.group_ok
      parts.limit_ok none_before
  have whole := Except.ok.inj (ok.symm.trans made)
  have again : compile setting schema
      { spec with method := method, page := 1, before := before, after := after } trashed false
      equals = .ok _ :=
    compile_parts parts.fields_ok parts.filter_ok parts.search_ok parts.order_ok parts.group_ok
      parts.limit_ok resumed
  rw [again, ← start, narrowed]
  conv_rhs => rw [whole, List.append_nil]
  rfl

/-- The plan of a request that goes on after a cursor has one more condition. -/
theorem compile_continued {setting : Setting} {schema : Schema} {spec : Spec}
    {trashed : TrashedMode} {equals : Record} {plan : Plan} {token : String} {value : Value}
    (first : spec.method = .page) (page : spec.page = 1) (decodes : Cursor.decode token = .ok value)
    (ok : compile setting schema spec trashed false equals = .ok plan) :
    compile setting schema (spec.continued token) trashed false equals =
      .ok (plan.narrowed ⟨schema.cursorField, some schema.table, []⟩ .gt value) := by
  have after : cursorSteps schema (spec.continued token) =
      .ok [.test .and ⟨schema.cursorField, some schema.table, []⟩ .gt value] := by
    have given : (spec.continued token).cursor = token := rfl
    rw [cursorSteps, given, decodes]
    rfl
  exact compile_resumed first page after ok

/-- The plan of a request that goes back from a cursor has one more condition, and the order of the
plan it goes back from. -/
theorem compile_preceding {setting : Setting} {schema : Schema} {spec : Spec}
    {trashed : TrashedMode} {equals : Record} {plan : Plan} {token : String} {value : Value}
    (first : spec.method = .page) (page : spec.page = 1) (decodes : Cursor.decode token = .ok value)
    (ok : compile setting schema spec trashed false equals = .ok plan) :
    compile setting schema (spec.preceding token) trashed false equals =
      .ok (plan.narrowed ⟨schema.cursorField, some schema.table, []⟩ .lt value) := by
  have before : cursorSteps schema (spec.preceding token) =
      .ok [.test .and ⟨schema.cursorField, some schema.table, []⟩ .lt value] := by
    have given : (spec.preceding token).cursor = token := rfl
    rw [cursorSteps, given, decodes]
    rfl
  exact compile_resumed first page before ok

end Plan

end Curator
