import Curator.Model.Collection
import Curator.Proofs.Plan.Continued
import Curator.Proofs.Request.Tokens
/-!
# Walking through rows

A list request with a limit shows a page of rows, and its paging information has a token for the last
of them.  The same request after that token shows the page behind, and so on until a page is empty.
Rows whose cursors are different numbers are all seen on such a walk, each once and in order.
-/

set_option autoImplicit false

namespace Curator

open Sql Outcome

/-! ## Pages -/

namespace Collection

/-- The collection of the rows that a plan fetched, whatever is shown of them. -/
def fetched (plan : Plan) (spec : Spec) (shown rows : List Record) : Collection :=
  ⟨plan, spec, shown, rows.map fun row => (row.value? plan.schema.cursorField).getD .null, 1⟩

/-- A listing hands out the collection of what was fetched. -/
theorem listing_eq (m : Model) (query : Value) (all : Bool) : m.listing query all = (do
    let spec ← Session.of (Spec.ofRaw query)
    let mode ← Model.mode
    let plan ← m.planFor spec mode all []
    let rows ← Model.planRows plan
    let shown ← rows.mapM (m.shown plan)
    pure (fetched plan spec shown rows)) := rfl

/-- The paging information of a collection has a token for its last row. -/
def ReportsLast (c : Collection) (token : String) : Prop :=
  ∃ results first, c.pagination = pure (c, .ok (.dict [("results", results),
    ("cursor", .dict [("first", first), ("last", .str token)])]))

theorem pagination_eq {c : Collection} (wanted : Text.lower c.spec.pagination = "cursor") :
    c.pagination = pure (c, c.cursorPaging) := by
  unfold pagination
  simp only [wanted]
  rfl

/-- The paging information of a collection has given tokens for its first and last rows. -/
def ReportsEnds (c : Collection) (first last : Value) : Prop :=
  ∃ results, c.pagination = pure (c, .ok (.dict [("results", results),
    ("cursor", .dict [("first", first), ("last", last)])]))

theorem reportsEnds_iff {c : Collection} (wanted : Text.lower c.spec.pagination = "cursor")
    {first last : Value} : c.ReportsEnds first last ↔ endToken c.cursors.head? = .ok first ∧
      endToken c.cursors.getLast? = .ok last := by
  rw [ReportsEnds, pagination_eq wanted]
  constructor
  · rintro ⟨results, same⟩
    have state : SessionState := ⟨.closed .sqlite "" [], .empty, .idle⟩
    have outcomes := congrArg Ran.outcome (congrFun same state)
    have report : c.cursorPaging = .ok _ := congrArg Prod.snd (Except.ok.inj outcomes)
    obtain ⟨a, first_ok, report⟩ := bind_ok report
    obtain ⟨b, last_ok, report⟩ := bind_ok report
    cases pure_ok report
    exact ⟨first_ok, last_ok⟩
  · rintro ⟨first_ok, last_ok⟩
    refine ⟨.dict [("current", .int c.rows.length)], ?_⟩
    rw [cursorPaging, first_ok, ok_bind, last_ok]
    rfl

theorem reportsLast_iff {c : Collection} (wanted : Text.lower c.spec.pagination = "cursor")
    {token : String} : c.ReportsLast token ↔ (∃ first, endToken c.cursors.head? = .ok first) ∧
      endToken c.cursors.getLast? = .ok (.str token) := by
  have ends : c.ReportsLast token ↔ ∃ first, c.ReportsEnds first (.str token) := exists_comm
  simp only [ends, reportsEnds_iff wanted, exists_and_right]

end Collection

/-- A list request that is read, compiled and answered with rows of a table. -/
structure PageOf {Row : Type} (setting : Plan.Setting) (schema : Schema) (trashed : TrashedMode)
    (sight : Sight Row) (table : List Row) (request : Record) (spec : Spec) (plan : Plan)
    (rows : List Row) : Prop where
  read : Spec.ofEntries request = .ok spec
  compiled : Plan.compile setting schema spec trashed false [] = .ok plan
  answered : plan.Answers sight table rows

/-- A walk that starts with a request: the pages seen so far, and the request for the next.  From a
page it goes on with the token that the paging information has for the page's last row. -/
inductive Walk {Row : Type} (setting : Plan.Setting) (schema : Schema) (trashed : TrashedMode)
    (sight : Sight Row) (table : List Row) (start : Record) : List (List Row) → Record → Prop where
  | start : Walk setting schema trashed sight table start [] start
  | next {pages : List (List Row)} {request : Record} {spec : Spec} {plan : Plan} {rows : List Row}
      {token : String} (before : Walk setting schema trashed sight table start pages request)
      (page : PageOf setting schema trashed sight table request spec plan rows)
      (reported : ∀ shown,
        (Collection.fetched plan spec shown (rows.map (plan.record sight))).ReportsLast token) :
      Walk setting schema trashed sight table start (pages ++ [rows])
        (request.put "after" (.str token))

/-! ## Ascending rows -/

section

variable {Row : Type} {number : Row → Int}

theorem injective_of_ascending {rows : List Row}
    (ascending : rows.Pairwise fun a b => number a < number b) {a b : Row} (first : a ∈ rows)
    (second : b ∈ rows) (same : number a = number b) : a = b := by
  apply List.inj_on_of_nodup_map _ first second same
  rw [List.Nodup, List.pairwise_map]
  exact ascending.imp fun less => Int.ne_of_lt less

theorem exists_ascending {rows : List Row} (distinct : (rows.map number).Nodup) :
    ∃ sorted : List Row, sorted.Perm rows ∧ sorted.Pairwise fun a b => number a < number b := by
  let before : Row → Row → Bool := fun a b => decide (number a ≤ number b)
  have perm : (rows.mergeSort before).Perm rows := List.mergeSort_perm rows before
  refine ⟨rows.mergeSort before, perm, ?_⟩
  have sorted : (rows.mergeSort before).Pairwise fun a b => before a b = true := by
    apply List.pairwise_mergeSort
    · intro a b c first second
      simp only [before, decide_eq_true_eq] at first second ⊢
      omega
    · intro a b
      simp only [before, Bool.or_eq_true, decide_eq_true_eq]
      omega
  have apart : (rows.mergeSort before).Pairwise fun a b => number a ≠ number b := by
    rw [← List.pairwise_map]
    exact ((perm.map number).nodup_iff).mpr distinct
  apply (sorted.and apart).imp
  rintro a b ⟨least, other⟩
  simp only [before, decide_eq_true_eq] at least
  omega

/-- The rows beyond one of them are those behind it. -/
theorem filter_beyond {front back : List Row} {x : Row}
    (ascending : (front ++ x :: back).Pairwise fun a b => number a < number b) :
    (front ++ x :: back).filter (fun row => decide (number x < number row)) = back := by
  obtain ⟨_, behind, across⟩ := List.pairwise_append.mp ascending
  obtain ⟨beyond, _⟩ := List.pairwise_cons.mp behind
  have none_before : front.filter (fun row => decide (number x < number row)) = [] := by
    apply List.filter_eq_nil_iff.mpr
    intro row member less
    have least := across row member x List.mem_cons_self
    have most := of_decide_eq_true less
    omega
  have all_behind : back.filter (fun row => decide (number x < number row)) = back := by
    apply List.filter_eq_self.mpr
    intro row member
    exact decide_eq_true (beyond row member)
  rw [List.filter_append, none_before, List.filter_cons_of_neg (by simp), all_behind,
    List.nil_append]

/-- Where the order is that of the rows' numbers, a plan is answered with the first rows. -/
theorem answers_of_ascending {plan : Plan} {sight : Sight Row} {table sorted rows : List Row}
    {item : String} {limit : Int} (order : plan.order = [item]) (forward : Text.startsWith item "-" = false)
    (numbered : ∀ row ∈ table, sight.value row (Plan.orderColumn item) = .int (number row))
    (offset : plan.offset = none) (limited : plan.limit = some limit)
    (perm : sorted.Perm (table.filter (plan.keeps sight)))
    (ascending : sorted.Pairwise fun a b => number a < number b) :
    plan.Answers sight table rows ↔ rows = sorted.take limit.toNat := by
  have window : plan.window sorted = sorted.take limit.toNat := by
    rw [Plan.window, offset, limited]
    rfl
  have among : ∀ row ∈ sorted, row ∈ table := by
    intro row member
    exact List.mem_of_mem_filter (perm.mem_iff.mp member)
  have stand : ∀ a ∈ sorted, ∀ b ∈ sorted,
      sight.orderBy plan.order a b ≠ .gt ↔ number a ≤ number b := by
    intro a first b second
    rw [order]
    exact Plan.orderBy_number forward (numbered a (among a first)) (numbered b (among b second))
  constructor
  · rintro ⟨other, otherPerm, otherSorted, rfl⟩
    -- rows with different numbers can be sorted in one way only
    have same : other.Perm sorted := otherPerm.trans perm.symm
    have weakly : other.Pairwise fun a b => number a ≤ number b := by
      apply otherSorted.imp_of_mem
      intro a b first second least
      exact (stand a (same.mem_iff.mp first) b (same.mem_iff.mp second)).mp least
    have equal : other = sorted := by
      apply List.Perm.eq_of_pairwise _ weakly (ascending.imp fun less => Int.le_of_lt less) same
      intro a b first second least most
      exact injective_of_ascending ascending (same.mem_iff.mp first) second
        (Int.le_antisymm least most)
    rw [equal, window]
  · rintro rfl
    refine ⟨sorted, perm, ?_, window.symm⟩
    apply ascending.imp_of_mem
    intro a b first second less
    exact (stand a first b second).mpr (Int.le_of_lt less)

end

/-! ## Walks -/

section

variable {Row : Type} {setting : Plan.Setting} {schema : Schema} {trashed : TrashedMode}
  {sight : Sight Row} {table : List Row} {start request : Record} {spec : Spec} {plan : Plan}
  {number : Row → Int} {sorted : List Row} {limit : Int}

/-- What a walk starts from: a request without a cursor, its plan, and the rows that satisfy it in
the order of their numbers. -/
structure Start (setting : Plan.Setting) (schema : Schema) (trashed : TrashedMode)
    (sight : Sight Row) (table : List Row) (start : Record) (spec : Spec) (plan : Plan)
    (number : Row → Int) (sorted : List Row) (limit : Int) : Prop where
  declared : schema.Declared
  registered : setting.registry.Declared
  noPage : start.value? "page" = none
  noBefore : start.value? "before" = none
  noAfter : start.value? "after" = none
  read : Spec.ofEntries start = .ok spec
  wanted : Text.lower spec.pagination = "cursor"
  order : spec.sort = [schema.cursorField] ∨
    spec.sort = [] ∧ schema.cursorField = schema.primaryKey
  compiled : Plan.compile setting schema spec trashed false [] = .ok plan
  limited : plan.limit = some limit
  positive : 1 ≤ limit
  numbered : ∀ row ∈ table,
    sight.value row ⟨schema.cursorField, some schema.table, []⟩ = .int (number row)
  perm : sorted.Perm (table.filter (plan.keeps sight))
  ascending : sorted.Pairwise fun a b => number a < number b

/-- A request on a walk, with the rows seen before it and those to come. -/
structure Stands (setting : Plan.Setting) (schema : Schema) (trashed : TrashedMode)
    (sight : Sight Row) (table : List Row) (spec : Spec) (sorted : List Row) (limit : Int)
    (request : Record) (seen ahead : List Row) : Prop where
  split : sorted = seen ++ ahead
  noPage : request.value? "page" = none
  noBefore : request.value? "before" = none
  page : ∃ here plan, Spec.ofEntries request = .ok here ∧
    Plan.compile setting schema here trashed false [] = .ok plan ∧
    (∀ token, here.continued token = spec.continued token) ∧
    Text.lower here.pagination = "cursor" ∧
    ∀ rows, plan.Answers sight table rows ↔ rows = ahead.take limit.toNat

/-- Plans that share the cursor's order, the limit and the first page with a compiled one are answered
with the first of their rows. -/
theorem answers_of_compiled (checked : schema.Checked) (first : spec.page = 1)
    (order : spec.sort = [schema.cursorField] ∨
      spec.sort = [] ∧ schema.cursorField = schema.primaryKey)
    (compiled : Plan.compile setting schema spec trashed false [] = .ok plan)
    (limited : plan.limit = some limit)
    (numbered : ∀ row ∈ table,
      sight.value row ⟨schema.cursorField, some schema.table, []⟩ = .int (number row))
    {page : Plan} {ahead rows : List Row} (sameOrder : page.order = plan.order)
    (sameOffset : page.offset = plan.offset) (sameLimit : page.limit = plan.limit)
    (perm : ahead.Perm (table.filter (page.keeps sight)))
    (ascending : ahead.Pairwise fun a b => number a < number b) :
    page.Answers sight table rows ↔ rows = ahead.take limit.toNat := by
  obtain ⟨selected, filter, search, cursor, parts⟩ := Plan.compile_ok compiled
  obtain ⟨item, single, forward, column⟩ := Plan.sortOrder_cursor checked order parts.order_ok
  apply answers_of_ascending (sameOrder.trans single) forward _ _ (sameLimit.trans limited) perm
    ascending
  · rw [column]
    exact numbered
  · rw [sameOffset, parts.offset_eq, if_neg Bool.false_ne_true, Plan.pageOffset_first first]

/-- A plan with the conditions of the start or more is answered with the first of its rows. -/
theorem Start.answers_iff (begun : Start setting schema trashed sight table start spec plan number
    sorted limit) {page : Plan} {ahead rows : List Row} (order : page.order = plan.order)
    (offset : page.offset = plan.offset) (limited : page.limit = plan.limit)
    (perm : ahead.Perm (table.filter (page.keeps sight)))
    (ascending : ahead.Pairwise fun a b => number a < number b) :
    page.Answers sight table rows ↔ rows = ahead.take limit.toNat := by
  obtain ⟨_, first⟩ :=
    Spec.ofEntries_first begun.noPage begun.noBefore begun.noAfter begun.read
  exact answers_of_compiled begun.declared.checked first begun.order begun.compiled begun.limited
    begun.numbered order offset limited perm ascending

theorem Start.stands (begun : Start setting schema trashed sight table start spec plan number sorted
    limit) : Stands setting schema trashed sight table spec sorted limit start [] sorted := by
  refine ⟨rfl, begun.noPage, begun.noBefore, spec, plan, begun.read, begun.compiled,
    fun _ => rfl, begun.wanted, ?_⟩
  intro rows
  exact begun.answers_iff rfl rfl rfl begun.perm begun.ascending

theorem cursors_eq (begun : Start setting schema trashed sight table start spec plan number sorted
    limit) {here : Spec} {page : Plan} {rows : List Row} (shown : List Record)
    (compiled : Plan.compile setting schema here trashed false [] = .ok page)
    (among : ∀ row ∈ rows, row ∈ table) :
    (Collection.fetched page here shown (rows.map (page.record sight))).cursors =
      rows.map fun row => .int (number row) := by
  obtain ⟨_, _, _, _, parts⟩ := Plan.compile_ok compiled
  rw [Collection.fetched, List.map_map]
  apply List.map_congr_left
  intro row member
  have value := Plan.value?_cursor begun.declared begun.registered compiled sight row
  rw [Function.comp_apply, parts.schema_eq, value, begun.numbered row (among row member)]
  rfl

theorem endToken_number {n : Int} {token : String} :
    Collection.endToken (some (.int n)) = .ok (.str token) ↔ Cursor.encode (.int n) = .ok token := by
  have unfolded : Collection.endToken (some (.int n)) =
      (do
        let token ← Cursor.encode (.int n)
        pure (.str token)) := rfl
  rw [unfolded]
  constructor
  · intro ok
    obtain ⟨other, other_ok, ok⟩ := bind_ok ok
    cases pure_ok ok
    exact other_ok
  · intro ok
    rw [ok]
    rfl

/-- The token that a page reports is that of its last row. -/
theorem last_of_reported {here : Spec} {page : Plan} {rows : List Row} {shown records : List Record}
    {token : String} (wanted : Text.lower here.pagination = "cursor")
    (cursors : (Collection.fetched page here shown records).cursors =
      rows.map fun row => .int (number row))
    (reported : (Collection.fetched page here shown records).ReportsLast token) :
    ∃ front x, rows = front ++ [x] ∧ Cursor.encode (.int (number x)) = .ok token := by
  have asked : Text.lower (Collection.fetched page here shown records).spec.pagination = "cursor" :=
    wanted
  have last := ((Collection.reportsLast_iff asked).mp reported).2
  rw [cursors] at last
  rcases List.eq_nil_or_concat rows with rfl | ⟨front, x, rfl⟩
  · cases last
  · rw [List.concat_eq_append, List.map_append, List.map_singleton, List.getLast?_concat] at last
    exact ⟨front, x, List.concat_eq_append, endToken_number.mp last⟩

theorem exists_reported {here : Spec} {page : Plan} {rows : List Row} {records : List Record}
    (wanted : Text.lower here.pagination = "cursor") (some_row : rows ≠ [])
    (cursors : ∀ shown, (Collection.fetched page here shown records).cursors =
      rows.map fun row => .int (number row))
    (written : ∀ row ∈ rows, ∃ token, Cursor.encode (.int (number row)) = .ok token) :
    ∃ token, ∀ shown, (Collection.fetched page here shown records).ReportsLast token := by
  obtain ⟨first, firstToken⟩ := written _ (List.head_mem some_row)
  obtain ⟨last, lastToken⟩ := written _ (List.getLast_mem some_row)
  refine ⟨last, fun shown => ?_⟩
  have asked : Text.lower (Collection.fetched page here shown records).spec.pagination = "cursor" :=
    wanted
  rw [Collection.reportsLast_iff asked, cursors shown, List.head?_map, List.getLast?_map,
    List.head?_eq_some_head some_row, List.getLast?_eq_getLast_of_ne_nil some_row]
  exact ⟨⟨_, endToken_number.mpr firstToken⟩, endToken_number.mpr lastToken⟩

/-- Behind one of the rows come those that are asked for after its number. -/
theorem Start.beyond (begun : Start setting schema trashed sight table start spec plan number sorted
    limit) {front back : List Row} {x : Row} (split : sorted = front ++ x :: back) :
    back.Perm (table.filter ((plan.narrowed ⟨schema.cursorField, some schema.table, []⟩ .gt
      (.int (number x))).keeps sight)) := by
  have uniform := Plan.compile_uniform begun.declared begun.registered begun.compiled
  have both : table.filter ((plan.narrowed ⟨schema.cursorField, some schema.table, []⟩ .gt
      (.int (number x))).keeps sight) =
      (table.filter (plan.keeps sight)).filter fun row => decide (number x < number row) := by
    rw [List.filter_filter]
    apply List.filter_congr
    intro row member
    rw [Plan.keeps_narrowed uniform sight (begun.numbered row member), Bool.and_comm]
  have beyond := begun.perm.filter fun row => decide (number x < number row)
  have ascending := begun.ascending
  rw [split] at beyond ascending
  rw [filter_beyond ascending] at beyond
  rw [both]
  exact beyond

theorem Stands.among (begun : Start setting schema trashed sight table start spec plan number sorted
    limit) {seen ahead : List Row}
    (stands : Stands setting schema trashed sight table spec sorted limit request seen ahead) :
    ∀ row ∈ ahead, row ∈ table := by
  intro row member
  have inside : row ∈ sorted := by
    rw [stands.split]
    exact List.mem_append_right _ member
  exact List.mem_of_mem_filter (begun.perm.mem_iff.mp inside)

/-- A page of a walk has the first rows ahead, and the next request stands behind them. -/
theorem Stands.next (begun : Start setting schema trashed sight table start spec plan number sorted
    limit) {seen ahead rows : List Row} {here : Spec} {page : Plan} {token : String}
    (stands : Stands setting schema trashed sight table spec sorted limit request seen ahead)
    (shown : PageOf setting schema trashed sight table request here page rows)
    (reported : ∀ shown,
      (Collection.fetched page here shown (rows.map (page.record sight))).ReportsLast token) :
    rows ≠ [] ∧ Stands setting schema trashed sight table spec sorted limit
      (request.put "after" (.str token)) (seen ++ rows) (ahead.drop limit.toNat) := by
  obtain ⟨_, _, read, compiled, same, wanted, answers⟩ := stands.page
  cases Except.ok.inj (read.symm.trans shown.read)
  cases Except.ok.inj (compiled.symm.trans shown.compiled)
  have first := (answers rows).mp shown.answered
  have among : ∀ row ∈ rows, row ∈ table := by
    intro row member
    rw [first] at member
    exact stands.among begun row (List.mem_of_mem_take member)
  obtain ⟨front, x, ends, encoded⟩ :=
    last_of_reported wanted (cursors_eq begun [] compiled among) (reported [])
  have split : sorted = seen ++ rows ++ ahead.drop limit.toNat := by
    rw [first, List.append_assoc, List.take_append_drop]
    exact stands.split
  refine ⟨by simp [ends], split, ?_, ?_, here.continued token,
    plan.narrowed ⟨schema.cursorField, some schema.table, []⟩ .gt (.int (number x)), ?_, ?_, ?_,
    wanted, ?_⟩
  · rw [request.value?_put_other _ (by decide), stands.noPage]
  · rw [request.value?_put_other _ (by decide), stands.noBefore]
  · exact Spec.ofEntries_continued token stands.noPage stands.noBefore read
  · obtain ⟨method, number⟩ :=
      Spec.ofEntries_first begun.noPage begun.noBefore begun.noAfter begun.read
    rw [same token]
    exact Plan.compile_continued method number (Cursor.decode_encode encoded) begun.compiled
  · intro later
    exact same later
  · intro more
    -- the token stands for the last row of the page, so the rows behind it are those ahead
    have behind : sorted = (seen ++ front) ++ x :: ahead.drop limit.toNat := by
      rw [split, ends]
      simp
    have ascending := begun.ascending
    rw [split] at ascending
    exact begun.answers_iff rfl rfl rfl (begun.beyond behind)
      (List.pairwise_append.mp ascending).2.1

/-- Where a page is empty, no row is ahead. -/
theorem Stands.all_seen (begun : Start setting schema trashed sight table start spec plan number
    sorted limit) {seen ahead : List Row} {here : Spec} {page : Plan}
    (stands : Stands setting schema trashed sight table spec sorted limit request seen ahead)
    (shown : PageOf setting schema trashed sight table request here page []) : sorted = seen := by
  obtain ⟨_, _, read, compiled, _, _, answers⟩ := stands.page
  cases Except.ok.inj (read.symm.trans shown.read)
  cases Except.ok.inj (compiled.symm.trans shown.compiled)
  have none_ahead : ahead = [] := by
    rcases List.take_eq_nil_iff.mp ((answers []).mp shown.answered).symm with zero | none_ahead
    · have positive := begun.positive
      omega
    · exact none_ahead
  rw [stands.split, none_ahead, List.append_nil]

/-- Wherever a walk has come to, it has seen some of the first rows, and at least one on each page. -/
theorem Walk.stands (begun : Start setting schema trashed sight table start spec plan number sorted
    limit) {pages : List (List Row)}
    (walk : Walk setting schema trashed sight table start pages request) :
    pages.length ≤ pages.flatten.length ∧
      ∃ ahead, Stands setting schema trashed sight table spec sorted limit request pages.flatten
        ahead := by
  induction walk with
  | start => exact ⟨Nat.le_refl 0, sorted, begun.stands⟩
  | next _ page reported ih =>
    obtain ⟨few, ahead, stands⟩ := ih
    obtain ⟨some_row, onward⟩ := stands.next begun page reported
    have positive := List.length_pos_iff.mpr some_row
    rw [List.flatten_concat]
    refine ⟨?_, _, onward⟩
    rw [List.length_append, List.length_append, List.length_singleton]
    omega

/-- From wherever it has come to, a walk over numbers that can be written leads to an empty page. -/
theorem Walk.ends (begun : Start setting schema trashed sight table start spec plan number sorted
    limit) (short : ∀ row ∈ table, Number.withinDigitLimit (number row) = true)
    {pages : List (List Row)} {ahead : List Row}
    (walk : Walk setting schema trashed sight table start pages request)
    (stands : Stands setting schema trashed sight table spec sorted limit request pages.flatten
      ahead) :
    ∃ more last here page,
      Walk setting schema trashed sight table start (pages ++ more) last ∧
        PageOf setting schema trashed sight table last here page [] := by
  -- there are fewer rows ahead from page to page
  induction many : ahead.length using Nat.strongRecOn generalizing pages request ahead with
  | ind n ih =>
    obtain ⟨here, page, read, compiled, same, wanted, answers⟩ := stands.page
    have shown : PageOf setting schema trashed sight table request here page
        (ahead.take limit.toNat) := ⟨read, compiled, (answers _).mpr rfl⟩
    cases ahead with
    | nil =>
      refine ⟨[], request, here, page, ?_, ?_⟩
      · rw [List.append_nil]
        exact walk
      · simpa using shown
    | cons first rest =>
      have positive := begun.positive
      have some_row : (first :: rest).take limit.toNat ≠ [] := by
        rw [Ne, List.take_eq_nil_iff]
        simp
        omega
      have among : ∀ row ∈ (first :: rest).take limit.toNat, row ∈ table :=
        fun row member => stands.among begun row (List.mem_of_mem_take member)
      obtain ⟨token, reported⟩ := exists_reported wanted some_row
        (fun shown => cursors_eq begun shown compiled among)
        fun row member => Cursor.exists_token (short row (among row member))
      have onward := (stands.next begun shown reported).2
      rw [← List.flatten_concat] at onward
      have fewer : ((first :: rest).drop limit.toNat).length < n := by
        rw [List.length_drop, many]
        rw [List.length_cons] at many
        omega
      obtain ⟨more, last, there, page, further, shown⟩ :=
        ih _ fewer (walk.next shown reported) onward rfl
      rw [List.append_assoc, List.singleton_append] at further
      exact ⟨_, last, there, page, further, shown⟩

end

/-- A walk sees every row once.  It starts from a request without a cursor whose rows come in the
order of the cursor field, with a limit of one row or more, over a table whose cursors are different
integers.  No walk has more pages than there are rows to see, and where it comes to an empty page,
its pages have listed the rows that satisfy the request, each once, by ascending cursors.  From
wherever it has come to, it leads on to an empty page, as long as the integers are ones that can be
written at all, which are far more than a table's columns hold. -/
theorem cursors_visit_rows_once {Row : Type} {setting : Plan.Setting} {schema : Schema}
    {trashed : TrashedMode} {sight : Sight Row} {table : List Row} {start : Record} {spec : Spec}
    {plan : Plan} {limit : Int} {number : Row → Int} (declared : schema.Declared)
    (registered : setting.registry.Declared) (noPage : start.value? "page" = none)
    (noBefore : start.value? "before" = none) (noAfter : start.value? "after" = none)
    (read : Spec.ofEntries start = .ok spec) (wanted : Text.lower spec.pagination = "cursor")
    (order : spec.sort = [schema.cursorField] ∨
      spec.sort = [] ∧ schema.cursorField = schema.primaryKey)
    (compiled : Plan.compile setting schema spec trashed false [] = .ok plan)
    (limited : plan.limit = some limit) (positive : 1 ≤ limit)
    (numbered : ∀ row ∈ table,
      sight.value row ⟨schema.cursorField, some schema.table, []⟩ = .int (number row))
    (distinct : (table.map number).Nodup) :
    (∀ pages request, Walk setting schema trashed sight table start pages request →
      pages.length ≤ (table.filter (plan.keeps sight)).length ∧
      ∀ here page, PageOf setting schema trashed sight table request here page [] →
        pages.flatten.Perm (table.filter (plan.keeps sight)) ∧
          pages.flatten.Pairwise fun a b => number a < number b) ∧
    ((∀ row ∈ table, Number.withinDigitLimit (number row) = true) →
      ∀ pages request, Walk setting schema trashed sight table start pages request →
        ∃ more last here page,
          Walk setting schema trashed sight table start (pages ++ more) last ∧
            PageOf setting schema trashed sight table last here page []) := by
  have apart : ((table.filter (plan.keeps sight)).map number).Nodup :=
    distinct.sublist (List.filter_sublist.map number)
  obtain ⟨sorted, perm, ascending⟩ := exists_ascending apart
  have begun : Start setting schema trashed sight table start spec plan number sorted limit :=
    ⟨declared, registered, noPage, noBefore, noAfter, read, wanted, order, compiled, limited,
      positive, numbered, perm, ascending⟩
  constructor
  · intro pages request walk
    obtain ⟨few, ahead, stands⟩ := walk.stands begun
    constructor
    · have seen : pages.flatten.length ≤ sorted.length := by
        rw [stands.split, List.length_append]
        omega
      rw [← perm.length_eq]
      omega
    · intro here page final
      rw [← stands.all_seen begun final]
      exact ⟨perm, ascending⟩
  · intro short pages request walk
    obtain ⟨_, ahead, stands⟩ := walk.stands begun
    exact walk.ends begun short stands

namespace Sample

/-- Folders of which nothing but the number can be seen. -/
def numberSight : Sight Int where
  value row column := if column = ⟨"id", some "folders", []⟩ then .int row else .null
  other _ _ _ _ := .yes
  compare _ _ := .eq

/-- Folders two by two, with tokens for the next two. -/
def folderPages : Record := [("limit", .int 2), ("pagination", .str "cursor")]

theorem folders_walked_through : ∃ pages last here page,
    Walk folderSetting folderSchema .exclude numberSight [3, 1, 2] folderPages pages last ∧
      PageOf folderSetting folderSchema .exclude numberSight [3, 1, 2] last here page [] ∧
      pages.flatten = [1, 2, 3] := by
  have distinct : ([3, 1, 2].map (fun row : Int => row)).Nodup := by decide
  have walks := @cursors_visit_rows_once Int folderSetting folderSchema .exclude numberSight
    [3, 1, 2] folderPages _ _ 2 (fun row => row) folder_declared folderRegistry_declared rfl rfl rfl
    rfl (by decide +kernel) (Or.inr ⟨rfl, rfl⟩) rfl rfl (by decide) (fun row _ => rfl) distinct
  have short : ∀ row ∈ [3, 1, 2], Number.withinDigitLimit row = true := by decide +kernel
  obtain ⟨pages, last, here, page, walk, final⟩ := walks.2 short [] folderPages .start
  obtain ⟨perm, ascending⟩ := (walks.1 _ _ walk).2 here page final
  have rows : ([] ++ pages).flatten.Perm [1, 2, 3] := perm.trans (by decide)
  refine ⟨[] ++ pages, last, here, page, walk, final, rows.eq_of_pairwise ?_ ascending (by decide)⟩
  intro a b _ _ less more
  omega

end Sample

end Curator
