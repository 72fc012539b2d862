import Curator.Model.Collection
import Curator.Proofs.Model.Pages
import Curator.Proofs.Number.Quotients
import Curator.Proofs.Plan.Compiled
import Curator.Proofs.Plan.Rows
import Curator.Proofs.Schema.Sample
/-!
# Windows of pages

What a collection tells about the page it shows: how many pages there are, which rows are on the page,
and the pages before and after it.
-/

set_option autoImplicit false

namespace Curator

open Outcome

/-! ## Rows within limits -/

/-- How many of a number of rows are within the limits of a plan. -/
def Plan.within (plan : Plan) (total : Nat) : Nat :=
  let rest := total - (plan.offset.getD 0).toNat
  match plan.limit with
  | none => rest
  | some limit => min limit.toNat rest

theorem Plan.length_window {Row : Type} (plan : Plan) (rows : List Row) :
    (plan.window rows).length = plan.within rows.length := by
  unfold window within
  cases plan.limit with
  | none => exact List.length_drop
  | some limit => simp only [List.length_take, List.length_drop]

/-! ## Pages that are asked about -/

/-- A collection that is asked for the page it shows: its plan is that of a request for a page, and a
number of rows is counted. -/
structure Collection.Paged (c : Collection) (s : SessionState) (page total : Nat) : Prop where
  wanted : Text.lower c.spec.pagination = "page"
  method : c.spec.method = .page
  asked : c.spec.page = page
  first : 1 ≤ page
  planned : ∃ setting schema trashed equals,
    Plan.compile setting schema c.spec trashed false equals = .ok c.plan
  counted : (c.total s).outcome = .ok (total : Int)

/-- What the collection tells about its page. -/
def Collection.Reports (c : Collection) (s : SessionState) (w : PageWindow) : Prop :=
  ∃ after, (c.pagination s).outcome = .ok (after, .ok w.toValue)

namespace Collection.Paged

variable {c : Collection} {s : SessionState} {page total limit : Nat} {pages : Int}

theorem offset (paged : c.Paged s page total) (limited : c.plan.limit = some (limit : Int)) :
    (c.plan.offset.getD 0).toNat = limit * (page - 1) := by
  obtain ⟨setting, schema, trashed, equals, compiled⟩ := paged.planned
  obtain ⟨_, _, _, _, parts⟩ := Plan.compile_ok compiled
  have start := parts.offset_eq
  rw [if_neg Bool.false_ne_true, limited] at start
  simp only [Plan.pageOffset, paged.method, paged.asked] at start
  have first := paged.first
  rw [start]
  split
  · have less : (page : Int) - 1 = ((page - 1 : Nat) : Int) := by omega
    rw [less, Option.getD_some, ← Int.natCast_mul, Int.toNat_natCast]
  · have one : page - 1 = 0 := by omega
    simp [one]

theorem no_offset (paged : c.Paged s page total) (unlimited : c.plan.limit = none) :
    c.plan.offset = none := by
  obtain ⟨setting, schema, trashed, equals, compiled⟩ := paged.planned
  obtain ⟨_, _, _, _, parts⟩ := Plan.compile_ok compiled
  have start := parts.offset_eq
  rw [if_neg Bool.false_ne_true, unlimited] at start
  simpa only [Plan.pageOffset, paged.method] using start

/-- A page has the rows that its limit leaves of those behind the pages before it. -/
theorem within_eq (paged : c.Paged s page total) (limited : c.plan.limit = some (limit : Int)) :
    c.plan.within total = min limit (total - limit * (page - 1)) := by
  rw [Plan.within, paged.offset limited, limited]
  rfl

theorem within_unlimited (paged : c.Paged s page total) (unlimited : c.plan.limit = none) :
    c.plan.within total = total := by
  rw [Plan.within, paged.no_offset unlimited, unlimited]
  rfl

theorem reports (paged : c.Paged s page total) (pages_ok : pageCount total c.plan.limit = .ok pages) :
    c.Reports s (PageWindow.of c.rows.length total page pages c.plan.limit) := by
  unfold Reports pagination
  simp only [paged.wanted, String.reduceEq, if_false, if_true, Bind.bind, Session.andThen,
    Session.outcomeOf, paged.counted, pages_ok, paged.asked]
  exact ⟨_, rfl⟩

end Collection.Paged

/-- The number of pages that rows fill; none at all where the quotient of the two numbers is so small
that as a floating-point number it becomes zero. -/
def Collection.filledPages (total limit : Nat) : Nat :=
  if 2 * (total * 2 ^ 1074) ≤ limit then 0 else total ⌈/⌉ limit

theorem Collection.pageCount_eq {total limit : Nat} (small : total < 2 ^ 53) (positive : 1 ≤ limit) :
    pageCount (total : Int) (some (limit : Int)) = .ok (filledPages total limit : Int) := by
  have some_limit : ¬ (limit : Int) = 0 := by omega
  unfold pageCount
  simp only [if_neg some_limit, Number.Binary64.ceiling_quotient small positive, filledPages]

/-! ## Windows -/

namespace Collection.PageWindow

/-- A row, by its number, is in the window. -/
def Holds (w : PageWindow) (row : Int) : Prop :=
  ∃ start stop, w.start = some start ∧ w.stop = some stop ∧ start ≤ row ∧ row ≤ stop

theorem of_given (current total page pages : Int) (limit : Option Int) :
    let w := PageWindow.of current total page pages limit
    w.total = total ∧ w.page = page ∧ w.pages = pages := by
  unfold PageWindow.of
  by_cases some_row : 0 < current
  · simp only [if_pos some_row, and_self]
  · simp only [if_neg some_row, and_self]

variable {limit page total : Nat}

/-- The link to the next page, if there is such a page. -/
def linkOn (w : PageWindow) : Option Int :=
  if w.page < w.pages then some (w.page + 1) else none

/-- The link to the page before, if there is such a page. -/
def linkBack (w : PageWindow) : Option Int :=
  if 1 ≤ w.page - 1 ∧ w.page - 1 ≤ w.pages then some (w.page - 1) else none

section

variable (current total : Int) {page : Int} (pages : Int) (limit : Option Int) (first : 1 ≤ page)

include first

/-- Where rows are on the pages that exist and on no others, the link to the next page is right, and
the one to the page before is unless the page is the first behind the last and the third or a later
one. -/
theorem links_of (visible : 0 < current → page = 1 ∨ page ≤ pages)
    (hidden : ¬ 0 < current → pages < page) :
    let w := PageWindow.of current total page pages limit
    w.next = w.linkOn ∧ (w.previous = w.linkBack ↔ ¬ (3 ≤ page ∧ pages = page - 1)) := by
  unfold PageWindow.of linkOn linkBack
  by_cases some_row : 0 < current
  · simp only [if_pos some_row, true_and]
    rcases visible some_row with rfl | here
    · simp
    · by_cases later : 1 < page
      · rw [if_pos later, if_pos (by omega)]
        simp only [true_iff]
        omega
      · rw [if_neg later, if_neg (by omega)]
        simp only [true_iff]
        omega
  · have past := hidden some_row
    simp only [if_neg some_row]
    refine ⟨(if_neg (by omega)).symm, ?_⟩
    by_cases behind : 1 ≤ page - 1 ∧ page - 1 ≤ pages
    · rw [if_pos behind]
      by_cases second : page = 2
      · subst second
        rw [if_pos ⟨by omega, rfl⟩]
        simp
      · rw [if_neg fun both => second both.2]
        simp only [reduceCtorEq, false_iff, not_not]
        omega
    · rw [if_neg behind, if_neg (by omega)]
      simp only [true_iff]
      omega

/-- Where all rows are on every page and there is said to be one page, the link to the page before is
right on the first two pages and where there are no rows. -/
theorem links_unlimited :
    let w := PageWindow.of current total page 1 limit
    w.next = w.linkOn ∧ (w.previous = w.linkBack ↔ ¬ (3 ≤ page ∧ 0 < current)) := by
  unfold PageWindow.of linkOn linkBack
  by_cases some_row : 0 < current
  · simp only [some_row, if_true, true_and, and_true]
    by_cases later : 1 < page
    · by_cases second : page = 2
      · subst second
        simp
      · rw [if_pos later, if_neg (by omega)]
        simp only [reduceCtorEq, false_iff, not_not]
        omega
    · rw [if_neg later, if_neg (by omega)]
      simp only [true_iff]
      omega
  · simp only [if_neg some_row]
    refine ⟨(if_neg (by omega)).symm, ?_⟩
    by_cases second : page = 2
    · subst second
      simp
    · rw [if_neg fun both => second both.2, if_neg (by omega)]
      simp [some_row]

end

/-- A page of a limited list has rows if it is among the pages that rows fill, and has none behind
them. -/
theorem rows_on_filled (first : 1 ≤ page) (positive : 1 ≤ limit) :
    (0 < min limit (total - limit * (page - 1)) → page = 1 ∨ page ≤ filledPages total limit) ∧
      (¬ 0 < min limit (total - limit * (page - 1)) → filledPages total limit < page) := by
  have reached : total ⌈/⌉ limit ≤ page - 1 ↔ total ≤ limit * (page - 1) :=
    ceilDiv_le_iff_le_mul positive
  unfold filledPages
  constructor
  · intro some_row
    split
    · rename_i tiny
      -- the first page has room for all rows and more
      left
      by_contra later
      have room : limit ≤ limit * (page - 1) := Nat.le_mul_of_pos_right limit (by omega)
      have grows : ∀ p, total ≤ total * 2 ^ p := fun p =>
        Nat.le_mul_of_pos_right total (Nat.two_pow_pos p)
      have more := grows 1074
      omega
    · right
      by_contra past
      omega
  · intro none
    have ends := reached.mpr (by omega)
    split
    · exact first
    · omega

end Collection.PageWindow

/-! ## What is reported -/

namespace Collection

variable {c : Collection} {s : SessionState} {page total limit : Nat}

/-- The links of a page.  The one to the next page is right.  The one to the page before is, too, on the
first two pages; on a later one it is missing if the page is the first behind the last of a limited
list, and is there without need if the list has rows and no limit. -/
theorem reports_links (paged : c.Paged s page total)
    (limits : c.plan.limit = none ∨ ∃ limit : Nat, 1 ≤ limit ∧ c.plan.limit = some (limit : Int))
    (small : total < 2 ^ 53) (fetched : c.rows.length = c.plan.within total) :
    ∃ w, c.Reports s w ∧ w.page = page ∧ pageCount total c.plan.limit = .ok w.pages ∧
      w.next = w.linkOn ∧ (w.previous = w.linkBack ↔
        ¬ (3 ≤ page ∧ if c.plan.limit.isNone then 0 < total else w.pages = page - 1)) := by
  have first : (1 : Int) ≤ page := Int.ofNat_le.mpr paged.first
  have third : (3 : Int) ≤ page ↔ 3 ≤ page := by omega
  rcases limits with unlimited | ⟨limit, positive, limited⟩
  · have pages : pageCount (total : Int) c.plan.limit = .ok 1 := by
      rw [unlimited]
      rfl
    rw [paged.within_unlimited unlimited] at fetched
    obtain ⟨_, of_page, of_pages⟩ :=
      PageWindow.of_given c.rows.length total page 1 c.plan.limit
    obtain ⟨next, previous⟩ := PageWindow.links_unlimited c.rows.length total c.plan.limit first
    refine ⟨_, paged.reports pages, of_page, pages.trans (congrArg _ of_pages.symm), next,
      previous.trans ?_⟩
    rw [unlimited, fetched, third]
    simp only [Option.isNone_none, if_true, Int.natCast_pos]
  · have pages := pageCount_eq small positive
    rw [← limited] at pages
    obtain ⟨visible, hidden⟩ :=
      PageWindow.rows_on_filled paged.first positive
    rw [← paged.within_eq limited, ← fetched] at visible hidden
    obtain ⟨_, of_page, of_pages⟩ :=
      PageWindow.of_given c.rows.length total page (filledPages total limit) c.plan.limit
    obtain ⟨next, previous⟩ := PageWindow.links_of c.rows.length total (filledPages total limit)
      c.plan.limit first (by omega) (by omega)
    refine ⟨_, paged.reports pages, of_page, pages.trans (congrArg _ of_pages.symm), next,
      previous.trans ?_⟩
    rw [of_pages, limited, third]
    simp only [Option.isNone_some, Bool.false_eq_true, if_false]

end Collection

namespace Sample

/-- A request for a page of folders. -/
def folderPage (limit page : Nat) : Spec :=
  { Spec.all with limit := some limit, page, pagination := "page" }

def folderPlan (limit page : Nat) : Except Failure Plan :=
  Plan.compile folderSetting folderSchema (folderPage limit page) .exclude false []

/-- The folders of a page, by their numbers. -/
def foldersOn (limit page : Nat) (numbers : List Int) : Collection where
  plan := (folderPlan limit page).toOption.getD default
  spec := folderPage limit page
  rows := numbers.map fun n => [("id", .int n)]
  cursors := []
  queries := 1

theorem folders_paged {limit page total : Nat} {numbers : List Int} (first : 1 ≤ page)
    (fine : (folderPlan limit page).isOk = true)
    (counted : ((foldersOn limit page numbers).total (pageState [countReply total])).outcome.toOption =
      some (total : Int)) :
    (foldersOn limit page numbers).Paged (pageState [countReply total]) page total := by
  obtain ⟨plan, compiled⟩ := ok_of_isOk fine
  have wanted : Text.lower "page" = "page" := by decide
  refine ⟨wanted, rfl, rfl, first, ⟨folderSetting, folderSchema, .exclude, [], ?_⟩, ?_⟩
  · have same : (foldersOn limit page numbers).plan = plan := by
      simp only [foldersOn, compiled, Except.toOption, Option.getD_some]
    rw [same]
    exact compiled
  · cases came : ((foldersOn limit page numbers).total (pageState [countReply total])).outcome with
    | error failure =>
      rw [came] at counted
      cases counted
    | ok n =>
      rw [came] at counted
      cases counted
      rfl

/-- Of three folders the second page of two, which is the last, links back to the first. -/
theorem second_folders_linked : ∃ w,
    (foldersOn 2 2 [3]).Reports (pageState [countReply 3]) w ∧ w.next = none ∧
      w.previous = some 1 := by
  have paged : (foldersOn 2 2 [3]).Paged (pageState [countReply 3]) 2 3 :=
    folders_paged (by decide) (by decide +kernel) (by decide +kernel)
  have limited : (foldersOn 2 2 [3]).plan.limit = some ((2 : Nat) : Int) := by decide +kernel
  obtain ⟨w, reported, asked, pages, next, previous⟩ :=
    Collection.reports_links paged (Or.inr ⟨2, by decide, limited⟩) (by decide) (by decide +kernel)
  have two : w.pages = 2 := by
    rw [limited, Collection.pageCount_eq (by decide) (by decide)] at pages
    exact (Except.ok.inj pages).symm.trans (by decide +kernel)
  refine ⟨w, reported, next.trans ?_, (previous.mpr fun third => ?_).trans ?_⟩
  · rw [Collection.PageWindow.linkOn, asked, two]
    rfl
  · exact absurd third.1 (by decide)
  · rw [Collection.PageWindow.linkBack, asked, two]
    rfl

/-- Behind the second of two pages nothing links back to it. -/
theorem third_folders_not_linked : ∃ w,
    (foldersOn 1 3 []).Reports (pageState [countReply 2]) w ∧ w.page = 3 ∧ w.pages = 2 ∧
      w.previous = none := by
  have paged : (foldersOn 1 3 []).Paged (pageState [countReply 2]) 3 2 :=
    folders_paged (by decide) (by decide +kernel) (by decide +kernel)
  have limited : (foldersOn 1 3 []).plan.limit = some ((1 : Nat) : Int) := by decide +kernel
  have two : Collection.filledPages 2 1 = 2 := by decide +kernel
  have pages : Collection.pageCount ((2 : Nat) : Int) (some ((1 : Nat) : Int)) =
      .ok (Collection.filledPages 2 1 : Int) :=
    Collection.pageCount_eq (by decide) (by decide)
  rw [two, ← limited] at pages
  have reported := paged.reports pages
  rw [limited] at reported
  exact ⟨_, reported, rfl, rfl, rfl⟩

end Sample

end Curator
