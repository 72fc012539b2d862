import Curator.Proofs.Plan.Compiled
import Curator.Proofs.Plan.Rendering
/-!
# From raw requests to statements

What becomes of a raw request on a resource of a registry that passes its check: a statement or a
refusal, but for a few kinds of input that no check looks for.  These are named one by one, with the
failure that each of them leads to.
-/

set_option autoImplicit false

namespace Curator

open Sql Outcome Calendar

namespace Plan

/-- The statement that a raw request comes to. -/
def planned (setting : Setting) (schema : Schema) (trashed : TrashedMode) (listAll : Bool)
    (d : Dialect) (raw : Value) : Except Failure Fragment := do
  let spec ← Spec.ofRaw raw
  let plan ← compile setting schema spec trashed listAll []
  plan.fetchSql d

/-- What the checks of a request let through, and how it fails later: integers too long to be read or
written, offsets of time out of reach, and names with line ends inside. -/
inductive Overlooked (setting : Setting) (schema : Schema) (trashed : TrashedMode) (listAll : Bool)
    (raw : Record) : Failure → Prop where
  | unread {f : Failure} (unread : Spec.Unread raw f) :
      Overlooked setting schema trashed listAll raw f
  | offset {spec : Spec} {text offset : String} {f : Failure}
      (reads : Spec.ofEntries raw = .ok spec) (held : spec.filter.Holds text)
      (mentions : Mentions text.toList offset) (overreaches : Overreaches setting.now offset f) :
      Overlooked setting schema trashed listAll raw f
  | cursor {spec : Spec} {f : Failure} (reads : Spec.ofEntries raw = .ok spec)
      (long : CursorTooLong spec f) : Overlooked setting schema trashed listAll raw f
  | unwritten {spec : Spec} {plan : Plan} {f : Failure} (reads : Spec.ofEntries raw = .ok spec)
      (compiles : compile setting schema spec trashed listAll [] = .ok plan)
      (unwritten : plan.Unwritten setting.registry f) :
      Overlooked setting schema trashed listAll raw f

/-- A raw request on a resource of a checked registry comes to a statement, is refused, or holds
something that its checks overlook. -/
theorem planning_refuses_or_overlooks {setting : Setting} {hooks : List String} {schema : Schema}
    (registered : setting.registry.Declared)
    (valid : (setting.registry.validate hooks).2 = .ok ()) (held : setting.registry.Holds schema)
    (trashed : TrashedMode) (listAll : Bool) (d : Dialect) (raw : Record) :
    (∃ statement, planned setting schema trashed listAll d (.dict raw) = .ok statement) ∨
      ∃ f, planned setting schema trashed listAll d (.dict raw) = .error f ∧
        (f.category = .request ∨ Overlooked setting schema trashed listAll raw f) := by
  have declared : schema.Declared := by
    obtain ⟨registration, member, rfl⟩ := held
    exact registered registration member
  have fails : FailsOnly (planned setting schema trashed listAll d (.dict raw)) fun f =>
      f.category = .request ∨ Overlooked setting schema trashed listAll raw f := by
    unfold planned
    refine FailsOnly.bind ?_ fun spec reads => FailsOnly.bind ?_ fun plan compiles => ?_
    · refine (Spec.ofEntries_fails raw).mono fun f cause => ?_
      exact cause.imp_right .unread
    · refine (compile_fails valid held spec).mono fun f cause => ?_
      rcases cause with (refused | ⟨text, offset, within, mentions, overreaches⟩) | long
      · exact Or.inl refused
      · exact Or.inr (.offset reads within mentions overreaches)
      · exact Or.inr (.cursor reads long)
    · obtain ⟨selected, filter, search, cursor, compiled⟩ := compile_ok compiles
      refine (compiled.fetchSql_fails declared registered held d).mono fun f cause => ?_
      exact cause.imp_right (.unwritten reads compiles)
  cases outcome : planned setting schema trashed listAll d (.dict raw) with
  | ok statement => exact Or.inl ⟨statement, rfl⟩
  | error f => exact Or.inr ⟨f, rfl, fails f outcome⟩

end Plan

namespace Sample

theorem folderRegistry_valid : (folderRegistry.validate []).2 = .ok () := by rfl

theorem folder_held : folderRegistry.Holds folderSchema := by
  refine ⟨⟨folderSchema, none⟩, ?_, rfl⟩
  simp [folderRegistry]

/-- A request for the folders with a number from a time on. -/
def since (time : String) : Record :=
  [("filter", .dict [("id", .dict [("gte", .str time)])])]

/-- An offset that is not understood is refused. -/
theorem vague_time_refused :
    folderRegistry.Declared ∧ (folderRegistry.validate []).2 = .ok () ∧
    folderRegistry.Holds folderSchema ∧
    ∃ f, Plan.planned folderSetting folderSchema .exclude false .sqlite
        (.dict (since "$TIME(some days)")) = .error f ∧
      (f.category = .request ∨
        Plan.Overlooked folderSetting folderSchema .exclude false (since "$TIME(some days)") f) := by
  refine ⟨folderRegistry_declared, folderRegistry_valid, folder_held, ?_⟩
  rcases @Plan.planning_refuses_or_overlooks folderSetting [] folderSchema folderRegistry_declared
    folderRegistry_valid folder_held .exclude false .sqlite (since "$TIME(some days)") with
    ⟨statement, made⟩ | refused
  · cases made
  · exact refused

/-- One that is understood can reach further than any span of time, which is no refusal. -/
theorem far_time_overflows :
    folderRegistry.Declared ∧ (folderRegistry.validate []).2 = .ok () ∧
    folderRegistry.Holds folderSchema ∧
    ∃ f, Plan.planned folderSetting folderSchema .exclude false .sqlite
        (.dict (since "$TIME(+99999999999 days)")) = .error f ∧
      f.category = .fault .overflow ∧ f.category ≠ .request :=
  ⟨folderRegistry_declared, folderRegistry_valid, folder_held, _, rfl, rfl, by decide⟩

end Sample

end Curator

/-!
## Limits

The most rows a plan can ask for.  A request that names a limit gets no more rows than the maximum of
its resource or its engine; one that names none gets the default, which the maximum does not bound.
-/

namespace Curator.Plan

open Sql Outcome

/-- The most rows that requests on a resource may ask for; -1 for any number. -/
def Setting.maxLimit (setting : Setting) (schema : Schema) : Int :=
  (schema.limits setting.settings).max.toInt

/-- How many rows there are for requests that do not say; -1 for all. -/
def Setting.defaultLimit (setting : Setting) (schema : Schema) : Int :=
  (schema.limits setting.settings).default.toInt

/-- The limit that a number asked for gives under a maximum. -/
theorem effectiveLimit_asked {n defaultLimit maxLimit : Int} {limit : Option Int}
    (bounded : maxLimit ≠ -1) (ok : effectiveLimit (some n) defaultLimit maxLimit = .ok limit) :
    limit = some (if n = -1 then maxLimit else n) ∧ (n ≠ -1 → n ≤ maxLimit) := by
  simp only [effectiveLimit, if_neg bounded] at ok
  split at ok
  · rename_i all
    rw [if_pos all]
    exact ⟨(Except.ok.inj ok).symm, fun some_rows => absurd all some_rows⟩
  · rename_i some_rows
    split at ok
    · cases ok
    · rename_i within
      rw [if_neg some_rows]
      exact ⟨(Except.ok.inj ok).symm, fun _ => by omega⟩

theorem effectiveLimit_error {requested : Option Int} {defaultLimit maxLimit : Int} {f : Failure}
    (fails : effectiveLimit requested defaultLimit maxLimit = .error f) :
    f = .request (.limitExceeded maxLimit) ∧ ∃ n, requested = some n ∧ maxLimit < n := by
  cases requested with
  | none => cases fails
  | some n =>
    simp only [effectiveLimit] at fails
    split at fails
    · cases fails
    · split at fails
      · rename_i beyond
        exact ⟨(Except.error.inj fails).symm, n, rfl, beyond.2⟩
      · cases fails

/-- Two computations that fail alike, or the first in a way of its own, do so behind the same start. -/
theorem bind_fails {α β : Type} {x : Except Failure α} {g other : α → Except Failure β} {f : Failure}
    {P : Prop} (each : ∀ a, g a = .error f → P ∨ other a = .error f)
    (fails : (x >>= g) = .error f) : P ∨ (x >>= other) = .error f := by
  cases x with
  | error e => exact Or.inr fails
  | ok a => exact each a fails

/-- The limit of a request makes it fail only if it is beyond the maximum; every other failure is the
failure of the request without a limit. -/
theorem compile_fails_unlimited {setting : Setting} {schema : Schema} {spec : Spec}
    {trashed : TrashedMode} {equals : Record} {f : Failure}
    (fails : compile setting schema spec trashed false equals = .error f) :
    (f = .request (.limitExceeded (setting.maxLimit schema)) ∧
      ∃ n, spec.limit = some n ∧ setting.maxLimit schema < n) ∨
    compile setting schema { spec with limit := none } trashed false equals = .error f := by
  unfold compile at fails ⊢
  refine bind_fails (fun selected fails => ?_) fails
  refine bind_fails (fun filter fails => ?_) fails
  refine bind_fails (fun search fails => ?_) fails
  refine bind_fails (fun order fails => ?_) fails
  refine bind_fails (fun group fails => ?_) fails
  rw [if_neg Bool.false_ne_true] at fails ⊢
  cases limit_ok : effectiveLimit spec.limit (schema.limits setting.settings).default.toInt
      (schema.limits setting.settings).max.toInt with
  | error e =>
    rw [limit_ok] at fails
    cases fails
    exact Or.inl (effectiveLimit_error limit_ok)
  | ok limit =>
    rw [limit_ok, ok_bind] at fails
    have cursors : cursorSteps schema { spec with limit := none } = cursorSteps schema spec := rfl
    refine Or.inr ?_
    rw [effectiveLimit, ok_bind]
    simp only [Bool.false_eq_true, if_false, cursors] at fails ⊢
    cases cursor_ok : cursorSteps schema spec with
    | error e =>
      rw [cursor_ok] at fails
      exact fails
    | ok cursor =>
      rw [cursor_ok] at fails
      cases fails

/-- Under a maximum, a request that names a limit either fails or has a plan whose limit is at most
the maximum: the number asked for, or the maximum itself where all rows are asked for.  A request that
names no limit gets the default, none at all if the default is -1, whatever the maximum.  Of a limit
nothing comes but the refusal of one that is beyond the maximum; where the registry is valid, no
request fails otherwise than by being refused, unless a time in its filter or a cursor of it is too
large to be read. -/
theorem asked_limits_are_bounded (setting : Setting) (schema : Schema) (spec : Spec)
    (trashed : TrashedMode) (equals : Record) (bounded : setting.maxLimit schema ≠ -1) :
    (∀ plan, compile setting schema spec trashed false equals = .ok plan →
      (∀ n, spec.limit = some n → ∃ limit, plan.limit = some limit ∧
        limit ≤ setting.maxLimit schema ∧ limit = if n = -1 then setting.maxLimit schema else n) ∧
      (spec.limit = none → plan.limit =
        if setting.defaultLimit schema = -1 then none else some (setting.defaultLimit schema))) ∧
    (∀ f, compile setting schema spec trashed false equals = .error f →
      (f = .request (.limitExceeded (setting.maxLimit schema)) ∧
        ∃ n, spec.limit = some n ∧ setting.maxLimit schema < n) ∨
      compile setting schema { spec with limit := none } trashed false equals = .error f) ∧
    ∀ hooks : List String, (setting.registry.validate hooks).2 = .ok () →
      setting.registry.Holds schema → ∀ f,
        compile setting schema spec trashed false equals = .error f →
          Unexpanded setting.now spec.filter f ∨ CursorTooLong spec f := by
  refine ⟨?planned, fun f => compile_fails_unlimited, ?failed⟩
  case planned =>
    intro plan ok
    obtain ⟨selected, filter, search, cursor, parts⟩ := compile_ok ok
    have limited := parts.limit_ok
    rw [if_neg Bool.false_ne_true] at limited
    refine ⟨fun n asked => ?_, fun unasked => ?_⟩
    · rw [asked] at limited
      obtain ⟨given, within⟩ := effectiveLimit_asked bounded limited
      refine ⟨_, given, ?_, rfl⟩
      by_cases all : n = -1
      · exact Int.le_of_eq (if_pos all)
      · rw [if_neg all]
        exact within all
    · rw [unasked] at limited
      exact (Except.ok.inj limited).symm
  case failed => exact fun hooks valid held f fails => compile_fails valid held spec f fails

end Curator.Plan

namespace Curator.Sample

open Plan

/-- Folders under an engine that allows ten rows a request. -/
def cappedSetting : Setting :=
  { folderSetting with settings := { Settings.standard with maxLimit := 10 } }

/-- The plan for some folders under that engine. -/
def cappedFolders (limit : Option Int) : Except Failure Plan :=
  compile cappedSetting folderSchema { Spec.all with limit } .exclude false []

/-- All rows are ten rows, and eleven are refused. -/
theorem capped_limits_hold :
    cappedSetting.maxLimit folderSchema ≠ -1 ∧
    (∃ plan, cappedFolders (some (-1)) = .ok plan ∧ plan.limit = some 10) ∧
    cappedFolders (some 11) = .error (.request (.limitExceeded 10)) := by
  have bounded : cappedSetting.maxLimit folderSchema ≠ -1 := by decide
  have at_limit := fun limit : Option Int => asked_limits_are_bounded cappedSetting folderSchema
    { Spec.all with limit } .exclude [] bounded
  refine ⟨bounded, ?_, ?_⟩
  · obtain ⟨plan, planned⟩ := Outcome.ok_of_isOk
      (show (cappedFolders (some (-1))).isOk = true by decide +kernel)
    obtain ⟨limit, limited, _, ten⟩ := ((at_limit (some (-1))).1 plan planned).1 (-1) rfl
    refine ⟨plan, planned, limited.trans ?_⟩
    rw [ten]
    rfl
  · cases eleven : cappedFolders (some 11) with
    | ok plan =>
      obtain ⟨limit, _, within, asked⟩ := ((at_limit (some 11)).1 plan eleven).1 11 rfl
      rw [asked] at within
      exact absurd within (by decide)
    | error f =>
      rcases (at_limit (some 11)).2.1 f eleven with ⟨exceeded, _⟩ | unlimited
      · exact congrArg Except.error exceeded
      · have fine : (cappedFolders none).isOk = true := by decide +kernel
        have fails : cappedFolders none = .error f := unlimited
        rw [fails] at fine
        cases fine

/-- A request without a limit gets the hundred rows of the default, although ten are the maximum. -/
theorem default_exceeds_maximum : ¬ ∀ (setting : Setting) (schema : Schema) (spec : Spec)
    (trashed : TrashedMode) (equals : Record), setting.maxLimit schema ≠ -1 →
      (∃ f, compile setting schema spec trashed false equals = .error f ∧ f.category = .request) ∨
      ∃ plan limit, compile setting schema spec trashed false equals = .ok plan ∧
        plan.limit = some limit ∧ limit ≤ setting.maxLimit schema := by
  intro bounds
  have limited : (cappedFolders none).toOption.map (·.limit) = some (some 100) := by
    decide +kernel
  rcases bounds cappedSetting folderSchema Spec.all .exclude [] (by decide) with
    ⟨f, fails, _⟩ | ⟨plan, limit, planned, has, within⟩
  · have fails : cappedFolders none = .error f := fails
    rw [fails] at limited
    cases limited
  · have planned : cappedFolders none = .ok plan := planned
    rw [planned] at limited
    have hundred : plan.limit = some 100 := Option.some.inj limited
    cases Option.some.inj (has.symm.trans hundred)
    exact absurd within (by decide)

end Curator.Sample
