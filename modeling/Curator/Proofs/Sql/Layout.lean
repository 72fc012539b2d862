import Curator.Sql.Predicate
import Mathlib.Data.List.Basic
/-!
# Layouts of conditions

How a tree of conditions is laid out in a row: predicates and parenthesised groups in order, each
behind its connector unless it is the first, groups without predicates left out.  The text of the
tree, its parameters and its tokens are such rows of different things.
-/

set_option autoImplicit false

namespace Curator.Sql

/-! ## Trees -/

/-- Induction over conditions as they nest. -/
theorem Condition.nested_induction {one : Condition → Prop} {row : List Condition → Prop}
    (predicate : ∀ connector fragment, one (.predicate connector fragment))
    (group : ∀ connector children, row children → one (.group connector children))
    (nil : row []) (cons : ∀ first rest, one first → row rest → row (first :: rest)) :
    (∀ c, one c) ∧ ∀ cs, row cs := by
  have all : ∀ c, one c :=
    @Condition.rec one row predicate group nil (fun first rest head tail => cons first rest head tail)
  refine ⟨all, fun cs => ?_⟩
  induction cs with
  | nil => exact nil
  | cons first rest ih => exact cons first rest (all first) ih

namespace Condition

def connector : Condition → Connector
  | .predicate connector _ => connector
  | .group connector _ => connector

mutual

/-- Whether a condition has no predicate in it. -/
def isBlank : Condition → Bool
  | .predicate _ _ => false
  | .group _ children => rowIsBlank children

def rowIsBlank : List Condition → Bool
  | [] => true
  | first :: rest => first.isBlank && rowIsBlank rest

end

mutual

/-- What holds of every predicate in a condition. -/
def Every (P : Fragment → Prop) : Condition → Prop
  | .predicate _ fragment => P fragment
  | .group _ children => EveryRow P children

def EveryRow (P : Fragment → Prop) : List Condition → Prop
  | [] => True
  | first :: rest => first.Every P ∧ EveryRow P rest

end

theorem everyRow_append {P : Fragment → Prop} {first second : List Condition}
    (before : EveryRow P first) (after : EveryRow P second) : EveryRow P (first ++ second) := by
  induction first with
  | nil => exact after
  | cons c rest ih => exact ⟨before.1, ih before.2⟩

theorem every_imp {P Q : Fragment → Prop} (weaker : ∀ f, P f → Q f) :
    (∀ c : Condition, c.Every P → c.Every Q) ∧
      ∀ cs : List Condition, EveryRow P cs → EveryRow Q cs := by
  refine nested_induction ?_ ?_ ?_ ?_
  · exact fun _ fragment holds => weaker fragment holds
  · exact fun _ _ row holds => row holds
  · exact fun _ => trivial
  · exact fun _ _ head tail holds => ⟨head holds.1, tail holds.2⟩

end Condition

/-! ## Rows -/

/-- What the parts of a row of conditions become. -/
structure Layout (α : Type) where
  leaf : Fragment → List α
  word : Connector → List α
  opening : List α
  closing : List α

namespace Condition

variable {α : Type}

mutual

/-- The row of one condition, without its connector. -/
def lay (l : Layout α) : Condition → List α
  | .predicate _ fragment => l.leaf fragment
  | .group _ children => l.opening ++ layRow l false children ++ l.closing

/-- The row of several conditions; `behind` tells whether something stands before them. -/
def layRow (l : Layout α) (behind : Bool) : List Condition → List α
  | [] => []
  | first :: rest =>
    if first.isBlank then layRow l behind rest
    else (if behind then l.word first.connector else []) ++ first.lay l ++ layRow l true rest

end

theorem layRow_blank (l : Layout α) (behind : Bool) {first : Condition}
    (blank : first.isBlank = true) (rest : List Condition) :
    layRow l behind (first :: rest) = layRow l behind rest := by
  rw [layRow, if_pos blank]

theorem layRow_solid (l : Layout α) (behind : Bool) {first : Condition}
    (solid : first.isBlank = false) (rest : List Condition) :
    layRow l behind (first :: rest) =
      (if behind then l.word first.connector else []) ++ first.lay l ++ layRow l true rest := by
  rw [layRow, if_neg (by simp [solid])]

/-! ## Texts -/

/-- The characters of conditions. -/
def textLayout : Layout Char where
  leaf := fun f => f.sql.toList
  word := fun c => ' ' :: c.text.toList ++ [' ']
  opening := ['(']
  closing := [')']

/-- The parameters of conditions. -/
def parameterLayout : Layout Value where
  leaf := fun f => f.params
  word := fun _ => []
  opening := []
  closing := []

/-- A predicate that is not empty. -/
def Written (f : Fragment) : Prop := f.sql.isEmpty = false

theorem isEmpty_toList (text : String) : text.isEmpty = text.toList.isEmpty := by
  rw [Bool.eq_iff_iff, String.isEmpty_iff, List.isEmpty_iff, String.toList_eq_nil_iff]

theorem toList_of_isEmpty {text : String} (empty : text.isEmpty = true) : text.toList = [] := by
  rw [isEmpty_toList] at empty
  exact List.isEmpty_iff.mp empty

theorem joined_blank {before next : Fragment} (connector : Connector)
    (blank : next.sql.isEmpty = true) : before.joined connector next = before := by
  rw [Fragment.joined, if_pos blank]

theorem joined_written {before next : Fragment} (connector : Connector) (written : Written next)
    (bare : before.sql.isEmpty = true → before.params = []) :
    (before.joined connector next).sql.toList = before.sql.toList ++
      (if !before.sql.isEmpty then textLayout.word connector else []) ++ next.sql.toList ∧
    (before.joined connector next).params = before.params ++ next.params := by
  unfold Written at written
  rw [Fragment.joined, if_neg (by simp [written])]
  split
  · rename_i empty
    rw [toList_of_isEmpty empty, bare empty, empty]
    exact ⟨rfl, rfl⟩
  · rename_i some_text
    rw [Bool.not_eq_true] at some_text
    refine ⟨?_, rfl⟩
    simp [textLayout, some_text]

theorem renderAll_cons (before : Fragment) (first : Condition) (rest : List Condition) :
    renderAll before (first :: rest) =
      renderAll (before.joined first.connector first.render) rest := by
  cases first with
  | predicate connector fragment => rfl
  | group connector children => rfl

/-- Where connectors leave no trace, it does not count whether something stands before a row. -/
theorem layRow_wordless {l : Layout α} (wordless : ∀ c, l.word c = []) (behind : Bool)
    (cs : List Condition) : layRow l behind cs = layRow l false cs := by
  induction cs generalizing behind with
  | nil => rfl
  | cons first rest ih =>
    cases blank : first.isBlank with
    | true => rw [layRow_blank _ _ blank, layRow_blank _ _ blank, ih]
    | false =>
      rw [layRow_solid _ _ blank, layRow_solid _ _ blank, wordless]
      cases behind with
      | true => rfl
      | false => rfl

/-- What conditions render to: their row of characters with their row of parameters, and nothing if
they have no predicate. -/
theorem render_eq :
    (∀ c : Condition, c.Every Written →
      c.render.sql.isEmpty = c.isBlank ∧
        (c.isBlank = false → c.render.sql.toList = c.lay textLayout ∧
          c.render.params = c.lay parameterLayout)) ∧
    ∀ cs : List Condition, EveryRow Written cs → ∀ before : Fragment,
      (before.sql.isEmpty = true → before.params = []) →
      (renderAll before cs).sql.isEmpty = (before.sql.isEmpty && rowIsBlank cs) ∧
      (renderAll before cs).sql.toList =
        before.sql.toList ++ layRow textLayout (!before.sql.isEmpty) cs ∧
      (renderAll before cs).params = before.params ++ layRow parameterLayout false cs := by
  refine nested_induction ?predicate ?group ?nil ?cons
  case predicate =>
    intro connector fragment written
    exact ⟨written, fun _ => ⟨rfl, rfl⟩⟩
  case group =>
    intro connector children row written
    obtain ⟨blank, text, params⟩ := row written ⟨"", []⟩ (fun _ => rfl)
    have blank : (renderAll ⟨"", []⟩ children).sql.isEmpty = rowIsBlank children := blank
    rw [render, isBlank]
    split
    · rename_i empty
      rw [empty] at blank
      exact ⟨empty.trans blank, fun solid => by simp [← blank] at solid⟩
    · rename_i some_text
      rw [Bool.not_eq_true] at some_text
      rw [some_text] at blank
      refine ⟨?_, fun _ => ⟨?_, ?_⟩⟩
      · rw [← blank, isEmpty_toList]
        simp
      · have text : (renderAll ⟨"", []⟩ children).sql.toList = layRow textLayout false children := text
        rw [lay, String.toList_append, String.toList_append, text]
        rfl
      · rw [lay]
        simpa [parameterLayout] using params
  case nil =>
    intro _ before _
    simp [renderAll, layRow, rowIsBlank]
  case cons =>
    intro first rest head tail written before bare
    obtain ⟨blank, rendered⟩ := head written.1
    rw [renderAll_cons, rowIsBlank]
    cases kind : first.isBlank with
    | true =>
      rw [kind] at blank
      -- neither the text nor the row shows it, and what follows takes its place
      rw [joined_blank _ blank, layRow_blank _ _ kind, layRow_blank _ _ kind]
      exact tail written.2 before bare
    | false =>
      rw [kind] at blank
      obtain ⟨text, params⟩ := rendered kind
      obtain ⟨joinedText, joinedParams⟩ := joined_written first.connector blank bare
      have some_text : (before.joined first.connector first.render).sql.isEmpty = false := by
        rw [isEmpty_toList] at blank
        rw [isEmpty_toList, joinedText]
        cases chars : first.render.sql.toList with
        | nil => simp [chars] at blank
        | cons c rest => simp
      obtain ⟨restBlank, restText, restParams⟩ :=
        tail written.2 (before.joined first.connector first.render) (by simp [some_text])
      refine ⟨by simp [restBlank, some_text], ?_, ?_⟩
      · rw [restText, joinedText, layRow_solid _ _ kind, text, some_text]
        simp [List.append_assoc]
      · rw [restParams, joinedParams, layRow_solid _ _ kind, params, layRow_wordless (fun _ => rfl) true]
        simp [List.append_assoc]

/-- The text and the parameters of all conditions of a statement. -/
theorem renderRoot_eq {cs : List Condition} (written : EveryRow Written cs) :
    (renderRoot cs).sql.isEmpty = rowIsBlank cs ∧
      (renderRoot cs).sql.toList = layRow textLayout false cs ∧
      (renderRoot cs).params = layRow parameterLayout false cs := by
  obtain ⟨blank, text, params⟩ := render_eq.2 cs written ⟨"", []⟩ (fun _ => rfl)
  exact ⟨blank, text, params⟩

/-! ## Tests -/

def testLayout : Layout Fragment where
  leaf := fun f => [f]
  word := fun _ => []
  opening := []
  closing := []

/-- The tests in conditions, in the order of their texts. -/
def tests (cs : List Condition) : List Fragment := layRow testLayout false cs

theorem tests_blank {first : Condition} (blank : first.isBlank = true) (rest : List Condition) :
    tests (first :: rest) = tests rest := layRow_blank _ _ blank rest

theorem tests_solid {first : Condition} (solid : first.isBlank = false) (rest : List Condition) :
    tests (first :: rest) = first.lay testLayout ++ tests rest := by
  rw [tests, layRow_solid _ _ solid, layRow_wordless (fun _ => rfl) true]
  rfl

/-- The parameters of conditions are those of their tests. -/
theorem parameters_of_tests :
    (∀ c : Condition, c.lay parameterLayout = (c.lay testLayout).flatMap (·.params)) ∧
      ∀ cs : List Condition, layRow parameterLayout false cs = (tests cs).flatMap (·.params) := by
  refine nested_induction ?predicate ?group rfl ?cons
  case predicate =>
    intro connector fragment
    simp [lay, parameterLayout, testLayout]
  case group =>
    intro connector children row
    simp only [lay, List.flatMap_append, row, tests]
    rfl
  case cons =>
    intro first rest head tail
    cases blank : first.isBlank with
    | true => rw [layRow_blank _ _ blank, tests_blank blank, tail]
    | false =>
      rw [layRow_solid _ _ blank, layRow_wordless (fun _ => rfl) true, tests_solid blank, head, tail,
        List.flatMap_append]
      rfl

/-- What holds of every predicate holds of every test. -/
theorem mem_tests {P : Fragment → Prop} :
    (∀ c : Condition, c.Every P → ∀ f ∈ c.lay testLayout, P f) ∧
      ∀ cs : List Condition, EveryRow P cs → ∀ f ∈ tests cs, P f := by
  refine nested_induction ?predicate ?group ?nil ?cons
  case predicate =>
    intro connector fragment holds f member
    rw [List.mem_singleton.mp member]
    exact holds
  case group =>
    intro connector children row holds f member
    rw [lay, List.mem_append, List.mem_append] at member
    rcases member with (opening | inside) | closing
    · cases opening
    · exact row holds f inside
    · cases closing
  case nil => exact fun _ _ member => nomatch member
  case cons =>
    intro first rest head tail holds f member
    cases blank : first.isBlank with
    | true =>
      rw [tests_blank blank] at member
      exact tail holds.2 f member
    | false =>
      rw [tests_solid blank, List.mem_append] at member
      exact member.elim (head holds.1 f) (tail holds.2 f)

/-- Conditions without a test are blank, and only they. -/
theorem tests_eq_nil_iff :
    (∀ c : Condition, c.lay testLayout = [] ↔ c.isBlank = true) ∧
      ∀ cs : List Condition, tests cs = [] ↔ rowIsBlank cs = true := by
  refine nested_induction ?predicate ?group ?nil ?cons
  case predicate => simp [lay, testLayout, isBlank]
  case group =>
    intro connector children row
    rw [isBlank, ← row]
    simp [lay, testLayout, tests]
  case nil => simp [tests, layRow, rowIsBlank]
  case cons =>
    intro first rest head tail
    rw [rowIsBlank, Bool.and_eq_true]
    cases blank : first.isBlank with
    | true => simp [tests_blank blank, tail]
    | false =>
      rw [blank] at head
      simp [tests_solid blank, head]

theorem tests_predicates (connector : Connector) (fs : List Fragment) :
    tests (fs.map (.predicate connector)) = fs := by
  induction fs with
  | nil => rfl
  | cons f rest ih =>
    rw [List.map_cons, tests_solid rfl, ih]
    rfl

end Condition

end Curator.Sql
