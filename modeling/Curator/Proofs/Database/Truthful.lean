import Curator.Proofs.Database.Table
/-!
# Truthful answers

A statement on a table tells its parts, so that what a truthful database has to do with it is one
thing only; and answers that do it are truthful.
-/

set_option autoImplicit false

namespace Curator

open Sql

/-! ## Statements tell their parts -/

namespace Sql

variable {d : Dialect} {table : String}

/-- Texts that begin alike. -/
theorem begins_alike {first second s t : String} (same : first ++ s = second ++ t)
    (length : first.toList.length = second.toList.length) : first = second ∧ s = t := by
  have chars := congrArg String.toList same
  rw [String.toList_append, String.toList_append] at chars
  obtain ⟨front, back⟩ := List.append_inj chars length
  exact ⟨String.toList_inj.mp front, String.toList_inj.mp back⟩

/-- Lists up to the first of a mark. -/
theorem parts_alike {α : Type} {mark : α} {first second s t : List α} (apart : mark ∉ first)
    (otherApart : mark ∉ second) (same : first ++ mark :: s = second ++ mark :: t) :
    first = second ∧ s = t := by
  induction first generalizing second with
  | nil =>
    rcases second with _ | ⟨b, second⟩
    · exact ⟨rfl, (List.cons.inj same).2⟩
    · exact absurd ((List.cons.inj same).1 ▸ List.mem_cons_self) otherApart
  | cons a first ih =>
    rcases second with _ | ⟨b, second⟩
    · exact absurd ((List.cons.inj same).1 ▸ List.mem_cons_self) apart
    · obtain ⟨rfl, later⟩ := List.cons.inj same
      rw [List.mem_cons, not_or] at apart otherApart
      obtain ⟨rfl, rfl⟩ := ih apart.2 otherApart.2 later
      exact ⟨rfl, rfl⟩

theorem quoted_alike {name other s t : String} (valid : Text.isIdentifier name = true)
    (otherValid : Text.isIdentifier other = true) (same : quoted name ++ s = quoted other ++ t) :
    name = other ∧ s = t := by
  have apart : '"' ∉ name.toList := Text.not_mem_of_isIdentifier valid (by decide)
  have otherApart : '"' ∉ other.toList := Text.not_mem_of_isIdentifier otherValid (by decide)
  have chars := congrArg String.toList same
  simp only [quoted, String.toList_append, List.append_assoc] at chars
  have inner : name.toList ++ '"' :: s.toList = other.toList ++ '"' :: t.toList :=
    List.append_cancel_left (show ['"'] ++ _ = ['"'] ++ _ from chars)
  obtain ⟨names, rest⟩ := parts_alike apart otherApart inner
  exact ⟨String.toList_inj.mp names, String.toList_inj.mp rest⟩

theorem names_alike {names others : List String} {s t : String}
    (valid : ∀ name ∈ names, Text.isIdentifier name = true)
    (othersValid : ∀ name ∈ others, Text.isIdentifier name = true)
    (length : names.length = others.length)
    (same : Text.join ", " (names.map quoted) ++ s = Text.join ", " (others.map quoted) ++ t) :
    names = others ∧ s = t := by
  -- the closing quote ends each name, and the number of names tells where the list ends
  induction names generalizing others with
  | nil =>
    cases others with
    | nil => exact ⟨rfl, (begins_alike same rfl).2⟩
    | cons => cases length
  | cons name rest ih =>
    rcases others with _ | ⟨other, more⟩
    · cases length
    obtain ⟨own, restValid⟩ := List.forall_mem_cons.mp valid
    obtain ⟨otherOwn, moreValid⟩ := List.forall_mem_cons.mp othersValid
    rcases rest with _ | ⟨next, rest⟩
    · rcases more with _ | ⟨_, _⟩
      · obtain ⟨rfl, rfl⟩ := quoted_alike own otherOwn same
        exact ⟨rfl, rfl⟩
      · cases length
    · rcases more with _ | ⟨another, more⟩
      · cases length
      have fewer : (next :: rest).length = (another :: more).length := Nat.succ.inj length
      simp only [List.map_cons, Text.join_cons_cons, String.append_assoc] at same
      obtain ⟨rfl, after⟩ := quoted_alike own otherOwn same
      obtain ⟨_, behind⟩ := begins_alike after rfl
      obtain ⟨names_same, ends⟩ := ih restValid moreValid fewer behind
      exact ⟨by rw [names_same], ends⟩

theorem insertText_alike {fields others : Record} {tail ending : String}
    (valid : ∀ name ∈ fields.keys, Text.isIdentifier name = true)
    (othersValid : ∀ name ∈ others.keys, Text.isIdentifier name = true)
    (same : insertText d table fields tail = insertText d table others ending) :
    fields = others := by
  obtain ⟨texts, values⟩ := Fragment.mk.inj same
  have length : fields.keys.length = others.keys.length := by
    simpa [Mapping.keys] using congrArg List.length values
  unfold insertHead at texts
  simp only [String.append_assoc] at texts
  obtain ⟨_, texts⟩ := begins_alike texts rfl
  obtain ⟨_, texts⟩ := begins_alike texts rfl
  obtain ⟨_, texts⟩ := begins_alike texts rfl
  obtain ⟨keys, _⟩ := names_alike valid othersValid length texts
  exact (List.zip_of_prod keys values).trans (List.zip_of_prod rfl rfl).symm

theorem conditioned_alike {f g : Fragment} (same : conditioned f = conditioned g) :
    f.sql = g.sql := by
  have apart : ∀ text : String, "" ≠ " WHERE " ++ text := by
    intro text none
    have chars := congrArg String.toList none
    rw [String.toList_append] at chars
    cases chars
  unfold conditioned at same
  split at same
  · rename_i blank
    split at same
    · rename_i empty
      rw [String.isEmpty_iff.mp blank, String.isEmpty_iff.mp empty]
    · exact absurd same (apart _)
  · split at same
    · exact absurd same.symm (apart _)
    · exact (begins_alike same rfl).2

theorem countText_alike {f g : Fragment} (same : countText table f = countText table g) : f = g := by
  obtain ⟨texts, params⟩ := Fragment.mk.inj same
  simp only [String.append_assoc] at texts
  obtain ⟨_, texts⟩ := begins_alike texts rfl
  obtain ⟨_, texts⟩ := begins_alike texts rfl
  obtain ⟨_, texts⟩ := begins_alike texts rfl
  cases f
  cases g
  cases params
  cases conditioned_alike texts
  rfl

/-- Statements that begin in different ways are different. -/
theorem begun_apart {f : Fragment} {first second s t : String} (one : f.sql = first ++ s)
    (other : f.sql = second ++ t) (length : first.toList.length = second.toList.length)
    (apart : first ≠ second) : False :=
  apart (begins_alike (one.symm.trans other) length).1

theorem Fragment.Inserts.not_selects {f : Fragment} (inserts : f.Inserts) : ¬ f.Selects := by
  obtain ⟨rest, text⟩ := inserts
  rintro ⟨more, selects⟩
  have opening : "INSERT INTO " = "INSERT " ++ "INTO " := rfl
  rw [opening, String.append_assoc] at text
  exact begun_apart text selects (by decide) (by decide)

theorem countText_begins (table : String) (f : Fragment) :
    ∃ rest, (countText table f).sql = "SELECT C" ++ rest := by
  refine ⟨"OUNT(*) AS \"aggregate\"" ++ (" FROM " ++ quoted table ++ conditioned f), ?_⟩
  rw [← String.append_assoc]
  rfl

theorem firstText_begins (table : String) (f : Fragment) :
    ∃ rest, (firstText table f).sql = "SELECT *" ++ rest := by
  refine ⟨" FROM " ++ quoted table ++ conditioned f ++ " LIMIT 1", ?_⟩
  simp only [firstText, String.append_assoc]

theorem insertText_begins (d : Dialect) (table : String) (fields : Record) (tail : String) :
    ∃ rest, (insertText d table fields tail).sql = "INSERT I" ++ rest := by
  have opening : "INSERT INTO " = "INSERT I" ++ "NTO " := rfl
  unfold insertText insertHead
  rw [opening]
  simp only [String.append_assoc]
  exact ⟨_, rfl⟩

theorem updateText_begins (d : Dialect) (table : String) (fields : Record) (f : Fragment) :
    ∃ rest, (updateText d table fields f).sql = "UPDATE \"" ++ rest := by
  have opening : "UPDATE " ++ quoted table = "UPDATE \"" ++ (table ++ "\"") := by
    rw [quoted, ← String.append_assoc, ← String.append_assoc, ← String.append_assoc]
    rfl
  rw [updateText, opening]
  simp only [String.append_assoc]
  exact ⟨_, rfl⟩

end Sql

namespace Judge

/-! ## Answering truly -/

section

variable {j : Judge} {d : Dialect} {table key : String} {rows : List Row} {x : Exchange}

/-- A selection is honest that neither counts nor fetches rows wrongly. -/
theorem honest_of_selects {rest : String} (selects : x.statement.sql = "SELECT " ++ rest)
    (natural : x.statement.Counts → ∀ n, x.count d = .ok n → 0 ≤ n)
    (counted : ∀ f n, x.statement = countText table f → x.count d = .ok n →
      n = rows.countP (j.holds d table f))
    (fetches : ∀ f, x.statement ≠ firstText table f) : j.Honest d table key rows x rows where
  refused := fun _ _ => rfl
  selected := fun _ => rfl
  natural := natural
  counted := counted
  first := fun f _ same => absurd same (fetches f)
  inserted := by
    intro fields tail answer _ same
    obtain ⟨more, inserts⟩ := insertText_begins d table fields tail
    have opening : "INSERT I" = "INSERT " ++ "I" := rfl
    rw [← same, opening, String.append_assoc] at inserts
    exact (begun_apart selects inserts (by decide) (by decide)).elim
  updated := by
    intro fields f answer _ same
    obtain ⟨more, updates⟩ := updateText_begins d table fields f
    have opening : "UPDATE \"" = "UPDATE " ++ "\"" := rfl
    rw [← same, opening, String.append_assoc] at updates
    exact (begun_apart selects updates (by decide) (by decide)).elim

theorem honest_of_columns {rest : String} (text : x.statement.sql = "SELECT \"" ++ rest) :
    j.Honest d table key rows x rows := by
  have opening : "SELECT \"" = "SELECT " ++ "\"" := rfl
  refine honest_of_selects (text.trans (by rw [opening, String.append_assoc])) ?_ ?_ ?_
  · rintro ⟨more, counts⟩
    have counting : "SELECT COUNT(" = "SELECT C" ++ "OUNT(" := rfl
    rw [counting, String.append_assoc] at counts
    exact (begun_apart text counts (by decide) (by decide)).elim
  · intro f n same
    obtain ⟨more, counts⟩ := countText_begins table f
    rw [← same] at counts
    exact (begun_apart text counts (by decide) (by decide)).elim
  · intro f same
    obtain ⟨more, fetches⟩ := firstText_begins table f
    rw [← same] at fetches
    exact (begun_apart text fetches (by decide) (by decide)).elim

theorem honest_of_count {f : Fragment} (text : x.statement = countText table f)
    (counted : x.count d = .ok (rows.countP (j.holds d table f))) :
    j.Honest d table key rows x rows := by
  obtain ⟨rest, counts⟩ := countText_begins table f
  have opening : "SELECT C" = "SELECT " ++ "C" := rfl
  rw [← text] at counts
  refine honest_of_selects (counts.trans (by rw [opening, String.append_assoc])) ?_ ?_ ?_
  · intro _ n read
    cases counted.symm.trans read
    exact Int.natCast_nonneg _
  · intro g n same read
    cases countText_alike (text.symm.trans same)
    cases counted.symm.trans read
    rfl
  · intro g same
    obtain ⟨more, fetches⟩ := firstText_begins table g
    rw [← same] at fetches
    exact (begun_apart counts fetches (by decide) (by decide)).elim

theorem honest_of_insert {fields : Record} {tail : String} {answer : Answered} {row : Row}
    (valid : ∀ name ∈ fields.keys, Text.isIdentifier name = true)
    (text : x.statement = insertText d table fields tail) (answered : x.answer d = .ok answer)
    (stores : j.Stores key rows fields row) : j.Honest d table key rows x (rows ++ [row]) := by
  obtain ⟨rest, inserts⟩ := insertText_begins d table fields tail
  rw [← text] at inserts
  have opening : "INSERT I" = "INSERT " ++ "I" := rfl
  have begins : x.statement.sql = "INSERT " ++ ("I" ++ rest) := by
    rw [inserts, opening, String.append_assoc]
  have selects : ∀ more, x.statement.sql ≠ "SELECT " ++ more :=
    fun more same => begun_apart begins same (by decide) (by decide)
  refine ⟨?_, ?_, ?_, ?_, ?_, ?_, ?_⟩
  · intro failure refused
    cases answered.symm.trans refused
  · rintro ⟨more, same⟩
    exact absurd same (selects more)
  · rintro ⟨more, counts⟩
    have counting : "SELECT COUNT(" = "SELECT " ++ "COUNT(" := rfl
    rw [counting, String.append_assoc] at counts
    exact absurd counts (selects _)
  · intro f n same
    obtain ⟨more, counts⟩ := countText_begins table f
    rw [← same] at counts
    exact (begun_apart inserts counts (by decide) (by decide)).elim
  · intro f other same
    obtain ⟨more, fetches⟩ := firstText_begins table f
    rw [← same] at fetches
    exact (begun_apart inserts fetches (by decide) (by decide)).elim
  · intro others ending other othersValid same _
    cases insertText_alike valid othersValid (text.symm.trans same)
    exact ⟨row, rfl, stores⟩
  · intro others f other _ same
    obtain ⟨more, updates⟩ := updateText_begins d table others f
    rw [← same] at updates
    exact (begun_apart inserts updates (by decide) (by decide)).elim

end

end Judge

end Curator
