import Curator.Proofs.Request.OffsetItems
import Mathlib.Algebra.Ring.Int.Defs
/-!
# Overreaching offsets

A time variable whose offset is not understood refuses the request.  Of the offsets that are
understood some are not checked: an amount may have more digits than an integer can be read from, a
unit may be spelled with a letter that only the pattern takes for a plain one, and the time asked for
may be out of reach.
-/

set_option autoImplicit false

namespace Curator

open Outcome Number Calendar

/-- Items that a text begins with, and the text behind them. -/
inductive OffsetItems (text : List Char) : List OffsetItem → List Char → Prop where
  | none : OffsetItems text [] text
  | next {items : List OffsetItem} {behind : List Char} {item : OffsetItem}
      (before : OffsetItems text items behind) (found : offsetItem? behind = some item) :
      OffsetItems text (items ++ [item]) item.rest

namespace OffsetItem

def unit? (item : OffsetItem) : Option TimeUnit :=
  timeUnits.find? fun unit => unit.name == Text.lower (String.ofList item.unit)

/-- The microseconds an item asks for, however many. -/
def micros (item : OffsetItem) : Int :=
  match integerOfText (String.ofList item.amount), item.unit? with
  | .ok amount, some unit => amount * unit.micros
  | _, _ => 0

end OffsetItem

def microsOf (items : List OffsetItem) : Int := (items.map OffsetItem.micros).sum

/-- A span of more days than any span can have. -/
def TooFar (micros : Int) : Prop :=
  Int.fdiv micros microsPerDay < -greatestSpan ∨ greatestSpan < Int.fdiv micros microsPerDay

/-- What nobody checks of an offset, and how it fails. -/
inductive Overreaches (now : Moment) (offset : String) : Failure → Prop where
  | digits {items : List OffsetItem} {behind : List Char} {item : OffsetItem} {words : String}
      (begins : OffsetItems (Text.strip offset).toList items behind) (member : item ∈ items)
      (long : digitLimit < (item.amount.filter Text.isDigit).length) :
      Overreaches now offset (.fault .value words)
  | unit {items : List OffsetItem} {behind : List Char} {item : OffsetItem} {name : String}
      (begins : OffsetItems (Text.strip offset).toList items behind) (member : item ∈ items)
      (unknown : item.unit? = none) : Overreaches now offset (.fault .key name)
  | span {items : List OffsetItem} {behind : List Char} {item : OffsetItem} {words : String}
      (begins : OffsetItems (Text.strip offset).toList items behind) (member : item ∈ items)
      (far : TooFar item.micros) : Overreaches now offset (.fault .overflow words)
  | sum {items : List OffsetItem} {behind : List Char} {words : String}
      (begins : OffsetItems (Text.strip offset).toList items behind)
      (far : TooFar (microsOf items)) : Overreaches now offset (.fault .overflow words)
  | calendar {span : Int} {words : String} (reads : readOffset offset = .ok span)
      (outside : now.shifted? span = none) : Overreaches now offset (.fault .overflow words)

/-- A time variable with its offset stands somewhere in a text. -/
def Mentions (text : List Char) (offset : String) : Prop :=
  ∃ rest kind after, rest <:+ text ∧ variableAt? rest = some (kind, offset, after)

/-- A text stands somewhere in a value. -/
inductive Value.Holds : Value → String → Prop where
  | text (s : String) : Holds (.str s) s
  | item {v : Value} {items : List Value} {s : String} (member : v ∈ items) (inside : v.Holds s) :
      Holds (.list items) s
  | entry {key : String} {v : Value} {entries : List (String × Value)} {s : String}
      (member : (key, v) ∈ entries) (inside : v.Holds s) : Holds (.dict entries) s

/-- A refused request, or an offset somewhere in a value that overreaches. -/
def Unexpanded (now : Moment) (v : Value) (f : Failure) : Prop :=
  f.category = .request ∨
    ∃ text offset, v.Holds text ∧ Mentions text.toList offset ∧ Overreaches now offset f

theorem Value.Holds.items {items others : List Value} {s : String}
    (held : (Value.list items).Holds s) (among : items ⊆ others) : (Value.list others).Holds s := by
  cases held with
  | item member inside => exact .item (among member) inside

theorem Value.Holds.entries {entries others : List (String × Value)} {s : String}
    (held : (Value.dict entries).Holds s) (among : entries ⊆ others) :
    (Value.dict others).Holds s := by
  cases held with
  | entry member inside => exact .entry (among member) inside

theorem Unexpanded.within {now : Moment} {v w : Value} {f : Failure} (cause : Unexpanded now v f)
    (inside : ∀ text, v.Holds text → w.Holds text) : Unexpanded now w f := by
  refine cause.imp_right fun found => ?_
  obtain ⟨text, offset, held, overreaches⟩ := found
  exact ⟨text, offset, inside text held, overreaches⟩

section

variable {now : Moment} {f : Failure} {key : String} {v : Value}

theorem Unexpanded.item {rest : List Value} (cause : Unexpanded now v f) :
    Unexpanded now (.list (v :: rest)) f :=
  cause.within fun _ => .item List.mem_cons_self

theorem Unexpanded.laterItems {rest : List Value} (cause : Unexpanded now (.list rest) f) :
    Unexpanded now (.list (v :: rest)) f :=
  cause.within fun _ held => held.items (List.subset_cons_self v rest)

theorem Unexpanded.entry {rest : List (String × Value)} (cause : Unexpanded now v f) :
    Unexpanded now (.dict ((key, v) :: rest)) f :=
  cause.within fun _ => .entry List.mem_cons_self

theorem Unexpanded.laterEntries {rest : List (String × Value)}
    (cause : Unexpanded now (.dict rest) f) : Unexpanded now (.dict ((key, v) :: rest)) f :=
  cause.within fun _ held => held.entries (List.subset_cons_self (key, v) rest)

end

/-! ## Offsets -/

theorem checkSpan_fails (micros : Int) :
    FailsOnly (checkSpan micros) fun f => TooFar micros ∧ ∃ words, f = .fault .overflow words := by
  intro f fails
  unfold checkSpan at fails
  simp only at fails
  split at fails
  · rename_i far
    cases fails
    exact ⟨far, _, rfl⟩
  · cases fails

theorem checkSpan_ok {micros checked : Int} (ok : checkSpan micros = .ok checked) :
    checked = micros := by
  unfold checkSpan at ok
  simp only at ok
  split at ok
  · cases ok
  · exact (Except.ok.inj ok).symm

/-- The amount of an item is digits behind an optional sign. -/
theorem offsetItem?_amount {text : List Char} {item : OffsetItem}
    (found : offsetItem? text = some item) : ∃ sign digits, IsSign sign ∧ digits ≠ [] ∧
      (∀ c ∈ digits, Text.isDigit c = true) ∧ item.amount = sign ++ digits := by
  obtain ⟨parts⟩ := offsetItem?_parts found
  exact ⟨parts.sign, parts.digits, parts.isSign, parts.some_digit, parts.decimal,
    congrArg OffsetItem.amount parts.made⟩

/-- What an item of an offset comes to: its microseconds, unless it overreaches by itself. -/
theorem OffsetItem.span_fails {text : List Char} {item : OffsetItem}
    (found : offsetItem? text = some item) : FailsOnly item.span fun f =>
      (digitLimit < (item.amount.filter Text.isDigit).length ∧ ∃ words, f = .fault .value words) ∨
      (item.unit? = none ∧ ∃ name, f = .fault .key name) ∨
      (TooFar item.micros ∧ ∃ words, f = .fault .overflow words) := by
  obtain ⟨sign, digits, isSign, some_digit, all, amount_eq⟩ := offsetItem?_amount found
  unfold OffsetItem.span
  refine FailsOnly.bind ?_ fun amount reads => ?_
  · have form : (String.ofList item.amount).toList = sign ++ digits ++ [] := by simp [amount_eq]
    refine (integerOfText_signed form isSign some_digit all nofun).mono fun f cause => Or.inl ?_
    have own : item.amount.filter Text.isDigit = digits := by
      rw [amount_eq, List.filter_append, isSign.no_digit, List.nil_append, List.filter_eq_self]
      exact all
    rw [own]
    exact cause
  · have units : item.unit? = timeUnits.find? fun unit =>
        unit.name == Text.lower (String.ofList item.unit) := rfl
    simp only [← units]
    cases known : item.unit? with
    | none => exact failsOnly_error (Or.inr (Or.inl ⟨rfl, _, rfl⟩))
    | some unit =>
      have micros : item.micros = amount * unit.micros := by
        rw [OffsetItem.micros, reads, known]
      refine (checkSpan_fails _).mono fun f cause => Or.inr (Or.inr ?_)
      rw [micros]
      exact cause

theorem OffsetItem.span_ok {item : OffsetItem} {span : Int} (ok : item.span = .ok span) :
    span = item.micros := by
  unfold OffsetItem.span at ok
  obtain ⟨amount, reads, ok⟩ := bind_ok ok
  have units : item.unit? = timeUnits.find? fun unit =>
      unit.name == Text.lower (String.ofList item.unit) := rfl
  simp only [← units] at ok
  rw [OffsetItem.micros, reads]
  cases known : item.unit? with
  | none =>
    rw [known] at ok
    cases ok
  | some unit =>
    rw [known] at ok
    exact checkSpan_ok ok

theorem microsOf_nil : microsOf [] = 0 := rfl

theorem microsOf_snoc (items : List OffsetItem) (item : OffsetItem) :
    microsOf (items ++ [item]) = microsOf items + item.micros := by
  simp [microsOf]

theorem sumItems_fails {now : Moment} {offset shown : String} {items : List OffsetItem}
    {behind : List Char} (fuel : Nat)
    (begins : OffsetItems (Text.strip offset).toList items behind) :
    FailsOnly (sumItems shown fuel (microsOf items) behind) fun f =>
      f.category = .request ∨ Overreaches now offset f := by
  -- the span so far is always that of the items the offset begins with
  induction fuel generalizing items behind with
  | zero =>
    cases behind with
    | nil => exact failsOnly_ok _
    | cons c rest => exact failsOnly_error (Or.inl rfl)
  | succ fuel ih =>
    cases behind with
    | nil => exact failsOnly_ok _
    | cons c rest =>
      rw [sumItems.eq_def]
      simp only
      cases found : offsetItem? (c :: rest) with
      | none => exact failsOnly_error (Or.inl rfl)
      | some item =>
        have further := begins.next found
        have member : item ∈ items ++ [item] := List.mem_append_right _ List.mem_cons_self
        refine FailsOnly.bind ?_ fun span spans => FailsOnly.bind ?_ fun total checked => ?_
        · refine (OffsetItem.span_fails found).mono fun f cause => Or.inr ?_
          rcases cause with ⟨long, words, rfl⟩ | ⟨unknown, name, rfl⟩ | ⟨far, words, rfl⟩
          · exact .digits further member long
          · exact .unit further member unknown
          · exact .span further member far
        · rw [OffsetItem.span_ok spans, ← microsOf_snoc]
          refine (checkSpan_fails _).mono fun f cause => Or.inr ?_
          obtain ⟨far, words, rfl⟩ := cause
          exact .sum further far
        · have sum := checkSpan_ok checked
          rw [OffsetItem.span_ok spans, ← microsOf_snoc] at sum
          rw [sum]
          exact ih further

/-- The value of a variable is there, unless its offset is refused or overreaches. -/
theorem shiftedValue_fails (now : Moment) (kind : TimeVariable) (offset : String) :
    FailsOnly (shiftedValue now kind offset) fun f =>
      f.category = .request ∨ Overreaches now offset f := by
  unfold shiftedValue
  refine FailsOnly.bind ?_ fun span reads => ?_
  · unfold readOffset
    simp only
    split
    · exact failsOnly_ok _
    · rw [← microsOf_nil]
      exact sumItems_fails _ .none
  · split
    · exact failsOnly_pure _
    · rename_i outside
      exact failsOnly_error (Or.inr (.calendar reads outside))

/-! ## Texts -/

theorem cut?_suffix {mark text before after : List Char}
    (found : Text.cut? mark text = some (before, after)) : after <:+ text := by
  induction text generalizing before after with
  | nil =>
    unfold Text.cut? at found
    split at found
    · cases found
      exact List.suffix_refl _
    · cases found
  | cons c rest ih =>
    unfold Text.cut? at found
    split at found
    · cases found
      exact List.drop_suffix _ _
    · obtain ⟨⟨front, back⟩, later, same⟩ := Option.map_eq_some_iff.mp found
      cases same
      exact (ih later).trans (List.suffix_cons c rest)

/-- What stands behind a variable is the end of the text it stands in. -/
theorem variableAt?_suffix {text after : List Char} {kind : TimeVariable} {offset : String}
    (found : variableAt? text = some (kind, offset, after)) : after <:+ text := by
  unfold variableAt? at found
  obtain ⟨⟨name, named⟩, _, found⟩ := Option.bind_eq_some_iff.mp found
  have rest : text.drop name.length <:+ text := List.drop_suffix _ _
  simp only at found
  split at found
  · rename_i inside opens
    split at found
    · rename_i given behind cuts
      cases found
      rw [opens] at rest
      exact ((cut?_suffix cuts).trans (List.suffix_cons _ _)).trans rest
    · cases found
      exact rest
  · cases found
    exact rest

theorem replaceVariables_fails {now : Moment} {text : String} (fuel : Nat) {rest : List Char}
    (within : rest <:+ text.toList) :
    FailsOnly (replaceVariables now fuel rest) (Unexpanded now (.str text)) := by
  -- what is left to replace is an end of the text, so a variable found in it stands in the text
  induction fuel generalizing rest with
  | zero => exact failsOnly_ok _
  | succ fuel ih =>
    cases rest with
    | nil => exact failsOnly_ok _
    | cons c rest =>
      rw [replaceVariables]
      split
      · rename_i kind offset after found
        refine FailsOnly.bind ?_ fun value _ => FailsOnly.bind ?_ fun others _ => ?_
        · refine (shiftedValue_fails now kind offset).mono fun f => Or.imp_right fun cause => ?_
          exact ⟨text, offset, .text text, ⟨_, kind, after, within, found⟩, cause⟩
        · exact ih ((variableAt?_suffix found).trans within)
        · exact failsOnly_pure _
      · refine (ih ((List.suffix_cons c rest).trans within)).bind fun others _ => ?_
        exact failsOnly_pure _

theorem expandText_fails (now : Moment) (text : String) :
    FailsOnly (expandText now text) (Unexpanded now (.str text)) := by
  unfold expandText
  split
  · rename_i kind offset found
    refine (shiftedValue_fails now kind offset).mono fun f => Or.imp_right fun cause => ?_
    exact ⟨text, offset, .text text, ⟨_, kind, [], List.suffix_refl _, found⟩, cause⟩
  · refine (replaceVariables_fails _ (List.suffix_refl _)).bind fun chars _ => ?_
    exact failsOnly_pure _

/-- However an operand nests, it is expanded unless an offset in it is refused or overreaches. -/
theorem expand_fails (now : Moment) (v : Value) : FailsOnly (v.expand now) (Unexpanded now v) := by
  have all : (∀ v : Value, FailsOnly (v.expand now) (Unexpanded now v)) ∧
      (∀ items : List Value, FailsOnly (expandItems now items) (Unexpanded now (.list items))) ∧
      ∀ entries : List (String × Value),
        FailsOnly (expandEntries now entries) (Unexpanded now (.dict entries)) := by
    refine Value.nested_induction ?plain ?list ?dict ?items_nil ?items_cons ?entries_nil
      ?entries_cons
    case plain =>
      intro v bare
      cases v with
      | str text => exact expandText_fails now text
      | list items => exact absurd rfl (bare.1 items)
      | dict entries => exact absurd rfl (bare.2 entries)
      | _ => exact failsOnly_ok _
    case list =>
      intro items inside
      rw [Value.expand]
      exact inside.bind fun expanded _ => failsOnly_pure _
    case dict =>
      intro entries inside
      rw [Value.expand]
      exact inside.bind fun expanded _ => failsOnly_pure _
    case items_nil => exact failsOnly_ok _
    case items_cons =>
      intro v rest head _ tail
      rw [expandItems]
      refine (head.mono fun _ => .item).bind fun first _ => ?_
      refine (tail.mono fun _ => .laterItems).bind fun others _ => ?_
      exact failsOnly_pure _
    case entries_nil => exact failsOnly_ok _
    case entries_cons =>
      intro key v rest head tail
      rw [expandEntries]
      refine (head.mono fun _ => .entry).bind fun first _ => ?_
      refine (tail.mono fun _ => .laterEntries).bind fun others _ => ?_
      exact failsOnly_pure _
  exact all.1 v

end Curator
