import Curator.Proofs.Request.Expanding
import Mathlib.Data.List.TakeWhile
/-!
# Sums of offsets

An offset is a sequence of items and stands for their sum.  Reading one comes to an end whatever the
text; in plain characters a text that is no sequence of items is refused, as long as the items it
begins with can be added up.  An amount too long to be read, and an item or a sum too far, are found
before the rest of the text is looked at, and fail by themselves.
-/

set_option autoImplicit false

namespace Curator

open Outcome Number Calendar

/-! ## The loop -/

/-- Adding up the items of a text, for as many rounds as it takes. -/
inductive Scans (whole : String) : Int → List Char → Except Failure Int → Prop where
  | done (total : Int) : Scans whole total [] (.ok total)
  | refused {total : Int} {text : List Char} (more : text ≠ []) (noItem : offsetItem? text = none) :
      Scans whole total text (.error (.request (.timeOffset whole)))
  | span {total : Int} {text : List Char} {item : OffsetItem} {f : Failure}
      (found : offsetItem? text = some item) (fails : item.span = .error f) :
      Scans whole total text (.error f)
  | sum {total span : Int} {text : List Char} {item : OffsetItem} {f : Failure}
      (found : offsetItem? text = some item) (spans : item.span = .ok span)
      (fails : checkSpan (total + span) = .error f) : Scans whole total text (.error f)
  | next {total span : Int} {text : List Char} {item : OffsetItem} {outcome : Except Failure Int}
      (found : offsetItem? text = some item) (spans : item.span = .ok span)
      (within : checkSpan (total + span) = .ok (total + span))
      (rest : Scans whole (total + span) item.rest outcome) : Scans whole total text outcome

section

variable {whole : String} {total : Int} {text : List Char} {outcome : Except Failure Int}

theorem ne_nil_of_offsetItem? {item : OffsetItem} (found : offsetItem? text = some item) :
    text ≠ [] := by
  rintro rfl
  exact absurd (offsetItem?_shorter found) (Nat.not_lt_zero _)

theorem sumItems_scans {fuel : Nat} (enough : text.length ≤ fuel) :
    Scans whole total text (sumItems whole fuel total text) := by
  induction fuel generalizing total text with
  | zero =>
    rw [List.eq_nil_of_length_eq_zero (Nat.le_zero.mp enough)]
    exact .done total
  | succ fuel ih =>
    cases text with
    | nil => exact .done total
    | cons c rest =>
      rw [sumItems.eq_def]
      simp only
      cases found : offsetItem? (c :: rest) with
      | none => exact .refused (List.cons_ne_nil c rest) found
      | some item =>
        simp only
        cases spans : item.span with
        | error f => exact .span found spans
        | ok span =>
          simp only [ok_bind]
          cases sums : checkSpan (total + span) with
          | error f => exact .sum found spans sums
          | ok sum =>
            obtain rfl := checkSpan_ok sums
            have shorter := offsetItem?_shorter found
            exact .next found spans sums (ih (by omega))

/-- One round, which leaves fuel enough for what is behind the item. -/
theorem sumItems_found {item : OffsetItem} (found : offsetItem? text = some item) {fuel : Nat}
    (enough : text.length ≤ fuel) : ∃ less, item.rest.length ≤ less ∧
      sumItems whole fuel total text = item.span >>= fun span =>
        checkSpan (total + span) >>= fun sum => sumItems whole less sum item.rest := by
  have shorter := offsetItem?_shorter found
  obtain ⟨c, rest, rfl⟩ := List.exists_cons_of_ne_nil (ne_nil_of_offsetItem? found)
  cases fuel with
  | zero => cases enough
  | succ fuel =>
    refine ⟨fuel, by omega, ?_⟩
    rw [sumItems.eq_def]
    simp only [found]

theorem sumItems_of_scans (scans : Scans whole total text outcome) {fuel : Nat}
    (enough : text.length ≤ fuel) : sumItems whole fuel total text = outcome := by
  induction scans generalizing fuel with
  | done total => cases fuel <;> rfl
  | refused more noItem =>
    obtain ⟨c, rest, rfl⟩ := List.exists_cons_of_ne_nil more
    cases fuel with
    | zero => rfl
    | succ fuel =>
      rw [sumItems.eq_def]
      simp only [noItem]
  | span found fails =>
    obtain ⟨_, _, step⟩ := sumItems_found found enough
    rw [step, fails]
    rfl
  | sum found spans fails =>
    obtain ⟨_, _, step⟩ := sumItems_found found enough
    rw [step, spans, ok_bind, fails]
    rfl
  | next found spans within _ ih =>
    obtain ⟨less, room, step⟩ := sumItems_found found enough
    rw [step, spans, ok_bind, within, ok_bind]
    exact ih room

/-- The length of a text is fuel enough for any. -/
theorem sumItems_eq_iff :
    sumItems whole text.length total text = outcome ↔ Scans whole total text outcome :=
  ⟨fun made => made ▸ sumItems_scans le_rfl, fun scans => sumItems_of_scans scans le_rfl⟩

end

/-! ## Texts -/

/-- A text that is a sequence of items, blanks where one likes. -/
inductive Spells : List Char → List WrittenItem → Prop where
  | blank {blanks : List Char} (lead : ∀ c ∈ blanks, Text.isBlank c = true) : Spells blanks []
  | item {blanks text : List Char} {items : List WrittenItem}
      (lead : ∀ c ∈ blanks, Text.isBlank c = true) (w : WrittenItem) (rest : Spells text items) :
      Spells (blanks ++ (w.chars ++ text)) (w :: items)

/-- A text that begins with items, whatever comes after them. -/
inductive Begins : List Char → List WrittenItem → Prop where
  | nothing (text : List Char) : Begins text []
  | item {blanks text : List Char} {items : List WrittenItem}
      (lead : ∀ c ∈ blanks, Text.isBlank c = true) (w : WrittenItem) (parted : w.Parted text)
      (rest : Begins text items) : Begins (blanks ++ (w.chars ++ text)) (w :: items)

section

variable {blanks text other : List Char} {items others : List WrittenItem}

theorem Spells.behind_blanks (lead : ∀ c ∈ blanks, Text.isBlank c = true)
    (spells : Spells text items) : Spells (blanks ++ text) items := by
  cases spells with
  | blank more => exact .blank (List.forall_mem_append.mpr ⟨lead, more⟩)
  | item more w rest =>
    rw [← List.append_assoc]
    exact .item (List.forall_mem_append.mpr ⟨lead, more⟩) w rest

theorem Begins.behind_blanks (lead : ∀ c ∈ blanks, Text.isBlank c = true)
    (begins : Begins text items) : Begins (blanks ++ text) items := by
  cases begins with
  | nothing text => exact .nothing _
  | item more w parted rest =>
    rw [← List.append_assoc]
    exact .item (List.forall_mem_append.mpr ⟨lead, more⟩) w parted rest

theorem Spells.append (first : Spells text items) (second : Spells other others) :
    Spells (text ++ other) (items ++ others) := by
  induction first with
  | blank lead => exact second.behind_blanks lead
  | item lead w _ ih =>
    rw [List.append_assoc, List.append_assoc]
    exact .item lead w ih

/-- Items that are put together with a blank between them are a sequence again. -/
theorem Spells.joined (first : Spells text items) (second : Spells other others) :
    Spells (text ++ ' ' :: other) (items ++ others) :=
  first.append (second.behind_blanks (List.forall_mem_singleton.mpr rfl))

theorem Spells.dropWhile (spells : Spells text items) :
    Spells (text.dropWhile Text.isBlank) items := by
  cases spells with
  | blank lead =>
    rw [List.dropWhile_eq_nil_iff.mpr lead]
    exact .blank (List.forall_mem_nil _)
  | item lead w rest =>
    rw [Text.dropWhile_blanks lead (w.solid_chars _)]
    exact .item (List.forall_mem_nil _) w rest

/-- No sequence begins with an s, so that one behind a unit belongs to it. -/
theorem Spells.head (spells : Spells text items) :
    ∀ c ∈ text.head?, matchesLetter 's' c = false := by
  intro c member
  by_contra letter
  rw [Bool.not_eq_false] at letter
  obtain ⟨solid, noMinus, noPlus, noDigit⟩ := Text.of_matchesLetter_s letter
  have among : ∀ {blanks : List Char}, (∀ c ∈ blanks, Text.isBlank c = true) → c ∉ blanks := by
    intro blanks lead inside
    rw [lead c inside] at solid
    cases solid
  cases spells with
  | blank lead => exact among lead (List.mem_of_mem_head? member)
  | @item blanks text items lead w rest =>
    cases blanks with
    | nil =>
      rcases w.head_chars text c member with minus | plus | digit
      · exact noMinus minus
      · exact noPlus plus
      · rw [noDigit] at digit
        cases digit
    | cons blank others =>
      cases member
      exact among lead List.mem_cons_self

/-- A sequence that an item is found at the beginning of goes on behind that item. -/
theorem Spells.rest {item : OffsetItem} (spells : Spells text items)
    (found : offsetItem? text = some item) : ∃ others, Spells item.rest others := by
  cases spells with
  | blank lead =>
    have nothing : offsetItem? text = none := by
      unfold offsetItem?
      rw [List.dropWhile_eq_nil_iff.mpr lead]
      rfl
    rw [nothing] at found
    cases found
  | item lead w rest =>
    rw [w.offsetItem?_chars lead fun _ => rest.head] at found
    cases found
    exact ⟨_, rest.dropWhile⟩

theorem Spells.begins (spells : Spells text items) : Begins text items := by
  induction spells with
  | blank lead => exact .nothing _
  | item lead w rest ih => exact .item lead w (fun _ => rest.head) ih

/-- A text that no item is found at the beginning of begins with none. -/
theorem Begins.eq_nil (begins : Begins text items) (noItem : offsetItem? text = none) :
    items = [] := by
  cases begins with
  | nothing text => rfl
  | item lead w parted _ =>
    rw [w.offsetItem?_chars lead parted] at noItem
    cases noItem

theorem Spells.blank_of_none (spells : Spells text items) (noItem : offsetItem? text = none) :
    ∀ c ∈ text, Text.isBlank c = true := by
  obtain rfl := spells.begins.eq_nil noItem
  cases spells with
  | blank lead => exact lead

/-- Blanks behind a text are not taken from what ends in a solid character. -/
theorem exists_of_append_blanks {front behind : List Char} {c : Char}
    (solid : Text.isBlank c = false) (trail : ∀ c ∈ blanks, Text.isBlank c = true)
    (same : (front ++ [c]) ++ behind = text ++ blanks) :
    ∃ rest, text = (front ++ [c]) ++ rest ∧ behind = rest ++ blanks := by
  rcases List.append_eq_append_iff.mp same with ⟨rest, apart, beyond⟩ | ⟨excess, apart, beyond⟩
  · exact ⟨rest, apart, beyond⟩
  · rcases List.eq_nil_or_concat excess with rfl | ⟨others, last, rfl⟩
    · exact ⟨[], by simpa using apart.symm, by simpa using beyond.symm⟩
    · rw [List.concat_eq_append, ← List.append_assoc] at apart
      obtain ⟨_, rfl⟩ := List.append_inj' apart rfl |>.imp_right List.singleton_inj.mp
      have blank := trail c (by simp [beyond])
      rw [solid] at blank
      cases blank

/-- A sequence may lose the blanks behind it. -/
theorem Spells.of_append (spells : Spells (text ++ blanks) items)
    (trail : ∀ c ∈ blanks, Text.isBlank c = true) : Spells text items := by
  generalize whole : text ++ blanks = given at spells
  induction spells generalizing text with
  | blank lead => exact .blank fun c member => lead c (whole ▸ List.mem_append_left blanks member)
  | @item before behind items lead w rest ih =>
    obtain ⟨front, c, ends, solid⟩ := w.exists_last
    have same : (before ++ front ++ [c]) ++ behind = text ++ blanks := by
      rw [whole, ends, List.append_assoc, List.append_assoc, List.append_assoc]
    obtain ⟨more, rfl, beyond⟩ := exists_of_append_blanks solid trail same
    have regrouped : before ++ front ++ [c] ++ more = before ++ (w.chars ++ more) := by
      rw [ends, List.append_assoc, List.append_assoc, List.append_assoc]
    rw [regrouped]
    exact .item lead w (ih beyond.symm)

/-- Without the blanks before it, a text is the stripped text and blanks behind it. -/
theorem exists_strip (text : String) : ∃ behind,
    text.toList.dropWhile Text.isBlank = (Text.strip text).toList ++ behind ∧
    ∀ c ∈ behind, Text.isBlank c = true := by
  generalize kept : text.toList.dropWhile Text.isBlank = rest
  refine ⟨(rest.reverse.takeWhile Text.isBlank).reverse, ?_, fun c member => ?_⟩
  · rw [Text.strip, Text.trim, Text.trimEnd, String.toList_ofList, ← List.reverse_append, kept,
      List.takeWhile_append_dropWhile, List.reverse_reverse]
  · exact List.all_eq_true.mp List.all_takeWhile c (List.mem_reverse.mp member)

theorem dropWhile_strip (text : String) :
    (Text.strip text).toList.dropWhile Text.isBlank = (Text.strip text).toList := by
  obtain ⟨behind, rest, _⟩ := exists_strip text
  refine Text.dropWhile_solid fun c member => ?_
  have first : (text.toList.dropWhile Text.isBlank).head? = some c := by
    rw [rest, List.head?_append, Option.mem_def.mp member]
    rfl
  have solid := List.head?_dropWhile_not Text.isBlank text.toList
  rw [first] at solid
  simpa using solid

/-- Stripping a text does not change which items it is a sequence of. -/
theorem spells_strip {text : String} :
    Spells (Text.strip text).toList items ↔ Spells text.toList items := by
  obtain ⟨behind, rest, trail⟩ := exists_strip text
  constructor
  · intro spells
    have longer := spells.append (.blank trail)
    rw [List.append_nil, ← rest] at longer
    have parts : text.toList.takeWhile Text.isBlank ++ text.toList.dropWhile Text.isBlank =
        text.toList := List.takeWhile_append_dropWhile
    rw [← parts]
    exact longer.behind_blanks (List.all_eq_true.mp List.all_takeWhile)
  · intro spells
    have shorter := spells.dropWhile
    rw [rest] at shorter
    exact shorter.of_append trail

end

/-! ## Sums -/

/-- Whether items can be added up to a total. -/
structure Fits (total : Int) (items : List WrittenItem) : Prop where
  short : ∀ w ∈ items, w.digits.length ≤ digitLimit
  near : ∀ w ∈ items, ¬ TooFar w.micros
  sums : ∀ front, front <+: items → ¬ TooFar (total + (front.map WrittenItem.micros).sum)

section

variable {whole : String} {total : Int} {text : List Char} {items : List WrittenItem}
  {w : WrittenItem} {outcome : Except Failure Int}

theorem fits_nil : Fits total [] ↔ ¬ TooFar total := by
  constructor
  · intro fits
    simpa using fits.sums [] List.nil_prefix
  · intro near
    refine ⟨List.forall_mem_nil _, List.forall_mem_nil _, fun front begins => ?_⟩
    rw [List.prefix_nil.mp begins]
    simpa using near

theorem fits_cons : Fits total (w :: items) ↔ ¬ TooFar total ∧ w.digits.length ≤ digitLimit ∧
    ¬ TooFar w.micros ∧ Fits (total + w.micros) items := by
  constructor
  · rintro ⟨short, near, sums⟩
    obtain ⟨first, shorts⟩ := List.forall_mem_cons.mp short
    obtain ⟨own, nears⟩ := List.forall_mem_cons.mp near
    refine ⟨by simpa using sums [] List.nil_prefix, first, own, shorts, nears, fun front begins => ?_⟩
    have longer := sums (w :: front) (List.prefix_cons_inj w |>.mpr begins)
    rwa [List.map_cons, List.sum_cons, ← Int.add_assoc] at longer
  · rintro ⟨start, first, own, short, near, sums⟩
    refine ⟨List.forall_mem_cons.mpr ⟨first, short⟩, List.forall_mem_cons.mpr ⟨own, near⟩,
      fun front begins => ?_⟩
    rcases List.prefix_cons_iff.mp begins with rfl | ⟨more, rfl, inner⟩
    · simpa using start
    · rw [List.map_cons, List.sum_cons, ← Int.add_assoc]
      exact sums more inner

theorem checkSpan_near {micros : Int} (near : ¬ TooFar micros) : checkSpan micros = .ok micros := by
  unfold checkSpan
  exact if_neg near

theorem checkSpan_far {micros : Int} (far : TooFar micros) :
    ∃ words, checkSpan micros = .error (.fault .overflow words) := by
  unfold checkSpan
  exact ⟨_, if_pos far⟩

/-- An item that can be read and is none too far comes to its microseconds. -/
theorem WrittenItem.span_near (short : w.digits.length ≤ digitLimit) (near : ¬ TooFar w.micros)
    (rest : List Char) : (w.readAs rest).span = .ok w.micros :=
  ((w.span_readAs rest).1 short).trans (checkSpan_near near)

/-- A span of the greatest number of days or less, either way, is none too far. -/
theorem not_tooFar {micros : Int} (least : -(greatestSpan * microsPerDay) ≤ micros)
    (most : micros ≤ greatestSpan * microsPerDay) : ¬ TooFar micros := by
  simp only [TooFar, greatestSpan, microsPerDay, secondsPerDay, microsPerSecond] at *
  rw [Int.fdiv_eq_ediv_of_nonneg _ (by decide)]
  omega

/-- A sequence of items that can be added up is added up. -/
theorem Spells.scans (spells : Spells text items) (whole : String) (fits : Fits total items) :
    Scans whole total (text.dropWhile Text.isBlank)
      (.ok (total + (items.map WrittenItem.micros).sum)) := by
  induction spells generalizing total with
  | blank lead =>
    rw [List.dropWhile_eq_nil_iff.mpr lead, List.map_nil, List.sum_nil, Int.add_zero]
    exact .done total
  | @item blanks text items lead w rest ih =>
    obtain ⟨_, short, near, later⟩ := fits_cons.mp fits
    have sum : ¬ TooFar (total + w.micros) := by simpa using later.sums [] List.nil_prefix
    have found := w.offsetItem?_chars (List.forall_mem_nil _) (fun _ => rest.head)
    rw [Text.dropWhile_blanks lead (w.solid_chars text), List.map_cons, List.sum_cons,
      ← Int.add_assoc]
    exact .next found (w.span_near short near _) (checkSpan_near sum) (ih later)

/-- The failure of an amount that is too long to be read, and that of a span that is too far. -/
def Overrun (f : Failure) : Prop :=
  ∃ words, f = .fault .value words ∨ f = .fault .overflow words

/-- Items that cannot be added up fail, whatever comes after them. -/
theorem Begins.scans (begins : Begins text items) (whole : String) (start : ¬ TooFar total)
    (unfit : ¬ Fits total items) : ∃ f, Overrun f ∧
      Scans whole total (text.dropWhile Text.isBlank) (.error f) := by
  induction begins generalizing total with
  | nothing text => exact absurd (fits_nil.mpr start) unfit
  | @item blanks text items lead w parted rest ih =>
    have found := w.offsetItem?_chars (List.forall_mem_nil _) parted
    obtain ⟨reads, fails⟩ := w.span_readAs (text.dropWhile Text.isBlank)
    rw [Text.dropWhile_blanks lead (w.solid_chars text)]
    by_cases short : w.digits.length ≤ digitLimit
    · by_cases near : TooFar w.micros
      · obtain ⟨words, far⟩ := checkSpan_far near
        exact ⟨_, ⟨words, Or.inr rfl⟩, .span found ((reads short).trans far)⟩
      · have spans := w.span_near short near (text.dropWhile Text.isBlank)
        by_cases sum : TooFar (total + w.micros)
        · obtain ⟨words, far⟩ := checkSpan_far sum
          exact ⟨_, ⟨words, Or.inr rfl⟩, .sum found spans far⟩
        · obtain ⟨f, overrun, scans⟩ := ih sum fun fits =>
            unfit (fits_cons.mpr ⟨start, short, near, fits⟩)
          exact ⟨f, overrun, .next found spans (checkSpan_near sum) scans⟩
    · obtain ⟨words, fails⟩ := fails (Nat.not_le.mp short)
      exact ⟨_, ⟨words, Or.inl rfl⟩, .span found fails⟩

/-- In plain characters, an item that is found is a written one; where the items that a text begins
with can be added up, it is added to the total. -/
theorem exists_next {item : OffsetItem} (ascii : ∀ c ∈ text, c.toNat < 128)
    (fits : ∀ items, Begins text items → Fits total items) (found : offsetItem? text = some item) :
    ∃ (w : WrittenItem) (blanks behind : List Char),
      text = blanks ++ (w.chars ++ behind) ∧ (∀ c ∈ blanks, Text.isBlank c = true) ∧
      w.Parted behind ∧ item.rest = behind.dropWhile Text.isBlank ∧ item.span = .ok w.micros ∧
      checkSpan (total + w.micros) = .ok (total + w.micros) := by
  obtain ⟨w, blanks, behind, rfl, lead, parted, rfl⟩ := exists_written ascii found
  obtain ⟨_, short, near, later⟩ := fits_cons.mp (fits [w] (.item lead w parted (.nothing behind)))
  exact ⟨w, blanks, behind, rfl, lead, parted, rfl, w.span_near short near _,
    checkSpan_near (fits_nil.mp later)⟩

/-- In plain characters, a text is a sequence of items or refused, as long as the items it begins
with can be added up. -/
theorem Scans.spells_or_refused (scans : Scans whole total text outcome)
    (ascii : ∀ c ∈ text, c.toNat < 128)
    (fits : ∀ items, Begins text items → Fits total items) :
    (∃ items, Spells text items) ∨ outcome = .error (.request (.timeOffset whole)) := by
  induction scans with
  | done total => exact Or.inl ⟨[], .blank (List.forall_mem_nil _)⟩
  | refused more noItem => exact Or.inr rfl
  | span found fails =>
    obtain ⟨w, _, _, _, _, _, _, own, _⟩ := exists_next ascii fits found
    rw [own] at fails
    cases fails
  | sum found spans fails =>
    obtain ⟨w, _, _, _, _, _, _, own, sums⟩ := exists_next ascii fits found
    obtain rfl := Except.ok.inj (spans.symm.trans own)
    rw [sums] at fails
    cases fails
  | next found spans _ _ ih =>
    obtain ⟨w, blanks, behind, rfl, lead, parted, rest, own, _⟩ := exists_next ascii fits found
    obtain rfl := Except.ok.inj (spans.symm.trans own)
    rw [rest] at ih
    have beyond : ∀ c ∈ behind.dropWhile Text.isBlank, c.toNat < 128 := fun c member =>
      ascii c (List.mem_append_right blanks (List.mem_append_right w.chars
        ((List.dropWhile_sublist _).subset member)))
    have between : behind.takeWhile Text.isBlank ++ behind.dropWhile Text.isBlank = behind :=
      List.takeWhile_append_dropWhile
    have gap : ∀ c ∈ behind.takeWhile Text.isBlank, Text.isBlank c = true :=
      List.all_eq_true.mp List.all_takeWhile
    refine (ih beyond fun items begins => ?_).imp_left fun ⟨items, spells⟩ => ?_
    · have further := begins.behind_blanks gap
      rw [between] at further
      exact (fits_cons.mp (fits (w :: items) (.item lead w parted further))).2.2.2
    · have further := spells.behind_blanks gap
      rw [between] at further
      exact ⟨w :: items, .item lead w further⟩

end

/-! ## Offsets -/

section

variable {text : String} {items : List WrittenItem}

theorem readOffset_iff {outcome : Except Failure Int} (now : Text.strip text ≠ "now") :
    readOffset text = outcome ↔ Scans (Text.strip text) 0 (Text.strip text).toList outcome := by
  rw [← sumItems_eq_iff]
  unfold readOffset
  by_cases empty : Text.strip text = ""
  · simp only [empty, true_or, if_true]
    rfl
  · simp only [empty, now, or_false, if_false]
    rfl

theorem ne_now_of_spells (spells : Spells text.toList items) : Text.strip text ≠ "now" := by
  intro now
  have core := spells_strip.mpr spells
  rw [now] at core
  have solid := core.blank_of_none rfl 'n' List.mem_cons_self
  cases solid

theorem readOffset_spells (spells : Spells text.toList items) (fits : Fits 0 items) :
    readOffset text = .ok (items.map WrittenItem.micros).sum := by
  rw [readOffset_iff (ne_now_of_spells spells)]
  have scans := (spells_strip.mpr spells).scans (Text.strip text) fits
  rw [dropWhile_strip, Int.zero_add] at scans
  exact scans

theorem readOffset_unfit (begins : Begins (Text.strip text).toList items) (unfit : ¬ Fits 0 items) :
    ∃ f, Overrun f ∧ readOffset text = .error f := by
  have start : ¬ TooFar 0 := not_tooFar (by decide) (by decide)
  have now : Text.strip text ≠ "now" := by
    intro now
    rw [now] at begins
    exact unfit (begins.eq_nil rfl ▸ fits_nil.mpr start)
  obtain ⟨f, overrun, scans⟩ := begins.scans (Text.strip text) start unfit
  rw [dropWhile_strip] at scans
  exact ⟨f, overrun, (readOffset_iff now).mpr scans⟩

theorem readOffset_refused (ascii : ∀ c ∈ text.toList, c.toNat < 128)
    (now : Text.strip text ≠ "now") (other : ∀ items, ¬ Spells text.toList items)
    (fits : ∀ items, Begins (Text.strip text).toList items → Fits 0 items) :
    readOffset text = .error (.request (.timeOffset (Text.strip text))) := by
  have scans := (readOffset_iff now).mp (Eq.refl (readOffset text))
  have plain : ∀ c ∈ (Text.strip text).toList, c.toNat < 128 := by
    obtain ⟨behind, rest, _⟩ := exists_strip text
    intro c member
    apply ascii c
    refine (List.dropWhile_sublist Text.isBlank).subset ?_
    rw [rest]
    exact List.mem_append_left behind member
  rcases scans.spells_or_refused plain fits with ⟨items, spells⟩ | refused
  · exact absurd (spells_strip.mp spells) (other items)
  · exact refused

end

/-- Offsets add up.  A text that is nothing, or `now`, is no time at all, and one that is a sequence of
items is their exact sum, so that two sequences with a blank between them come to the sum of the two.
In plain characters every other text is refused, and named in the refusal, as long as the items it
begins with can be added up; items that cannot, because an amount is too long to be read or an item or
a sum is too far, fail by themselves, whatever comes after them.  Whatever the text, the length of it
is rounds enough; and a number of days up to the greatest is not too far. -/
theorem offsets_add_up (text : String) :
    ((Text.strip text = "" ∨ Text.strip text = "now") → readOffset text = .ok 0) ∧
    (∀ items, Spells text.toList items → Fits 0 items →
      readOffset text = .ok (items.map WrittenItem.micros).sum) ∧
    (∀ (other : String) (items others : List WrittenItem), Spells text.toList items →
      Spells other.toList others → Fits 0 items → Fits 0 others → Fits 0 (items ++ others) →
      ∃ first second, readOffset text = .ok first ∧ readOffset other = .ok second ∧
        readOffset (text ++ " " ++ other) = .ok (first + second)) ∧
    ((∀ c ∈ text.toList, c.toNat < 128) → Text.strip text ≠ "now" →
      (∀ items, ¬ Spells text.toList items) →
      (∀ items, Begins (Text.strip text).toList items → Fits 0 items) →
      readOffset text = .error (.request (.timeOffset (Text.strip text)))) ∧
    (∀ items, Begins (Text.strip text).toList items → ¬ Fits 0 items →
      ∃ f, Overrun f ∧ readOffset text = .error f) ∧
    (Text.strip text ≠ "now" → ∀ outcome, readOffset text = outcome ↔
      Scans (Text.strip text) 0 (Text.strip text).toList outcome) ∧
    (∀ micros, -(greatestSpan * microsPerDay) ≤ micros → micros ≤ greatestSpan * microsPerDay →
      ¬ TooFar micros) := by
  refine ⟨fun nothing => ?_, fun items => readOffset_spells, ?_, readOffset_refused,
    fun items => readOffset_unfit, fun now outcome => readOffset_iff now, fun micros => not_tooFar⟩
  · unfold readOffset
    exact if_pos nothing
  · intro other items others first second fitsFirst fitsSecond fits
    refine ⟨_, _, readOffset_spells first fitsFirst, readOffset_spells second fitsSecond, ?_⟩
    have joined : Spells (text ++ " " ++ other).toList (items ++ others) := by
      rw [String.toList_append, String.toList_append, List.append_assoc]
      exact first.joined second
    rw [readOffset_spells joined fits, List.map_append, List.sum_append]

namespace Sample

def twoHours : WrittenItem where
  sign := ['+']
  digits := ['2']
  gap := [' ']
  unit := ⟨"hour", 3600000000⟩
  name := "hour".toList
  plural := ['s']
  isSign := Or.inr (Or.inr rfl)
  some_digit := by decide
  decimal := List.all_eq_true.mp rfl
  spaced := List.all_eq_true.mp rfl
  known := by simp [timeUnits]
  spelled := by decide
  isPlural := Or.inr (Or.inl rfl)

def lessThirtyMinutes : WrittenItem where
  sign := ['-']
  digits := ['3', '0']
  gap := []
  unit := ⟨"minute", 60000000⟩
  name := "Minute".toList
  plural := []
  isSign := Or.inr (Or.inl rfl)
  some_digit := by decide
  decimal := List.all_eq_true.mp rfl
  spaced := List.forall_mem_nil _
  known := by simp [timeUnits]
  spelled := by decide
  isPlural := Or.inl rfl

theorem not_spells_yesterday (items : List WrittenItem) : ¬ Spells "yesterday".toList items := by
  intro spells
  have solid := spells.blank_of_none rfl 'y' List.mem_cons_self
  cases solid

theorem offsets_read : readOffset " +2 hours -30Minute " = .ok 5400000000 ∧
    readOffset "yesterday" = .error (.request (.timeOffset "yesterday")) := by
  have start : ¬ TooFar 0 := not_tooFar (by decide) (by decide)
  constructor
  · have blank : ∀ c ∈ [' '], Text.isBlank c = true := List.forall_mem_singleton.mpr rfl
    have spells : Spells " +2 hours -30Minute ".toList [twoHours, lessThirtyMinutes] :=
      .item blank twoHours (.item blank lessThirtyMinutes (.blank blank))
    have hours : twoHours.micros = 7200000000 := rfl
    have minutes : lessThirtyMinutes.micros = -1800000000 := rfl
    have both : (7200000000 : Int) + -1800000000 = 5400000000 := rfl
    have two : ¬ TooFar 7200000000 := not_tooFar (by decide) (by decide)
    have fits : Fits 0 [twoHours, lessThirtyMinutes] := by
      simp only [fits_cons, fits_nil, hours, minutes, Int.zero_add, both]
      exact ⟨start, by decide, two, two, by decide, not_tooFar (by decide) (by decide),
        not_tooFar (by decide) (by decide)⟩
    have sum : ([twoHours, lessThirtyMinutes].map WrittenItem.micros).sum = 5400000000 := by
      simp only [List.map_cons, List.map_nil, List.sum_cons, List.sum_nil, hours, minutes,
        Int.add_zero, both]
    rw [(offsets_add_up _).2.1 _ spells fits, sum]
  · have ascii : "yesterday".toList.all (·.toNat < 128) = true := by decide
    refine (offsets_add_up "yesterday").2.2.2.1 ?_ (by decide) not_spells_yesterday ?_
    · exact fun c member => of_decide_eq_true (List.all_eq_true.mp ascii c member)
    · intro items begins
      rw [begins.eq_nil rfl]
      exact fits_nil.mpr start

/-- A text that is no sequence of items, and fails by the item it begins with. -/
theorem far_days_fail : (∀ c ∈ "99999999999 days x".toList, c.toNat < 128) ∧
    Text.strip "99999999999 days x" ≠ "" ∧ Text.strip "99999999999 days x" ≠ "now" ∧
    (∀ items, ¬ Spells "99999999999 days x".toList items) ∧
    readOffset "99999999999 days x" =
      .error (.fault .overflow "days out of range for a span of time") := by
  have ascii : "99999999999 days x".toList.all (·.toNat < 128) = true := by decide
  refine ⟨fun c member => of_decide_eq_true (List.all_eq_true.mp ascii c member), by decide,
    by decide, fun items spells => ?_, by rfl⟩
  have found : offsetItem? "99999999999 days x".toList =
      some ⟨"99999999999".toList, "day".toList, ['x']⟩ := rfl
  obtain ⟨others, behind⟩ := spells.rest found
  have solid := behind.blank_of_none rfl 'x' List.mem_cons_self
  cases solid

end Sample

end Curator
