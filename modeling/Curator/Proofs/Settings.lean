import Curator.Proofs.Number.Sizes
import Curator.Proofs.Text.Integers
import Curator.Proofs.Transform.Refusals
import Curator.Settings
/-!
# Settings and what they are made of

Which settings a document or the environment gives, and how it is refused.  A limit is the integer that
its value denotes: an integer, a floating-point number equal to it, or a text of it.  One that is not
given, null or empty is standard.  Two kinds of values that denote no integer are limits all the same:
a fraction is cut to its whole part, and bytes are read as text.  Other values are refused, and so are
limits out of bounds.  Two faults pass by the refusals: that of an infinity, and that of a value to be
quoted that holds an integer too long to be written.
-/

set_option autoImplicit false

namespace Curator

open Outcome Number Number.Binary64

/-! ## What limits are made of -/

/-- The integer a value denotes. -/
inductive Value.Denotes : Value → Int → Prop where
  | int (n : Int) : Denotes (.int n) n
  | float {x : Binary64} {n : Int} (size : x.size? = some ((n : ℚ) : Size)) : Denotes (.float x) n
  | text {s : String} {n : Int} (written : IntegerText s.toList n) : Denotes (.str s) n

namespace Settings

/-- The limit that is taken from a value, if the value gives one. -/
inductive GivesLimit : Value → Option Int → Prop where
  | null : GivesLimit .null none
  | blank : GivesLimit (.str "") none
  | denoted {v : Value} {n : Int} (denotes : v.Denotes n) : GivesLimit v (some n)
  /-- A fraction denotes no integer. -/
  | cut {x : Binary64} {q : ℚ} (size : x.size? = some (q : Size)) (fraction : ∀ n : Int, q ≠ n) :
    GivesLimit (.float x) (some (wholePart q))
  /-- Bytes are no text. -/
  | bytes {data : List UInt8} {n : Int} (written : IntegerText (asciiText data).toList n) :
    GivesLimit (.bytes data) (some n)

/-- The address that a value gives: a text with a scheme. -/
inductive GivesUrl : Value → Option String → Prop where
  | null : GivesUrl .null none
  | text {url : String} (scheme : Text.holds url "://" = true) : GivesUrl (.str url) (some url)

/-- Something for each of the four limits. -/
structure Limits (α : Type) where
  defaultLimit : α
  maxLimit : α
  maxRelatedDepth : α
  maxFilterDepth : α

structure Bounded (s : Settings) : Prop where
  defaultLimit : -1 ≤ s.defaultLimit
  maxLimit : -1 ≤ s.maxLimit
  maxRelatedDepth : 1 ≤ s.maxRelatedDepth
  maxFilterDepth : ∀ depth ∈ s.maxFilterDepth, 1 ≤ depth

/-- Settings made of given values, the limits that are not given being standard. -/
structure MadeOf (s : Settings) (limits : Limits Value) (url : Value) : Prop where
  defaultLimit : ∃ n, GivesLimit limits.defaultLimit n ∧ s.defaultLimit = n.getD 100
  maxLimit : ∃ n, GivesLimit limits.maxLimit n ∧ s.maxLimit = n.getD (-1)
  maxRelatedDepth : ∃ n, GivesLimit limits.maxRelatedDepth n ∧ s.maxRelatedDepth = n.getD 3
  maxFilterDepth : GivesLimit limits.maxFilterDepth s.maxFilterDepth
  url : GivesUrl url s.databaseUrl
  bounded : s.Bounded

/-- A fault of a limit that no refusal takes the place of. -/
inductive PassesBy : Value → Failure → Prop where
  | infinite {negative : Bool} {f : Failure} (overflow : f.category = .fault .overflow) :
    PassesBy (.float (.infinite negative)) f
  | unwritable {v : Value} (long : v.isWritable = false) : PassesBy v .digits

section

variable {v : Value} {n : Option Int} {x : Binary64} {q : ℚ} {s : Settings}

/-! ## Reading a limit -/

/-- What a floating-point number gives. -/
theorem integerOfFloat_eq_ok_iff {k : Int} :
    integerOfFloat x = .ok k ↔ ∃ q : ℚ, x.size? = some (q : Size) ∧ k = wholePart q := by
  cases x with
  | nan =>
    refine ⟨nofun, ?_⟩
    rintro ⟨q, size, _⟩
    cases size
  | infinite negative =>
    refine ⟨nofun, ?_⟩
    rintro ⟨q, size, _⟩
    have infinity : (if negative then ⊥ else ⊤ : Size) = (q : Size) := Option.some.inj size
    cases negative
    · exact absurd (WithBot.coe_injective infinity).symm (WithTop.coe_ne_top)
    · cases infinity
  | finite negative m e =>
    have size : Binary64.size? (.finite negative m e) =
      some (((if negative then -1 else 1) * m * 2 ^ e : ℚ) : Size) := rfl
    have opened : integerOfFloat (.finite negative m e) =
      .ok ((Binary64.finite negative m e).truncated?.getD 0) := rfl
    rw [opened, truncated?_finite size]
    constructor
    · intro ok
      cases ok
      exact ⟨_, size, rfl⟩
    · rintro ⟨q, same, rfl⟩
      rw [eq_of_size same size]
      rfl

theorem integerOfText_eq_ok_iff {text : String} {k : Int} :
    integerOfText text = .ok k ↔ IntegerText text.toList k := by
  rw [← readInteger_eq_ok_iff]
  unfold integerOfText
  cases readInteger text with
  | ok n => simp
  | error fault => cases fault <;> simp

theorem toInteger_bytes_iff {data : List UInt8} {k : Int} :
    (Value.bytes data).toInteger = .ok k ↔ IntegerText (asciiText data).toList k := by
  rw [← readInteger_eq_ok_iff, Value.toInteger]
  cases readInteger (asciiText data) with
  | ok n => simp
  | error fault => simp

theorem givesLimit_none : GivesLimit v none ↔ v = .null ∨ v = .str "" := by
  constructor
  · intro gives
    cases gives with
    | null => exact Or.inl rfl
    | blank => exact Or.inr rfl
  · rintro (rfl | rfl)
    · exact .null
    · exact .blank

/-- The integers that are taken are those of the conversion, but for that of a truth value. -/
theorem givesLimit_some {k : Int} :
    GivesLimit v (some k) ↔ v.toInteger = .ok k ∧ ∀ b, v ≠ .bool b := by
  cases v with
  | bool b =>
    refine ⟨fun gives => ?_, fun ⟨_, apart⟩ => absurd rfl (apart b)⟩
    cases gives with
    | denoted denotes => cases denotes
  | int m =>
    constructor
    · intro gives
      cases gives with
      | denoted denotes =>
        cases denotes
        exact ⟨rfl, nofun⟩
    · rintro ⟨ok, _⟩
      cases ok
      exact .denoted (.int _)
  | float x =>
    constructor
    · intro gives
      cases gives with
      | denoted denotes =>
        cases denotes with
        | float size =>
          exact ⟨integerOfFloat_eq_ok_iff.mpr ⟨_, size, (wholePart_int k).symm⟩, nofun⟩
      | cut size fraction => exact ⟨integerOfFloat_eq_ok_iff.mpr ⟨_, size, rfl⟩, nofun⟩
    · rintro ⟨ok, _⟩
      obtain ⟨q, size, rfl⟩ := integerOfFloat_eq_ok_iff.mp ok
      by_cases whole : ∃ k : Int, q = k
      · obtain ⟨k, rfl⟩ := whole
        rw [wholePart_int]
        exact .denoted (.float size)
      · exact .cut size fun k same => whole ⟨k, same⟩
  | str text =>
    constructor
    · intro gives
      cases gives with
      | denoted denotes =>
        cases denotes with
        | text written => exact ⟨integerOfText_eq_ok_iff.mpr written, nofun⟩
    · rintro ⟨ok, _⟩
      exact .denoted (.text (integerOfText_eq_ok_iff.mp ok))
  | bytes data =>
    constructor
    · intro gives
      cases gives with
      | denoted denotes => cases denotes
      | bytes written => exact ⟨toInteger_bytes_iff.mpr written, nofun⟩
    · rintro ⟨ok, _⟩
      exact .bytes (toInteger_bytes_iff.mp ok)
  | null | date | moment | list | dict =>
    refine ⟨fun gives => ?_, fun ⟨ok, _⟩ => nomatch ok⟩
    cases gives with
    | denoted denotes => cases denotes

theorem readLimit_eq_ok_iff (name : String) : readLimit name v = .ok n ↔ GivesLimit v n := by
  have blank : (Value.str "").toInteger = .error (.fault .value
    ("invalid literal for int() with base 10: " ++ Value.stringLiteral "")) := rfl
  cases n with
  | none =>
    rw [givesLimit_none]
    unfold readLimit
    split
    · simp
    · simp
    · simp
    · rename_i null empty _
      refine ⟨fun ok => ?_, fun unset => ?_⟩
      · split at ok
        · cases ok
        · split at ok
          · cases ok
          · cases ok
      · rcases unset with rfl | rfl
        · exact absurd rfl null
        · exact absurd rfl empty
  | some k =>
    rw [givesLimit_some]
    unfold readLimit
    split
    · exact ⟨nofun, fun ⟨ok, _⟩ => nomatch ok⟩
    · rw [blank]
      exact ⟨nofun, fun ⟨ok, _⟩ => nomatch ok⟩
    · exact ⟨nofun, fun ⟨_, apart⟩ => absurd rfl (apart _)⟩
    · rename_i truth
      cases given : v.toInteger with
      | ok m =>
        simp only [Except.ok.injEq, Option.some.injEq]
        exact ⟨fun same => ⟨same, fun b => truth b⟩, And.left⟩
      | error failure =>
        refine ⟨fun ok => ?_, fun ⟨ok, _⟩ => nomatch ok⟩
        simp only at ok
        split at ok
        · cases ok
        · cases ok

theorem quoting_cases (v : Value) (failure : Value → Failure) :
    Failure.quoting v failure = failure v ∨
      v.isWritable = false ∧ Failure.quoting v failure = .digits := by
  unfold Failure.quoting
  cases v.isWritable with
  | true => exact Or.inl rfl
  | false => exact Or.inr ⟨rfl, rfl⟩

/-- A limit that is not taken is refused by its name, unless a fault passes by. -/
theorem readLimit_fails (name : String) (v : Value) : FailsOnly (readLimit name v) fun f =>
    (f = .configuration (.settingNotInteger name) ∨
      f = .configuration (.settingUnreadable name v)) ∨ PassesBy v f := by
  unfold readLimit
  split
  · exact failsOnly_ok _
  · exact failsOnly_ok _
  · exact failsOnly_error (Or.inl (Or.inl rfl))
  · split
    · exact failsOnly_ok _
    · rename_i failure fails
      split
      · apply failsOnly_error
        rcases quoting_cases v fun v => .configuration (.settingUnreadable name v) with
          same | ⟨long, same⟩
        · exact Or.inl (Or.inr same)
        · rw [same]
          exact Or.inr (.unwritable long)
      · rename_i unrefused
        rcases Value.toInteger_fails v failure fails with refused | ⟨negative, rfl, overflow⟩
        · exact absurd refused unrefused
        · exact failsOnly_error (Or.inr (.infinite overflow))

/-! ## Checks -/

theorem checkUrl_eq_ok_iff {url : Option String} : checkUrl v = .ok url ↔ GivesUrl v url := by
  unfold checkUrl
  split
  · constructor
    · intro ok
      cases ok
      exact .null
    · rintro ⟨⟩
      rfl
  · split
    · rename_i scheme
      constructor
      · intro ok
        cases ok
        exact .text scheme
      · rintro ⟨⟩
        rfl
    · rename_i none
      refine ⟨nofun, fun gives => ?_⟩
      cases gives with
      | text scheme => exact absurd scheme none
  · rename_i null text
    refine ⟨nofun, fun gives => ?_⟩
    cases gives with
    | null => exact absurd rfl null
    | text => exact absurd rfl (text _)

theorem checkUrl_fails (v : Value) : FailsOnly (checkUrl v) fun f =>
    f = .configuration (.databaseUrl v) ∨ v.isWritable = false ∧ f = .digits := by
  unfold checkUrl
  split
  · exact failsOnly_ok _
  · split
    · exact failsOnly_ok _
    · exact failsOnly_error (Or.inl rfl)
  · apply failsOnly_error
    rcases quoting_cases v fun v => .configuration (.databaseUrl v) with same | ⟨long, same⟩
    · exact Or.inl same
    · exact Or.inr ⟨long, same⟩

theorem below_one_iff {depth : Option Int} :
    (depth.map fun depth => decide (depth < 1)) = some true ↔ ¬ ∀ d ∈ depth, 1 ≤ d := by
  cases depth with
  | none => simp
  | some d => simp

/-- Settings are made of a draft within its bounds. -/
theorem ofDraft_eq_ok_iff {draft : Draft} : ofDraft draft = .ok s ↔
    s.defaultLimit = draft.defaultLimit.getD 100 ∧ s.maxLimit = draft.maxLimit.getD (-1) ∧
      s.maxRelatedDepth = draft.maxRelatedDepth.getD 3 ∧ s.maxFilterDepth = draft.maxFilterDepth ∧
      GivesUrl draft.databaseUrl s.databaseUrl ∧ s.Bounded := by
  rw [← checkUrl_eq_ok_iff]
  unfold ofDraft
  simp only [standard, below_one_iff]
  constructor
  · intro ok
    split at ok
    · cases ok
    · rename_i limits
      split at ok
      · cases ok
      · rename_i related
        split at ok
        · cases ok
        · rename_i filter
          obtain ⟨url, checked, ok⟩ := bind_ok ok
          cases pure_ok ok
          rw [not_or] at limits
          exact ⟨rfl, rfl, rfl, rfl, checked, not_lt.mp limits.1, not_lt.mp limits.2,
            not_lt.mp related, not_not.mp filter⟩
  · obtain ⟨defaultLimit, maxLimit, maxRelatedDepth, maxFilterDepth, databaseUrl⟩ := s
    rintro ⟨rfl, rfl, rfl, rfl, checked, bounded⟩
    have limits := not_or.mpr ⟨not_lt.mpr bounded.defaultLimit, not_lt.mpr bounded.maxLimit⟩
    rw [if_neg limits, if_neg (not_lt.mpr bounded.maxRelatedDepth),
      if_neg (not_not.mpr bounded.maxFilterDepth), checked]
    rfl

theorem ofDraft_fails (draft : Draft) : FailsOnly (ofDraft draft) fun f =>
    f.category = .configuration ∨ draft.databaseUrl.isWritable = false ∧ f = .digits := by
  unfold ofDraft
  simp only
  split
  · exact failsOnly_error (Or.inl rfl)
  · split
    · exact failsOnly_error (Or.inl rfl)
    · split
      · exact failsOnly_error (Or.inl rfl)
      · refine ((checkUrl_fails _).mono fun f cause => ?_).bind fun _ _ => failsOnly_pure _
        exact cause.imp_left fun same => by rw [same]; rfl

/-! ## Settings of values -/

/-- The settings of values, each limit under its name. -/
def ofValues (names : Limits String) (limits : Limits Value) (url : Value) :
    Except Failure Settings := do
  let defaultLimit ← readLimit names.defaultLimit limits.defaultLimit
  let maxLimit ← readLimit names.maxLimit limits.maxLimit
  let maxRelatedDepth ← readLimit names.maxRelatedDepth limits.maxRelatedDepth
  let maxFilterDepth ← readLimit names.maxFilterDepth limits.maxFilterDepth
  ofDraft ⟨defaultLimit, maxLimit, maxRelatedDepth, maxFilterDepth, url⟩

def Limits.all {α : Type} (limits : Limits α) : List α :=
  [limits.defaultLimit, limits.maxLimit, limits.maxRelatedDepth, limits.maxFilterDepth]

theorem ofValues_eq_ok_iff {names : Limits String} {limits : Limits Value} {url : Value} :
    ofValues names limits url = .ok s ↔ s.MadeOf limits url := by
  constructor
  · intro ok
    obtain ⟨defaultLimit, first, ok⟩ := bind_ok ok
    obtain ⟨maxLimit, second, ok⟩ := bind_ok ok
    obtain ⟨maxRelatedDepth, third, ok⟩ := bind_ok ok
    obtain ⟨maxFilterDepth, fourth, ok⟩ := bind_ok ok
    obtain ⟨rows, most, related, filter, address, bounded⟩ := ofDraft_eq_ok_iff.mp ok
    rw [readLimit_eq_ok_iff] at first second third fourth
    exact ⟨⟨_, first, rows⟩, ⟨_, second, most⟩, ⟨_, third, related⟩, filter ▸ fourth, address,
      bounded⟩
  · rintro ⟨⟨defaultLimit, first, rows⟩, ⟨maxLimit, second, most⟩,
      ⟨maxRelatedDepth, third, related⟩, fourth, address, bounded⟩
    have draft : ofDraft ⟨defaultLimit, maxLimit, maxRelatedDepth, s.maxFilterDepth, url⟩ = .ok s :=
      ofDraft_eq_ok_iff.mpr ⟨rows, most, related, rfl, address, bounded⟩
    unfold ofValues
    rw [(readLimit_eq_ok_iff _).mpr first, ok_bind, (readLimit_eq_ok_iff _).mpr second, ok_bind,
      (readLimit_eq_ok_iff _).mpr third, ok_bind, (readLimit_eq_ok_iff _).mpr fourth, ok_bind]
    exact draft

theorem ofValues_fails (names : Limits String) (limits : Limits Value) (url : Value) :
    FailsOnly (ofValues names limits url) fun f => f.category = .configuration ∨
      (∃ v ∈ limits.all, PassesBy v f) ∨ url.isWritable = false ∧ f = .digits := by
  have reads : ∀ name, ∀ v ∈ limits.all, FailsOnly (readLimit name v) fun f =>
      f.category = .configuration ∨ (∃ v ∈ limits.all, PassesBy v f) ∨
        url.isWritable = false ∧ f = .digits := by
    intro name v member
    refine (readLimit_fails name v).mono fun f cause => ?_
    rcases cause with (rfl | rfl) | passes
    · exact Or.inl rfl
    · exact Or.inl rfl
    · exact Or.inr (Or.inl ⟨v, member, passes⟩)
  refine (reads _ _ (by simp [Limits.all])).bind fun _ _ => ?_
  refine (reads _ _ (by simp [Limits.all])).bind fun _ _ => ?_
  refine (reads _ _ (by simp [Limits.all])).bind fun _ _ => ?_
  refine (reads _ _ (by simp [Limits.all])).bind fun _ _ => ?_
  exact (ofDraft_fails _).mono fun f cause => cause.imp_right Or.inr

end

/-! ## Documents and the environment -/

/-- The values of a document that are read as limits; what is not there is null. -/
def documentLimits (data : Record) : Limits Value :=
  let entry := fun (key : String) => (data.value? key).getD .null
  ⟨entry "defaultLimit", entry "maxLimit", entry "maxRelatedDepth", entry "maxFilterDepth"⟩

def documentUrl (data : Record) : Value := (data.value? "database").getD .null

/-- The variables of the environment that are read as limits, as texts. -/
def environmentLimits (env : Mapping String) : Limits Value :=
  let variable_ := fun (name : String) =>
    ((env.value? (environmentMark ++ name)).map Value.str).getD .null
  ⟨variable_ "DEFAULT_LIMIT", variable_ "MAX_LIMIT", variable_ "MAX_RELATED_DEPTH",
    variable_ "MAX_FILTER_DEPTH"⟩

/-- The address in the environment; an empty one is none. -/
def environmentUrl (env : Mapping String) : Value :=
  match env.value? urlVariable with
  | some url => if url = "" then .null else .str url
  | none => .null

theorem ofEntries_eq (data : Record) : ofEntries data =
    ofValues ⟨"defaultLimit", "maxLimit", "maxRelatedDepth", "maxFilterDepth"⟩ (documentLimits data)
      (documentUrl data) := rfl

theorem ofDocument_dict (data : Record) : ofDocument (.dict data) = ofEntries data := by
  cases data with
  | nil => rfl
  | cons entry rest => rfl

theorem ofEnvironment_eq (env : Mapping String) : ofEnvironment env =
    ofValues ⟨environmentMark ++ "DEFAULT_LIMIT", environmentMark ++ "MAX_LIMIT",
      environmentMark ++ "MAX_RELATED_DEPTH", environmentMark ++ "MAX_FILTER_DEPTH"⟩
      (environmentLimits env) (environmentUrl env) := rfl

theorem environmentLimits_text (env : Mapping String) :
    ∀ v ∈ (environmentLimits env).all, v = .null ∨ ∃ text, v = .str text := by
  have texts : ∀ name, ((env.value? name).map Value.str).getD .null = .null ∨
      ∃ text, ((env.value? name).map Value.str).getD .null = .str text := by
    intro name
    cases env.value? name with
    | none => exact Or.inl rfl
    | some text => exact Or.inr ⟨text, rfl⟩
  intro v member
  simp only [Limits.all, environmentLimits, List.mem_cons, List.not_mem_nil, or_false] at member
  rcases member with rfl | rfl | rfl | rfl
  · exact texts _
  · exact texts _
  · exact texts _
  · exact texts _

theorem environmentUrl_writable (env : Mapping String) :
    (environmentUrl env).isWritable = true := by
  unfold environmentUrl
  split
  · split
    · rfl
    · rfl
  · rfl

/-- In the environment all limits are texts, and no fault passes by. -/
theorem ofEnvironment_fails (env : Mapping String) :
    FailsOnly (ofEnvironment env) (·.category = .configuration) := by
  rw [ofEnvironment_eq]
  refine (ofValues_fails _ _ _).mono fun f cause => ?_
  rcases cause with refused | ⟨v, member, passes⟩ | ⟨long, _⟩
  · exact refused
  · rcases environmentLimits_text env v member with rfl | ⟨text, rfl⟩
    · cases passes with
      | unwritable long => cases long
    · cases passes with
      | unwritable long => cases long
  · rw [environmentUrl_writable] at long
    cases long

/-- The settings of a document are made of its values and those of the environment of its texts, and
they are within their bounds.  A limit is standard if it is not given, null or empty, and else it is
what its value denotes: the integer that it is or is equal to, or whose text it is; only a fraction is
cut to its whole part, and bytes are read as if they were text.  All else is refused.  Of the
environment nothing but a refusal comes out, and every limit is denoted.  Of a document two faults come
out too: that of an infinity among its limits, and that of a limit or an address that is to be quoted
and holds an integer too long to be written. -/
theorem settings_taken_or_refused (data : Record) (env : Mapping String) :
    (∀ s, ofDocument (.dict data) = .ok s ↔ s.MadeOf (documentLimits data) (documentUrl data)) ∧
    FailsOnly (ofDocument (.dict data)) (fun f => f.category = .configuration ∨
      (∃ v ∈ (documentLimits data).all, PassesBy v f) ∨
        (documentUrl data).isWritable = false ∧ f = .digits) ∧
    (∀ s, ofEnvironment env = .ok s ↔ s.MadeOf (environmentLimits env) (environmentUrl env)) ∧
    FailsOnly (ofEnvironment env) (·.category = .configuration) ∧
    ∀ v ∈ (environmentLimits env).all, ∀ n, GivesLimit v (some n) → v.Denotes n := by
  rw [ofDocument_dict, ofEntries_eq]
  refine ⟨fun s => ofValues_eq_ok_iff, ofValues_fails _ _ _, fun s => ?_,
    ofEnvironment_fails env, ?_⟩
  · rw [ofEnvironment_eq]
    exact ofValues_eq_ok_iff
  · intro v member n gives
    rcases environmentLimits_text env v member with rfl | ⟨text, rfl⟩
    · cases gives with
      | denoted denotes => exact denotes
    · cases gives with
      | denoted denotes => exact denotes

end Settings

namespace Sample

open Settings

/-- A text and a floating-point number as limits, and an address. -/
def givenSettings : Record :=
  [("defaultLimit", .str " +2_5 "), ("maxLimit", .float (.finite false (2 ^ 52) (-50))),
    ("maxFilterDepth", .str ""), ("database", .str "sqlite:///app.db")]

def fractionVariable : Mapping String := [("RESOURCEFORGE_MAX_LIMIT", "1.5")]

theorem given_settings_taken :
    ofDocument (.dict givenSettings) = .ok ⟨25, 4, 3, none, some "sqlite:///app.db"⟩ ∧
      ∃ f, ofEnvironment fractionVariable = .error f ∧ f.category = .configuration := by
  obtain ⟨taken, _, _, refused, _⟩ := settings_taken_or_refused givenSettings fractionVariable
  constructor
  · have rows : IntegerText " +2_5 ".toList 25 := integerText_of_readInteger rfl
    have most : (Binary64.finite false (2 ^ 52) (-50)).size? = some (((4 : Int) : ℚ) : Size) := by
      rw [Binary64.size?]
      norm_num
    exact (taken _).mpr ⟨⟨_, .denoted (.text rows), rfl⟩, ⟨_, .denoted (.float most), rfl⟩,
      ⟨_, .null, rfl⟩, .blank, .text (by decide), by decide, by decide, by decide, by simp⟩
  · exact ⟨_, rfl, refused _ rfl⟩

/-- One and a half. -/
def oneAndHalf : Binary64 := .finite false (3 * 2 ^ 51) (-52)

/-- Positive infinity comes out as a fault, a fraction is cut, and bytes are read. -/
theorem limits_not_denoted :
    (∃ f, ofDocument (.dict [("maxLimit", .float (.infinite false))]) = .error f ∧
      f.category = .fault .overflow) ∧
    (ofDocument (.dict [("defaultLimit", .float oneAndHalf)]) =
        .ok { standard with defaultLimit := 1 } ∧ ∀ n, ¬ (Value.float oneAndHalf).Denotes n) ∧
    ofDocument (.dict [("defaultLimit", .bytes [0x37])]) = .ok { standard with defaultLimit := 7 } ∧
      ∀ n, ¬ (Value.bytes [0x37]).Denotes n := by
  refine ⟨⟨_, rfl, rfl⟩, ⟨by rfl, ?_⟩, by rfl, nofun⟩
  rintro n ⟨⟩
  rename_i size
  have value : oneAndHalf.size? = some ((3 / 2 : ℚ) : Size) := by
    rw [oneAndHalf, Binary64.size?]
    norm_num
  have half : (3 / 2 : ℚ) = n := eq_of_size value size
  have whole : (3 : ℚ) = 2 * n := by rw [← half]; norm_num
  have odd : (3 : Int) = 2 * n := by exact_mod_cast whole
  omega

end Sample

end Curator
