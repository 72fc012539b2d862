import Curator.Proofs.Sql.Formula
/-!
# Writes as tokens

What a database reads in an insert, an update and a deletion with their parameters in place: which
columns of a table take which values, what its rows are tested for, and what is done where a new row
meets another.  A write is read back from the tokens it is written with.
-/

set_option autoImplicit false

namespace Curator.Sql

/-! ## The reader -/

/-- What is done where a new row meets another. -/
inductive Clash where
  | fails
  /-- The row that is there stays as it is. -/
  | keeps (target : List String)
  /-- Columns of the row that is there take the values of columns of the new row. -/
  | takes (target : List String) (assigned : List (String × String))

/-- A write of the rows of a table.  A test is for a value, or for null where there is none. -/
inductive Write where
  | insert (table : String) (row : List (String × Value)) (clash : Clash)
  | update (table : String) (assigned : List (String × Value))
    (tests : List (String × Option Value))
  | delete (table : String) (tests : List (String × Option Value))

/-- The values of a write, in the order in which they are written. -/
def Write.values : Write → List Value
  | .insert _ row _ => row.map (·.2)
  | .update _ assigned tests => assigned.map (·.2) ++ tests.filterMap (·.2)
  | .delete _ tests => tests.filterMap (·.2)

/-- The tokens behind words that stand in front. -/
def afterWords? : List String → List Token → Option (List Token)
  | [], ts => some ts
  | _ :: _, [] => none
  | word :: words, t :: ts => if t.isWord word.toList then afterWords? words ts else none

/-- The name in front, and the tokens behind it. -/
def takeName? : List Token → Option (String × List Token)
  | .quoted '"' name :: rest => some (String.ofList name, rest)
  | _ => none

/-- What stands in the parentheses in front, and the tokens behind them. -/
def takeWrapped? : List Token → Option (List Token × List Token)
  | .sign '(' :: rest => closing 0 rest
  | _ => none

/-- The items between commas, each of them read; no tokens are no items. -/
def readItems? {α : Type} (item? : List Token → Option α) (ts : List Token) : Option (List α) :=
  if ts.isEmpty then some [] else (ts.splitOnP (Token.isSign ',')).mapM item?

def readName? : List Token → Option String
  | [.quoted '"' name] => some (String.ofList name)
  | _ => none

def readBound? : List Token → Option Value
  | [.value v] => some v
  | _ => none

/-- A column that takes a value. -/
def readAssigned? : List Token → Option (String × Value)
  | [.quoted '"' name, .sign '=', .value v] => some (String.ofList name, v)
  | _ => none

/-- A column that takes the value of a column of the new row. -/
def readTaken? : List Token → Option (String × String)
  | [.quoted '"' name, .sign '=', t, .sign '.', .quoted '"' source] =>
    if t.isWord "EXCLUDED".toList then some (String.ofList name, String.ofList source) else none
  | _ => none

/-- A column that is tested. -/
def readTest? : List Token → Option (String × Option Value)
  | [.quoted '"' name, .sign '=', .value v] => some (String.ofList name, some v)
  | [.quoted '"' name, t, u] =>
    if t.isWord "IS".toList && u.isWord "NULL".toList then some (String.ofList name, none) else none
  | _ => none

/-- The tests between ANDs behind the word before conditions; no tokens are no tests. -/
def readTests? (ts : List Token) : Option (List (String × Option Value)) :=
  if ts.isEmpty then some []
  else do
    let tests ← afterWords? ["WHERE"] ts
    (divide .and tests).mapM readTest?

def readClash? (ts : List Token) : Option Clash :=
  if ts.isEmpty then some .fails
  else do
    let ts ← afterWords? ["ON", "CONFLICT"] ts
    let (target, ts) ← takeWrapped? ts
    let target ← readItems? readName? target
    let ts ← afterWords? ["DO"] ts
    match afterWords? ["NOTHING"] ts with
    | some [] => some (.keeps target)
    | _ => do
      let ts ← afterWords? ["UPDATE", "SET"] ts
      let assigned ← readItems? readTaken? ts
      some (.takes target assigned)

/-- An insert has as many values as columns. -/
def readInsert? (ts : List Token) : Option Write := do
  let ts ← afterWords? ["INSERT", "INTO"] ts
  let (table, ts) ← takeName? ts
  let (columns, ts) ← takeWrapped? ts
  let ts ← afterWords? ["VALUES"] ts
  let (values, ts) ← takeWrapped? ts
  let columns ← readItems? readName? columns
  let values ← readItems? readBound? values
  let clash ← readClash? ts
  if columns.length = values.length then some (.insert table (columns.zip values) clash) else none

def readUpdate? (ts : List Token) : Option Write := do
  let ts ← afterWords? ["UPDATE"] ts
  let (table, ts) ← takeName? ts
  let ts ← afterWords? ["SET"] ts
  let assigned ← readItems? readAssigned? (ts.takeWhile fun t => !t.isWord "WHERE".toList)
  let tests ← readTests? (ts.dropWhile fun t => !t.isWord "WHERE".toList)
  some (.update table assigned tests)

def readDelete? (ts : List Token) : Option Write := do
  let ts ← afterWords? ["DELETE", "FROM"] ts
  let (table, ts) ← takeName? ts
  let tests ← readTests? ts
  some (.delete table tests)

def readWrite? (ts : List Token) : Option Write :=
  (readInsert? ts).or ((readUpdate? ts).or (readDelete? ts))

/-! ## Writes as tokens -/

def nameToken (name : String) : Token := .quoted '"' name.toList

def wordTokens (words : List String) : List Token := words.map fun word => .word word.toList

/-- Items with commas between them. -/
def itemTokens (items : List (List Token)) : List Token := [Token.sign ','].intercalate items

def assignedTokens (entry : String × Value) : List Token :=
  [nameToken entry.1, .sign '=', .value entry.2]

def takenTokens (entry : String × String) : List Token :=
  [nameToken entry.1, .sign '=', .word "excluded".toList, .sign '.', nameToken entry.2]

def testTokens : String × Option Value → List Token
  | (column, some v) => assignedTokens (column, v)
  | (column, none) => nameToken column :: wordTokens ["IS", "NULL"]

/-- Names in parentheses. -/
def namesTokens (names : List String) : List Token :=
  wrapped (itemTokens (names.map fun name => [nameToken name]))

/-- Values in parentheses. -/
def boundTokens (values : List Value) : List Token :=
  wrapped (itemTokens (values.map fun v => [.value v]))

def testsTokens (tests : List (String × Option Value)) : List Token :=
  if tests.isEmpty then [] else wordTokens ["WHERE"] ++ joinTokens .and (tests.map testTokens)

def Clash.tokens : Clash → List Token
  | .fails => []
  | .keeps target =>
    wordTokens ["ON", "CONFLICT"] ++ (namesTokens target ++ wordTokens ["DO", "NOTHING"])
  | .takes target assigned =>
    wordTokens ["ON", "CONFLICT"] ++ (namesTokens target ++
      (wordTokens ["DO", "UPDATE", "SET"] ++ itemTokens (assigned.map takenTokens)))

def Write.tokens : Write → List Token
  | .insert table row clash =>
    wordTokens ["INSERT", "INTO"] ++ nameToken table :: (namesTokens (row.map (·.1)) ++
      (wordTokens ["VALUES"] ++ (boundTokens (row.map (·.2)) ++ clash.tokens)))
  | .update table assigned tests =>
    wordTokens ["UPDATE"] ++ nameToken table ::
      (wordTokens ["SET"] ++ (itemTokens (assigned.map assignedTokens) ++ testsTokens tests))
  | .delete table tests => wordTokens ["DELETE", "FROM"] ++ nameToken table :: testsTokens tests

section

variable {α : Type} {item? : List Token → Option α} {tokens : α → List Token} {rest : List Token}

theorem mapM_read {items : List α} (reads : ∀ a ∈ items, item? (tokens a) = some a) :
    (items.map tokens).mapM item? = some items := by
  induction items with
  | nil => rfl
  | cons a others ih =>
    obtain ⟨own, later⟩ := List.forall_mem_cons.mp reads
    rw [List.map_cons, List.mapM_cons, own, ih later]
    rfl

/-- Items are read from their tokens, if there is no comma in these. -/
theorem readItems?_tokens {items : List α} (reads : ∀ a ∈ items, item? (tokens a) = some a)
    (written : ∀ a ∈ items, tokens a ≠ [])
    (apart : ∀ a ∈ items, ∀ t ∈ tokens a, t.isSign ',' = false) :
    readItems? item? (itemTokens (items.map tokens)) = some items := by
  cases items with
  | nil => rfl
  | cons a others =>
    have solid : (itemTokens ((a :: others).map tokens)).isEmpty = false := by
      have own := written a List.mem_cons_self
      cases others with
      | nil => simpa [itemTokens] using own
      | cons b more => simp [itemTokens, List.intercalate_cons_cons, own]
    have parts : ∀ part ∈ (a :: others).map tokens, ∀ t ∈ part, t.isSign ',' = false := by
      intro part member
      obtain ⟨b, inside, rfl⟩ := List.mem_map.mp member
      exact apart b inside
    rw [readItems?, solid, itemTokens, Text.splitOnP_intercalate rfl (by simp) parts]
    exact mapM_read reads

theorem readItems?_names (names : List String) :
    readItems? readName? (itemTokens (names.map fun name => [nameToken name])) = some names := by
  apply readItems?_tokens
  · intro name _
    simp [readName?, nameToken]
  · simp
  · intro name _ t member
    rw [List.mem_singleton.mp member]
    rfl

theorem readItems?_bound (values : List Value) :
    readItems? readBound? (itemTokens (values.map fun v => [.value v])) = some values := by
  apply readItems?_tokens
  · exact fun _ _ => rfl
  · simp
  · intro v _ t member
    rw [List.mem_singleton.mp member]
    rfl

theorem readItems?_assigned (assigned : List (String × Value)) :
    readItems? readAssigned? (itemTokens (assigned.map assignedTokens)) = some assigned := by
  apply readItems?_tokens
  · intro entry _
    simp [readAssigned?, assignedTokens, nameToken]
  · simp [assignedTokens]
  · intro entry _
    simp [assignedTokens, nameToken, Token.isSign]

theorem readItems?_taken (assigned : List (String × String)) :
    readItems? readTaken? (itemTokens (assigned.map takenTokens)) = some assigned := by
  apply readItems?_tokens
  · intro entry _
    have read : readTaken? (takenTokens entry) =
      some (String.ofList entry.1.toList, String.ofList entry.2.toList) := rfl
    rw [read, String.ofList_toList, String.ofList_toList]
  · simp [takenTokens]
  · intro entry _
    simp [takenTokens, nameToken, Token.isSign]

/-- What holds of a comma and of every token of the items holds of all tokens. -/
theorem all_itemTokens {p : Token → Bool} (comma : p (.sign ',') = true) {parts : List (List Token)}
    (each : ∀ part ∈ parts, part.all p = true) : (itemTokens parts).all p = true := by
  induction parts with
  | nil => rfl
  | cons part others ih =>
    obtain ⟨own, later⟩ := List.forall_mem_cons.mp each
    cases others with
    | nil => simpa [itemTokens] using own
    | cons next more =>
      have after := ih later
      simp only [itemTokens, List.intercalate_cons_cons, List.all_append, own, List.all_cons, comma,
        List.all_nil, Bool.true_and] at after ⊢
      exact after

theorem takeWrapped?_plain {ts : List Token} (plain : ts.all Token.isPlain = true)
    (rest : List Token) : takeWrapped? (wrapped ts ++ rest) = some (ts, rest) := by
  rw [wrapped_append, takeWrapped?]
  exact closing_wrapped (solid_plain plain).2 rest

theorem takeWrapped?_names (names : List String) (rest : List Token) :
    takeWrapped? (namesTokens names ++ rest) =
      some (itemTokens (names.map fun name => [nameToken name]), rest) := by
  refine takeWrapped?_plain (all_itemTokens rfl fun part member => ?_) rest
  obtain ⟨name, _, rfl⟩ := List.mem_map.mp member
  rfl

theorem takeWrapped?_bound (values : List Value) (rest : List Token) :
    takeWrapped? (boundTokens values ++ rest) =
      some (itemTokens (values.map fun v => [.value v]), rest) := by
  refine takeWrapped?_plain (all_itemTokens rfl fun part member => ?_) rest
  obtain ⟨v, _, rfl⟩ := List.mem_map.mp member
  rfl

theorem takeName?_token (name : String) (rest : List Token) :
    takeName? (nameToken name :: rest) = some (name, rest) := by
  simp [takeName?, nameToken]

theorem readTests?_tokens (tests : List (String × Option Value)) :
    readTests? (testsTokens tests) = some tests := by
  cases tests with
  | nil => rfl
  | cons first others =>
    have solid : ∀ ts ∈ (first :: others).map testTokens, Solid ts := by
      intro ts member
      obtain ⟨⟨column, value⟩, _, rfl⟩ := List.mem_map.mp member
      cases value with
      | none => exact (solid_plain rfl).1
      | some v => exact (solid_plain rfl).1
    have reads : ∀ test ∈ first :: others, readTest? (testTokens test) = some test := by
      rintro ⟨column, value⟩ _
      cases value with
      | none =>
        have read : readTest? (testTokens (column, none)) =
          some (String.ofList column.toList, none) := rfl
        rw [read, String.ofList_toList]
      | some v => simp [testTokens, assignedTokens, readTest?, nameToken]
    have words : ∀ rest, afterWords? ["WHERE"] (wordTokens ["WHERE"] ++ rest) = some rest :=
      fun _ => rfl
    have written : testsTokens (first :: others) =
      wordTokens ["WHERE"] ++ joinTokens .and ((first :: others).map testTokens) := rfl
    have some_token : (testsTokens (first :: others)).isEmpty = false := rfl
    rw [readTests?, some_token, written, words]
    simp only [Bool.false_eq_true, if_false, Option.bind_eq_bind, Option.bind_some]
    rw [divide_joined .and (by simp) solid]
    exact mapM_read reads

theorem readClash?_tokens (clash : Clash) : readClash? clash.tokens = some clash := by
  have target : ∀ rest, afterWords? ["ON", "CONFLICT"] (wordTokens ["ON", "CONFLICT"] ++ rest) =
    some rest := fun _ => rfl
  have action : ∀ words rest, afterWords? ["DO"] (wordTokens ("DO" :: words) ++ rest) =
    some (wordTokens words ++ rest) := fun _ _ => rfl
  cases clash with
  | fails => rfl
  | keeps names =>
    have written : (Clash.keeps names).tokens.isEmpty = false := rfl
    have nothing : afterWords? ["NOTHING"] (wordTokens ["NOTHING"] ++ []) = some [] := rfl
    rw [readClash?, written]
    simp only [Bool.false_eq_true, if_false, Clash.tokens, target, Option.bind_eq_bind,
      Option.bind_some, takeWrapped?_names, readItems?_names]
    rw [← List.append_nil (wordTokens ["DO", "NOTHING"]), action]
    simp only [Option.bind_some, nothing]
  | takes names assigned =>
    have written : (Clash.takes names assigned).tokens.isEmpty = false := rfl
    have nothing : ∀ rest, afterWords? ["NOTHING"] (wordTokens ["UPDATE", "SET"] ++ rest) = none :=
      fun _ => rfl
    have sets : ∀ rest, afterWords? ["UPDATE", "SET"] (wordTokens ["UPDATE", "SET"] ++ rest) =
      some rest := fun _ => rfl
    rw [readClash?, written]
    simp only [Bool.false_eq_true, if_false, Clash.tokens, target, Option.bind_eq_bind,
      Option.bind_some, takeWrapped?_names, readItems?_names, action, nothing, sets,
      readItems?_taken]

/-- What the columns take stands before the conditions. -/
theorem parted_assigned (assigned : List (String × Value)) (tests : List (String × Option Value)) :
    (itemTokens (assigned.map assignedTokens) ++ testsTokens tests).takeWhile
        (fun t => !t.isWord "WHERE".toList) = itemTokens (assigned.map assignedTokens) ∧
    (itemTokens (assigned.map assignedTokens) ++ testsTokens tests).dropWhile
        (fun t => !t.isWord "WHERE".toList) = testsTokens tests := by
  have wordless : (itemTokens (assigned.map assignedTokens)).all
      (fun t => !t.isWord "WHERE".toList) = true := by
    refine all_itemTokens rfl fun part member => ?_
    obtain ⟨entry, _, rfl⟩ := List.mem_map.mp member
    rfl
  have stops : (testsTokens tests).takeWhile (fun t => !t.isWord "WHERE".toList) = [] ∧
      (testsTokens tests).dropWhile (fun t => !t.isWord "WHERE".toList) = testsTokens tests := by
    cases tests with
    | nil => exact ⟨rfl, rfl⟩
    | cons first others => exact ⟨rfl, rfl⟩
  have all := List.all_eq_true.mp wordless
  rw [List.takeWhile_append_of_pos all, List.dropWhile_append_of_pos all, stops.1, stops.2,
    List.append_nil]
  exact ⟨rfl, rfl⟩

/-- A write is read from its tokens. -/
theorem readWrite?_tokens (w : Write) : readWrite? w.tokens = some w := by
  cases w with
  | insert table row clash =>
    have head : ∀ rest, afterWords? ["INSERT", "INTO"] (wordTokens ["INSERT", "INTO"] ++ rest) =
      some rest := fun _ => rfl
    have middle : ∀ rest, afterWords? ["VALUES"] (wordTokens ["VALUES"] ++ rest) = some rest :=
      fun _ => rfl
    have columns : (row.map (·.1)).length = (row.map (·.2)).length := by
      rw [List.length_map, List.length_map]
    have zipped : (row.map (·.1)).zip (row.map (·.2)) = row := (List.zip_of_prod rfl rfl).symm
    have read : readInsert? (Write.insert table row clash).tokens =
        some (.insert table row clash) := by
      simp only [readInsert?, Write.tokens, head, takeName?_token, takeWrapped?_names, middle,
        takeWrapped?_bound, readItems?_names, readItems?_bound, readClash?_tokens,
        Option.bind_eq_bind, Option.bind_some, if_pos columns, zipped]
    rw [readWrite?, read, Option.some_or]
  | update table assigned tests =>
    have head : ∀ rest, afterWords? ["UPDATE"] (wordTokens ["UPDATE"] ++ rest) = some rest :=
      fun _ => rfl
    have middle : ∀ rest, afterWords? ["SET"] (wordTokens ["SET"] ++ rest) = some rest :=
      fun _ => rfl
    have other : readInsert? (Write.update table assigned tests).tokens = none := rfl
    have read : readUpdate? (Write.update table assigned tests).tokens =
        some (.update table assigned tests) := by
      simp only [readUpdate?, Write.tokens, head, takeName?_token, middle, parted_assigned,
        readItems?_assigned, readTests?_tokens, Option.bind_eq_bind, Option.bind_some]
    rw [readWrite?, other, read, Option.none_or, Option.some_or]
  | delete table tests =>
    have head : ∀ rest, afterWords? ["DELETE", "FROM"] (wordTokens ["DELETE", "FROM"] ++ rest) =
      some rest := fun _ => rfl
    have others : readInsert? (Write.delete table tests).tokens = none ∧
      readUpdate? (Write.delete table tests).tokens = none := ⟨rfl, rfl⟩
    have read : readDelete? (Write.delete table tests).tokens = some (.delete table tests) := by
      simp only [readDelete?, Write.tokens, head, takeName?_token, readTests?_tokens,
        Option.bind_eq_bind, Option.bind_some]
    rw [readWrite?, others.1, others.2, read, Option.none_or, Option.none_or]

end

end Curator.Sql
