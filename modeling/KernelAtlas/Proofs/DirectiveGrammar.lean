import KernelAtlas.Proofs.SourceDeclarations
import Mathlib.Algebra.Group.Nat.Defs

/-! The grammar of the four directives.

A recogniser takes the longest run of a class wherever it reads one, and what follows the run in the grammar never
belongs to that class. So it accepts a line exactly if the line has the form of its directive, and there is only one
way to see that form in the line. -/

set_option autoImplicit false

namespace KernelAtlas.Numeral

open Text

def digitsOf (number : Nat) : List Char := Nat.toDigits 10 number

theorem isDigit_of_mem_digitsOf {number : Nat} {c : Char} (member : c ∈ digitsOf number) : c.isDigit = true :=
  Nat.isDigit_of_mem_toDigits (by decide) (by decide) member

theorem digitValue_of_ascii {c : Char} (ascii : c.isDigit = true) : digitValue c = c.toNat - '0'.toNat := by
  have bounds : 48 ≤ c.toNat ∧ c.toNat ≤ 48 + 9 := by
    simpa [Char.isDigit, UInt32.le_iff_toNat_le] using ascii
  have first : (zeros.find? fun base => base ≤ c.toNat && c.toNat ≤ base + 9) = some 48 :=
    List.find?_cons_of_pos (by simp [bounds])
  rw [digitValue, first]
  rfl

theorem value_eq_ofDigitChars {digits : List Char} (ascii : ∀ c ∈ digits, c.isDigit = true) :
    value digits = Nat.ofDigitChars 10 digits 0 := by
  unfold value Nat.ofDigitChars
  generalize 0 = total
  induction digits generalizing total with
  | nil => rfl
  | cons c rest ih =>
    rw [List.foldl_cons, List.foldl_cons, digitValue_of_ascii (ascii c List.mem_cons_self)]
    exact ih (fun d member => ascii d (List.mem_cons_of_mem c member)) _

theorem read_digitsOf {number : Nat} (short : number < 10 ^ digitLimit) : read (digitsOf number) = .ok number := by
  have fits : (digitsOf number).length ≤ digitLimit := (Nat.length_toDigits_le_iff (by decide) (by decide)).mpr short
  rw [read, if_pos fits, value_eq_ofDigitChars fun c => isDigit_of_mem_digitsOf, digitsOf,
    Nat.ofDigitChars_toDigits (by decide) (by decide)]

end KernelAtlas.Numeral

namespace KernelAtlas.Directive

open Text

/-- A text that is not empty and has characters of one class only. -/
def RunOf (member : Char → Bool) (text : List Char) : Prop := text ≠ [] ∧ ∀ c ∈ text, member c = true

def Quotable (text : List Char) : Prop := text ≠ [] ∧ '"' ∉ text

def quote (text : List Char) : List Char := '"' :: (text ++ ['"'])

/-- Any number of blanks, the name of a directive, at least one blank, and the rest. -/
def Opens (name line rest : List Char) : Prop :=
  ∃ indent gap, line = indent ++ (name ++ (gap ++ rest)) ∧ (∀ c ∈ indent, isBlank c = true) ∧ RunOf isBlank gap

/-- Three numerals with gaps between them. Anything may follow, even more digits. -/
def IsLoc (line : List Char) (loc : Loc) : Prop :=
  ∃ gap second column rest, Opens ".loc".toList line (loc.file ++ (gap ++ (loc.line ++ (second ++ (column ++ rest))))) ∧
    RunOf isDigit loc.file ∧ RunOf isBlank gap ∧ RunOf isDigit loc.line ∧ RunOf isBlank second ∧ RunOf isDigit column

def Continues (rest text : List Char) : Prop :=
  ∃ gap tail, rest = gap ++ (quote text ++ tail) ∧ RunOf isBlank gap ∧ Quotable text

/-- A numeral and a quoted text. A second text counts if it is complete. -/
def IsFile (line : List Char) (file : File) : Prop :=
  ∃ gap rest, Opens ".file".toList line (file.id ++ (gap ++ (quote file.first ++ rest))) ∧ RunOf isDigit file.id ∧
    RunOf isBlank gap ∧ Quotable file.first ∧ ∀ text, file.second = some text ↔ Continues rest text

def IsTextSection (line : List Char) : Prop := ∃ rest, Opens ".section".toList line (".text.".toList ++ rest)

def IsGlobl (line symbol : List Char) : Prop :=
  ∃ rest, Opens ".globl".toList line (symbol ++ rest) ∧ RunOf (fun c => !isBlank c) symbol ∧
    ∀ c, rest.head? = some c → isBlank c = true

section
variable {member : Char → Bool} {run : List Char}

theorem RunOf.head (runs : RunOf member run) {rest : List Char} {c : Char} (first : (run ++ rest).head? = some c) :
    member c = true := by
  obtain ⟨filled, inside⟩ := runs
  cases run with
  | nil => exact absurd rfl filled
  | cons d run =>
    cases first
    exact inside c List.mem_cons_self

theorem RunOf.run?_append (runs : RunOf member run) {rest : List Char}
    (ends : ∀ c, rest.head? = some c → member c = false) :
    run? member (run ++ rest) = some (run, rest) :=
  (run?_eq_some_iff _ _ _ _).mpr ⟨rfl, runs.1, runs.2, ends⟩

theorem RunOf.gap?_append (runs : RunOf isBlank run) {rest : List Char}
    (ends : ∀ c, rest.head? = some c → isBlank c = false) :
    gap? (run ++ rest) = some rest := by
  rw [gap?, runs.run?_append ends, Option.map_some]

end

theorem run?_eq_some {member : Char → Bool} {text run rest : List Char} (read : run? member text = some (run, rest)) :
    text = run ++ rest ∧ RunOf member run ∧ ∀ c, rest.head? = some c → member c = false := by
  obtain ⟨split, filled, inside, ends⟩ := (run?_eq_some_iff _ _ _ _).mp read
  exact ⟨split, ⟨filled, inside⟩, ends⟩

theorem gap?_eq_some {text rest : List Char} (read : gap? text = some rest) :
    ∃ gap, text = gap ++ rest ∧ RunOf isBlank gap ∧ ∀ c, rest.head? = some c → isBlank c = false := by
  obtain ⟨⟨gap, behind⟩, taken, rfl⟩ := Option.map_eq_some_iff.mp read
  exact ⟨gap, run?_eq_some taken⟩

/-- The names of directives start with a point, which ends the blanks in front of them. -/
theorem opening?_eq_some_iff {name : List Char} (pointed : name.head? = some '.') (line rest : List Char) :
    opening? name line = some rest ↔
      Opens name line rest ∧ ∀ c, rest.head? = some c → isBlank c = false := by
  constructor
  · intro read
    obtain ⟨behind, named, skipped⟩ := Option.bind_eq_some_iff.mp read
    obtain ⟨gap, split, blank, ends⟩ := gap?_eq_some skipped
    refine ⟨⟨line.takeWhile isBlank, gap, ?_, ?_, blank⟩, ends⟩
    · rw [← split, ← (after?_eq_some_iff _ _ _).mp named, List.takeWhile_append_dropWhile]
    · exact fun c present => List.all_eq_true.mp List.all_takeWhile c present
  · intro ⟨⟨indent, gap, split, blank, runs⟩, ends⟩
    obtain ⟨word, rfl⟩ := List.head?_eq_some_iff.mp pointed
    have point : isBlank '.' = false := by decide
    have dropped : line.dropWhile isBlank = '.' :: word ++ (gap ++ rest) := by
      rw [split, List.dropWhile_append_of_pos blank, List.cons_append, List.dropWhile_cons, point]
      rfl
    rw [opening?, dropped, (after?_eq_some_iff _ _ _).mpr rfl]
    exact runs.gap?_append ends

theorem string?_eq_some_iff (text body rest : List Char) :
    string? text = some (body, rest) ↔ text = quote body ++ rest ∧ Quotable body := by
  constructor
  · intro read
    unfold string? at read
    split at read
    · rename_i inner
      obtain ⟨⟨run, behind⟩, taken, closed⟩ := Option.bind_eq_some_iff.mp read
      obtain ⟨tail, mark, same⟩ := Option.bind_eq_some_iff.mp closed
      cases same
      obtain ⟨split, ⟨filled, inside⟩, -⟩ := run?_eq_some taken
      rw [(after?_eq_some_iff _ _ _).mp mark] at split
      refine ⟨by simp [quote, split], filled, fun present => ?_⟩
      simpa using inside '"' present
    · cases read
  · intro ⟨split, filled, free⟩
    have inside : RunOf (fun c => decide (c ≠ '"')) body :=
      ⟨filled, fun c present => decide_eq_true fun same => free (same ▸ present)⟩
    have taken : run? (fun c => decide (c ≠ '"')) (body ++ '"' :: rest) = some (body, '"' :: rest) :=
      inside.run?_append fun c first => by
        cases first
        decide
    rw [split, quote, List.cons_append, List.append_assoc, string?]
    simp only [List.singleton_append, taken, Option.bind_eq_bind, Option.bind_some,
      (after?_eq_some_iff ['"'] ('"' :: rest) rest).mpr rfl]
    rfl

theorem RunOf.gap?_quote {gap : List Char} (runs : RunOf isBlank gap) (text rest : List Char) :
    gap? (gap ++ (quote text ++ rest)) = some (quote text ++ rest) := by
  refine runs.gap?_append fun c first => ?_
  cases first
  decide

theorem RunOf.notBlank {run : List Char} (runs : RunOf isDigit run) (rest : List Char) :
    ∀ c, (run ++ rest).head? = some c → isBlank c = false := fun _ first => isBlank_of_isDigit (runs.head first)

theorem RunOf.notDigit {run : List Char} (runs : RunOf isBlank run) (rest : List Char) :
    ∀ c, (run ++ rest).head? = some c → isDigit c = false := by
  intro c first
  cases digit : isDigit c with
  | false => rfl
  | true => exact absurd (runs.head first) (by simp [isBlank_of_isDigit digit])

theorem loc?_eq_some_iff (line : List Char) (loc : Loc) : loc? line = some loc ↔ IsLoc line loc := by
  constructor
  · intro read
    obtain ⟨rest, opened, read⟩ := Option.bind_eq_some_iff.mp read
    obtain ⟨⟨file, behindFile⟩, fileRead, read⟩ := Option.bind_eq_some_iff.mp read
    obtain ⟨fromLine, gapRead, read⟩ := Option.bind_eq_some_iff.mp read
    obtain ⟨⟨number, behindLine⟩, lineRead, read⟩ := Option.bind_eq_some_iff.mp read
    obtain ⟨fromColumn, secondRead, read⟩ := Option.bind_eq_some_iff.mp read
    obtain ⟨⟨column, behind⟩, columnRead, same⟩ := Option.bind_eq_some_iff.mp read
    cases same
    obtain ⟨opens, -⟩ := (opening?_eq_some_iff rfl _ _).mp opened
    obtain ⟨rfl, fileRun, -⟩ := run?_eq_some fileRead
    obtain ⟨gap, rfl, gapRun, -⟩ := gap?_eq_some gapRead
    obtain ⟨rfl, lineRun, -⟩ := run?_eq_some lineRead
    obtain ⟨second, rfl, secondRun, -⟩ := gap?_eq_some secondRead
    obtain ⟨rfl, columnRun, -⟩ := run?_eq_some columnRead
    exact ⟨gap, second, column, behind, opens, fileRun, gapRun, lineRun, secondRun, columnRun⟩
  · intro ⟨gap, second, column, rest, opens, fileRun, gapRun, lineRun, secondRun, columnRun⟩
    have opened := (opening?_eq_some_iff rfl _ _).mpr ⟨opens, fileRun.notBlank _⟩
    -- The column may be cut short by the grammar; the recogniser takes all of its digits and does not use them.
    obtain ⟨c, digits, rfl⟩ := List.exists_cons_of_ne_nil columnRun.1
    have columnRead : ∃ taken, run? isDigit (c :: digits ++ rest) = some taken := by
      simp [run?, columnRun.2 c List.mem_cons_self]
    obtain ⟨taken, columnRead⟩ := columnRead
    simp only [loc?, opened, fileRun.run?_append (gapRun.notDigit _), gapRun.gap?_append (lineRun.notBlank _),
      lineRun.run?_append (secondRun.notDigit _), secondRun.gap?_append (columnRun.notBlank _), columnRead,
      Option.bind_eq_bind, Option.bind_some]
    rfl

/-- The second text of a source file directive, read from what follows the first. -/
def second? (rest : List Char) : Option (List Char) := do
  let rest ← gap? rest
  let (second, _) ← string? rest
  return second

theorem second?_eq_some_iff (rest text : List Char) : second? rest = some text ↔ Continues rest text := by
  constructor
  · intro read
    obtain ⟨behind, gapRead, read⟩ := Option.bind_eq_some_iff.mp read
    obtain ⟨⟨body, tail⟩, bodyRead, same⟩ := Option.bind_eq_some_iff.mp read
    cases same
    obtain ⟨gap, rfl, gapRun, -⟩ := gap?_eq_some gapRead
    obtain ⟨rfl, quotable⟩ := (string?_eq_some_iff _ _ _).mp bodyRead
    exact ⟨gap, tail, rfl, gapRun, quotable⟩
  · intro ⟨gap, tail, split, gapRun, quotable⟩
    simp only [second?, split, gapRun.gap?_quote, (string?_eq_some_iff _ _ _).mpr ⟨rfl, quotable⟩, Option.bind_eq_bind,
      Option.bind_some]
    rfl

theorem file?_eq_some_iff (line : List Char) (file : File) : file? line = some file ↔ IsFile line file := by
  constructor
  · intro read
    obtain ⟨rest, opened, read⟩ := Option.bind_eq_some_iff.mp read
    obtain ⟨⟨id, behindId⟩, idRead, read⟩ := Option.bind_eq_some_iff.mp read
    obtain ⟨fromFirst, gapRead, read⟩ := Option.bind_eq_some_iff.mp read
    obtain ⟨⟨first, behind⟩, firstRead, same⟩ := Option.bind_eq_some_iff.mp read
    cases same
    obtain ⟨opens, -⟩ := (opening?_eq_some_iff rfl _ _).mp opened
    obtain ⟨rfl, idRun, -⟩ := run?_eq_some idRead
    obtain ⟨gap, rfl, gapRun, -⟩ := gap?_eq_some gapRead
    obtain ⟨rfl, quotable⟩ := (string?_eq_some_iff _ _ _).mp firstRead
    exact ⟨gap, behind, opens, idRun, gapRun, quotable, second?_eq_some_iff behind⟩
  · intro ⟨gap, rest, opens, idRun, gapRun, quotable, continues⟩
    have opened := (opening?_eq_some_iff rfl _ _).mpr ⟨opens, idRun.notBlank _⟩
    have second : file.second = second? rest :=
      Option.ext fun text => (continues text).trans (second?_eq_some_iff rest text).symm
    simp only [file?, opened, idRun.run?_append (gapRun.notDigit _), gapRun.gap?_quote,
      (string?_eq_some_iff _ _ _).mpr ⟨rfl, quotable⟩, Option.bind_eq_bind, Option.bind_some]
    obtain ⟨id, first, other⟩ := file
    cases second
    rfl

theorem opensTextSection_iff (line : List Char) : opensTextSection line = true ↔ IsTextSection line := by
  rw [opensTextSection, Option.isSome_iff_exists]
  constructor
  · intro ⟨rest, read⟩
    obtain ⟨behind, opened, named⟩ := Option.bind_eq_some_iff.mp read
    obtain ⟨opens, -⟩ := (opening?_eq_some_iff rfl _ _).mp opened
    rw [(after?_eq_some_iff _ _ _).mp named] at opens
    exact ⟨rest, opens⟩
  · intro ⟨rest, opens⟩
    have ends : ∀ c, (".text.".toList ++ rest).head? = some c → isBlank c = false := by
      intro c first
      cases first
      decide
    exact ⟨rest, Option.bind_eq_some_iff.mpr
      ⟨_, (opening?_eq_some_iff rfl _ _).mpr ⟨opens, ends⟩, (after?_eq_some_iff _ _ _).mpr rfl⟩⟩

theorem globl?_eq_some_iff (line symbol : List Char) : globl? line = some symbol ↔ IsGlobl line symbol := by
  constructor
  · intro read
    obtain ⟨behind, opened, read⟩ := Option.bind_eq_some_iff.mp read
    obtain ⟨⟨run, rest⟩, taken, same⟩ := Option.bind_eq_some_iff.mp read
    cases same
    obtain ⟨opens, -⟩ := (opening?_eq_some_iff rfl _ _).mp opened
    obtain ⟨rfl, runs, ends⟩ := run?_eq_some taken
    exact ⟨rest, opens, runs, fun c first => by simpa using ends c first⟩
  · intro ⟨rest, opens, runs, ends⟩
    have opened := (opening?_eq_some_iff rfl _ _).mpr ⟨opens, fun c first => by simpa using runs.head first⟩
    have taken := runs.run?_append fun c first => by simpa using ends c first
    simp only [globl?, opened, taken, Option.bind_eq_bind, Option.bind_some]
    rfl

/-- A symbol of a kernel is a whole one, of at least six characters and without a point. -/
theorem symbolOn?_eq_some_iff (line symbol : String) :
    Kernel.symbolOn? line = some symbol ↔
      IsGlobl line.toList symbol.toList ∧ 6 ≤ symbol.length ∧ '.' ∉ symbol.toList := by
  have kept : ∀ name : List Char, Kernel.isSymbol name = true ↔ 6 ≤ name.length ∧ '.' ∉ name := by
    intro name
    rw [Kernel.isSymbol, Bool.and_eq_true, decide_eq_true_iff, and_comm, Kernel.shortestSymbol]
    simp
  rw [← globl?_eq_some_iff, Kernel.symbolOn?, ← String.length_toList, ← kept]
  cases globl? line.toList with
  | none => simp
  | some name =>
    by_cases passed : Kernel.isSymbol name = true
    · simp only [passed, if_true, Option.some.injEq]
      constructor
      · intro same
        rw [← same, String.toList_ofList]
        exact ⟨rfl, passed⟩
      · intro ⟨same, _⟩
        rw [same, String.ofList_toList]
    · simp only [passed, Bool.false_eq_true, if_false, reduceCtorEq, Option.some.injEq, false_iff, not_and]
      intro same
      rwa [← same]

def declaration (id : Nat) (first : String) (second : Option String) : String :=
  ".file " ++ toString id ++ " \"" ++ first ++ "\"" ++
    match second with
    | none => ""
    | some name => " \"" ++ name ++ "\""

def declaredPath (first : String) : Option String → String
  | none => Path.normalize first
  | some name => sourcePath (some first) name

theorem runOf_digitsOf (id : Nat) : RunOf isDigit (Numeral.digitsOf id) :=
  ⟨Nat.toDigits_ne_nil, fun _ member => isDigit_of_ascii (Numeral.isDigit_of_mem_digitsOf member)⟩

theorem runOf_blank : RunOf isBlank [' '] := by
  refine ⟨List.cons_ne_nil _ _, fun c member => ?_⟩
  rw [List.mem_singleton.mp member]
  decide

theorem isFile_declaration (id : Nat) {first : String} {second : Option String} (quotable : Quotable first.toList)
    (others : ∀ name ∈ second, Quotable name.toList) :
    IsFile (declaration id first second).toList ⟨Numeral.digitsOf id, first.toList, second.map String.toList⟩ := by
  cases second with
  | none =>
    refine ⟨[' '], [], ⟨[], [' '], ?_, by simp, runOf_blank⟩, runOf_digitsOf id, runOf_blank, quotable, fun text => ?_⟩
    · simp [declaration, quote, Numeral.digitsOf]
    · simp only [Option.map_none, reduceCtorEq, false_iff]
      intro ⟨gap, tail, split, gapRun, _⟩
      exact gapRun.1 (List.nil_eq_append_iff.mp split).1
  | some name =>
    have read : second? (' ' :: quote name.toList) = some name.toList :=
      (second?_eq_some_iff _ _).mpr ⟨[' '], [], by simp, runOf_blank, others name rfl⟩
    refine ⟨[' '], ' ' :: quote name.toList, ⟨[], [' '], ?_, by simp, runOf_blank⟩, runOf_digitsOf id, runOf_blank,
      quotable, fun text => ?_⟩
    · simp [declaration, quote, Numeral.digitsOf]
    · rw [← second?_eq_some_iff, read]
      rfl

theorem ofLines_declaration {id : Nat} (short : id < 10 ^ Numeral.digitLimit) {first : String} {second : Option String}
    (quotable : Quotable first.toList) (others : ∀ name ∈ second, Quotable name.toList) :
    SourceTable.ofLines [declaration id first second] =
      .ok ⟨[((id : Int), declaredPath first second)]⟩ := by
  have found := (file?_eq_some_iff _ _).mpr (isFile_declaration id quotable others)
  simp only [SourceTable.ofLines, List.foldlM_cons, List.foldlM_nil, SourceTable.declare, found,
    Numeral.read_digitsOf short]
  cases second with
  | none =>
    simp only [File.path, Option.map_none, String.ofList_toList]
    rfl
  | some name =>
    simp only [File.path, Option.map_some, String.ofList_toList]
    rfl

/-- A recogniser accepts exactly the lines of its directive, and what it takes from one is determined by the line. A
declaration that is written is read back. -/
theorem recognisers_exact :
    (∀ line : String,
      (∀ loc, loc? line.toList = some loc ↔ IsLoc line.toList loc) ∧
      (∀ file, file? line.toList = some file ↔ IsFile line.toList file) ∧
      (opensTextSection line.toList = true ↔ IsTextSection line.toList) ∧
      (∀ symbol, Kernel.symbolOn? line = some symbol ↔
        IsGlobl line.toList symbol.toList ∧ 6 ≤ symbol.length ∧ '.' ∉ symbol.toList) ∧
      (∀ loc other, IsLoc line.toList loc → IsLoc line.toList other → loc = other) ∧
      (∀ file other, IsFile line.toList file → IsFile line.toList other → file = other) ∧
      ∀ symbol other, IsGlobl line.toList symbol → IsGlobl line.toList other → symbol = other) ∧
    ∀ id first second, id < 10 ^ 4300 → Quotable first.toList → (∀ name ∈ second, Quotable name.toList) →
      file? (declaration id first second).toList =
          some ⟨(toString id).toList, first.toList, second.map String.toList⟩ ∧
        Numeral.read (toString id).toList = .ok id ∧
        SourceTable.ofLines [declaration id first second] =
          .ok ⟨[((id : Int), declaredPath first second)]⟩ := by
  constructor
  · intro line
    refine ⟨loc?_eq_some_iff _, file?_eq_some_iff _, opensTextSection_iff _, symbolOn?_eq_some_iff line, ?_, ?_, ?_⟩
    · intro loc other one two
      exact Option.some.inj (((loc?_eq_some_iff _ _).mpr one).symm.trans ((loc?_eq_some_iff _ _).mpr two))
    · intro file other one two
      exact Option.some.inj (((file?_eq_some_iff _ _).mpr one).symm.trans ((file?_eq_some_iff _ _).mpr two))
    · intro symbol other one two
      exact Option.some.inj (((globl?_eq_some_iff _ _).mpr one).symm.trans ((globl?_eq_some_iff _ _).mpr two))
  · intro id first second below quotable others
    have short : id < 10 ^ Numeral.digitLimit := by rwa [Numeral.digitLimit]
    have digits : (toString id).toList = Numeral.digitsOf id := String.toList_ofList
    rw [digits]
    exact ⟨(file?_eq_some_iff _ _).mpr (isFile_declaration id quotable others), Numeral.read_digitsOf short,
      ofLines_declaration short quotable others⟩

theorem recognisers_exact_declaring :
    declaration 27 "/p" (some "../a b.hip") = ".file 27 \"/p\" \"../a b.hip\"" ∧
      SourceTable.ofLines [declaration 27 "/p" (some "../a b.hip")] = .ok ⟨[(27, "/a b.hip")]⟩ ∧
      ∀ loc, IsLoc "\t.loc 1 ٣ 07junk".toList loc → loc = ⟨['1'], ['٣']⟩ := by
  obtain ⟨exact, written⟩ := recognisers_exact
  have below (limit : Nat) (large : 27 < limit) : 27 < 10 ^ limit := Nat.lt_trans large (Nat.lt_pow_self (by decide))
  have quotable : ∀ name ∈ some "../a b.hip", Quotable name.toList := by
    intro name member
    cases member
    exact ⟨by decide, by decide⟩
  obtain ⟨locs, -, -, -, unique, -, -⟩ := exact "\t.loc 1 ٣ 07junk"
  refine ⟨by decide +kernel, ?_, fun loc other => unique _ _ other ((locs _).mp (by decide +kernel))⟩
  exact (written 27 "/p" (some "../a b.hip") (below 4300 (by decide)) ⟨by decide, by decide⟩ quotable).2.2

end KernelAtlas.Directive
