import KernelAtlas.Proofs.CommentedLines
import KernelAtlas.Proofs.ComparedLines
import KernelAtlas.Proofs.DirectiveGrammar

/-! Lines on which a directive is recognised.

A recogniser skips the blanks in front of a line and then wants a point. A line whose first visible character is a point
is a directive, whatever stands behind it. So a line that is recognised is never taken for an instruction: it is in no
list of an index, among the hits of no match, and counted in no histogram. -/

set_option autoImplicit false

namespace KernelAtlas

namespace Directive

open Text

inductive Recogniser where
  | loc
  | file
  | textSection
  | globl
  deriving DecidableEq, Repr

namespace Recogniser

def all : List Recogniser := [loc, file, textSection, globl]

def name : Recogniser → List Char
  | loc => ".loc".toList
  | file => ".file".toList
  | textSection => ".section".toList
  | globl => ".globl".toList

def reads : Recogniser → List Char → Bool
  | loc, line => (loc? line).isSome
  | file, line => (file? line).isSome
  | textSection, line => opensTextSection line
  | globl, line => (globl? line).isSome

/-- The form that a line has on which the directive is recognised. -/
def Form : Recogniser → List Char → Prop
  | loc, line => ∃ loc, IsLoc line loc
  | file, line => ∃ file, IsFile line file
  | textSection, line => IsTextSection line
  | globl, line => ∃ symbol, IsGlobl line symbol

theorem head?_name (recogniser : Recogniser) : recogniser.name.head? = some '.' := by
  cases recogniser <;> rfl

theorem reads_iff (recogniser : Recogniser) (line : List Char) : recogniser.reads line = true ↔ recogniser.Form line := by
  cases recogniser with
  | loc => simp only [reads, Form, Option.isSome_iff_exists, loc?_eq_some_iff]
  | file => simp only [reads, Form, Option.isSome_iff_exists, file?_eq_some_iff]
  | textSection => exact opensTextSection_iff line
  | globl => simp only [reads, Form, Option.isSome_iff_exists, globl?_eq_some_iff]

end Recogniser

section
variable {name line rest : List Char} (opens : Opens name line rest)
include opens

theorem Opens.around {front : List Char} (blank : ∀ c ∈ front, isBlank c = true) (back : List Char) :
    Opens name (front ++ line ++ back) (rest ++ back) := by
  obtain ⟨indent, gap, rfl, indented, gapped⟩ := opens
  refine ⟨front ++ indent, gap, by simp only [List.append_assoc], ?_, gapped⟩
  intro c member
  rcases List.mem_append.mp member with inFront | inIndent
  · exact blank c inFront
  · exact indented c inIndent

-- Trimming takes away the indentation and stops at the point; from the other end it comes at most as far.
theorem Opens.head?_trim (pointed : name.head? = some '.') : (trim line).head? = some '.' := by
  obtain ⟨indent, gap, rfl, indented, -⟩ := opens
  obtain ⟨word, rfl⟩ := List.head?_eq_some_iff.mp pointed
  have point : isBlank '.' = false := by decide
  have start : trimStart (indent ++ ('.' :: word ++ (gap ++ rest))) = '.' :: (word ++ (gap ++ rest)) := by
    rw [trimStart_append_of_blank indented, List.cons_append, trimStart_cons, point]
    rfl
  obtain ⟨back, split, -⟩ := exists_trimEnd_append ('.' :: (word ++ (gap ++ rest)))
  have kept := trimEnd_ne_nil (List.mem_cons_self : '.' ∈ '.' :: (word ++ (gap ++ rest))) point
  have first := congrArg List.head? split
  rw [List.head?_append_of_ne_nil _ kept] at first
  rw [trim, start, ← first]
  rfl

end

namespace Recogniser

section
variable {recogniser : Recogniser} {line : List Char} (form : recogniser.Form line)
include form

theorem Form.exists_opens : ∃ rest, Opens recogniser.name line rest := by
  cases recogniser with
  | loc =>
    obtain ⟨loc, gap, second, column, rest, opens, -⟩ := form
    exact ⟨_, opens⟩
  | file =>
    obtain ⟨file, gap, rest, opens, -⟩ := form
    exact ⟨_, opens⟩
  | textSection =>
    obtain ⟨rest, opens⟩ := form
    exact ⟨_, opens⟩
  | globl =>
    obtain ⟨symbol, rest, opens, -⟩ := form
    exact ⟨_, opens⟩

/-- A line keeps its form with blanks in front of it and any text behind it. The text may become a part of what is taken
from the line: the second text of a source file, or the end of a symbol. -/
theorem Form.around {front : List Char} (blank : ∀ c ∈ front, isBlank c = true) (back : List Char) :
    recogniser.Form (front ++ line ++ back) := by
  cases recogniser with
  | loc =>
    obtain ⟨loc, gap, second, column, rest, opens, runs⟩ := form
    refine ⟨loc, gap, second, column, rest ++ back, ?_, runs⟩
    simpa only [List.append_assoc] using opens.around blank back
  | file =>
    obtain ⟨file, gap, rest, opens, digits, gapped, quotable, -⟩ := form
    refine ⟨⟨file.id, file.first, second? (rest ++ back)⟩, gap, rest ++ back, ?_, digits, gapped, quotable,
      second?_eq_some_iff (rest ++ back)⟩
    simpa only [List.append_assoc] using opens.around blank back
  | textSection =>
    obtain ⟨rest, opens⟩ := form
    refine ⟨rest ++ back, ?_⟩
    simpa only [List.append_assoc] using opens.around blank back
  | globl =>
    obtain ⟨symbol, rest, opens, ⟨filled, visible⟩, -⟩ := form
    obtain ⟨c, symbol, rfl⟩ := List.exists_cons_of_ne_nil filled
    have first : (!isBlank c) = true := visible c List.mem_cons_self
    -- The symbol goes on as far as the text behind it lets it.
    have taken : ∃ whole, run? (fun d => !isBlank d) (c :: symbol ++ rest ++ back) = some whole := by
      simp [run?, first]
    obtain ⟨⟨whole, behind⟩, taken⟩ := taken
    obtain ⟨split, runs, ends⟩ := run?_eq_some taken
    refine ⟨whole, behind, split ▸ opens.around blank back, runs, ?_⟩
    intro d next
    simpa using ends d next

end

end Recogniser

end Directive

namespace Line

open Directive Text

def recognised (line : String) : Bool := Recogniser.all.any fun recogniser => recogniser.reads line.toList

theorem recognised_iff (line : String) :
    recognised line = true ↔ ∃ recogniser : Recogniser, recogniser.Form line.toList := by
  rw [recognised, List.any_eq_true]
  constructor
  · rintro ⟨recogniser, -, read⟩
    exact ⟨recogniser, (recogniser.reads_iff _).mp read⟩
  · rintro ⟨recogniser, form⟩
    exact ⟨recogniser, by cases recogniser <;> decide, (recogniser.reads_iff _).mpr form⟩

theorem classify_of_recognised {line : String} (read : recognised line = true) : classify line = .directive := by
  obtain ⟨recogniser, form⟩ := (recognised_iff line).mp read
  obtain ⟨rest, opens⟩ := form.exists_opens
  exact (kindOf_eq_directive_iff _).mpr (opens.head?_trim recogniser.head?_name)

theorem recognised_around {line : String} (read : recognised line = true) {front : String}
    (blank : ∀ c ∈ front.toList, isBlank c = true) (back : String) : recognised (front ++ line ++ back) = true := by
  obtain ⟨recogniser, form⟩ := (recognised_iff line).mp read
  refine (recognised_iff _).mpr ⟨recogniser, ?_⟩
  rw [String.toList_append, String.toList_append]
  exact form.around blank back.toList

theorem not_recognised_of_instruction {line : String} (kind : classify line = .instruction) : recognised line = false := by
  rw [Bool.eq_false_iff]
  intro read
  rw [classify_of_recognised read] at kind
  cases kind

theorem mnemonics_filter_recognised (lines : List String) :
    mnemonics (lines.filter fun line => !recognised line) = mnemonics lines := by
  rw [mnemonics, List.filterMap_filter, mnemonics]
  congr 1
  funext line
  cases read : recognised line with
  | true => exact (mnemonic?_of_kind (by simp [classify_of_recognised read])).symm
  | false => rfl

theorem histogram_filter_recognised (lines : List String) :
    histogram (lines.filter fun line => !recognised line) = histogram lines := by
  rw [histogram, histogram, mnemonicCounts_eq, mnemonicCounts_eq, mnemonics_filter_recognised]

end Line

/-- A line that is there, that is an instruction, and that no recogniser reads. -/
def Listing.Genuine (lines : List String) (place : Nat) : Prop :=
  ∃ line, lines[place]? = some line ∧ Line.classify line = .instruction ∧ Line.recognised line = false

theorem Listing.genuine_of_getElem? {lines : List String} {place : Nat} {line : String} (there : lines[place]? = some line)
    (instruction : Line.isInstruction line = true) : Genuine lines place := by
  have kind : Line.classify line = .instruction := by simpa [Line.isInstruction] using instruction
  exact ⟨line, there, kind, Line.not_recognised_of_instruction kind⟩

namespace LineIndex

def Genuine (index : LineIndex) (lines : List String) : Prop :=
  ∀ bucket ∈ index.forwardMap.values, ∀ place ∈ bucket, Listing.Genuine lines place

-- A list may stand under a path that is not normalised. It is in the map, though no question leads to it.
theorem genuine_of_build {lines : List String} {table : SourceTable} {wanted : Int → Bool} {index : LineIndex}
    (built : buildWanted lines table wanted = .ok index) : index.Genuine lines := by
  obtain ⟨marks, -, rfl⟩ := (buildWanted_eq_ok_iff _ _ _ _).mp built
  intro bucket among place member
  obtain ⟨⟨location, positions⟩, entry, rfl⟩ := List.mem_map.mp among
  rw [forwardMap_collect] at entry
  rw [OrderedMap.eq_of_mem_entries_gather _ _ entry] at member
  obtain ⟨⟨position, line, other⟩, kept, rfl⟩ := List.mem_map.mp member
  obtain ⟨present, instruction⟩ := List.mem_filter.mp (List.mem_filter.mp kept).1
  exact Listing.genuine_of_getElem? ((mem_located_iff _ _ _ _ _ _ _).mp present).1 instruction

theorem Genuine.forward {index : LineIndex} {lines : List String} (genuine : index.Genuine lines) {file : String}
    {line : Int} {place : Nat} (member : place ∈ index.forward file line) : Listing.Genuine lines place := by
  unfold LineIndex.forward at member
  split at member
  · cases member
  · rename_i number _
    cases found : index.forwardMap.get? ⟨Path.normalize file, number⟩ with
    | none =>
      rw [found] at member
      cases member
    | some bucket =>
      rw [found] at member
      exact genuine bucket (List.mem_map_of_mem (OrderedMap.mem_entries_of_get? found)) place member

end LineIndex

def Match.Genuine (found : Match) : Prop := ∀ hit ∈ found.hits, Listing.Genuine found.kernel.listing.lines hit

namespace Query

/-- Kernels of one place belong to one listing; they need not have the same table. -/
def OneListing (placed : List (Nat × Kernel)) : Prop :=
  ∀ first ∈ placed, ∀ second ∈ placed, first.1 = second.1 → first.2.listing = second.2.listing

theorem genuine_of_freshMatch {query : Query} {builder kernel : Kernel} (same : builder.listing = kernel.listing)
    {item : Match} (made : query.freshMatch builder kernel = .ok (some item)) : item.Genuine := by
  unfold freshMatch at made
  split at made
  · cases made
  · split at made
    · cases built : freshIndex builder _ with
      | error refused =>
        rw [built] at made
        cases made
      | ok index =>
        rw [built] at made
        cases made
        intro hit present
        have genuine := (LineIndex.genuine_of_build built).forward (List.mem_filter.mp present).1
        rwa [same] at genuine
    · cases made
      exact fun hit present => (List.not_mem_nil present).elim

theorem genuine_resolveFrom {query : Query} {placed : List (Nat × Kernel)} (shared : OneListing placed) {found : List Match}
    (resolved : (query.resolveFrom .empty placed).result = .ok found) : ∀ item ∈ found, item.Genuine := by
  intro item member
  obtain ⟨entry, present, builder, shares, made⟩ :=
    exists_gives_of_mem_resolveFrom (Indexes.built_empty placed) (List.Subset.refl _) resolved member
  exact genuine_of_freshMatch (shared _ shares _ present rfl) made

theorem genuine_of_mem_resolve {listings : List Listing} {dumps : List Dump}
    (read : (listings.mapM Dump.ofListing).result = .ok dumps) {query : Query} {found : List Match}
    (resolved : (query.resolve dumps).result = .ok found) : ∀ item ∈ found, item.Genuine := by
  have shared : OneListing (placedKernels dumps) := fun first left second right same =>
    (onePlace_placedKernels read first left second right same).1
  rw [resolve, Recorded.note, Recorded.result_record_bind] at resolved
  exact genuine_resolveFrom shared resolved

end Query

namespace Session

theorem genuine_linesFor {session : Session} (consistent : session.Consistent) {file : String} {line : Int} {place : Nat}
    (member : place ∈ session.linesFor file line) :
    ∃ view selected, session.active = some view ∧ view.selection? = some selected ∧
      Listing.Genuine selected.found.kernel.listing.lines place := by
  unfold linesFor at member
  cases active : session.active with
  | none =>
    rw [active] at member
    cases member
  | some view =>
    rw [active] at member
    have holds := consistent view active
    cases chosen : view.selected with
    | none =>
      simp only [holds.unindexed chosen] at member
      have nothing : LineIndex.empty.Genuine [] := fun bucket among => (List.not_mem_nil among).elim
      obtain ⟨text, there, -⟩ := nothing.forward member
      cases there
    | some position =>
      obtain ⟨item, there, built⟩ := holds.indexed position chosen
      refine ⟨view, ⟨position, item⟩, rfl, ?_, (LineIndex.genuine_of_build built).forward member⟩
      simp [ActiveView.selection?, chosen, there]

end Session

namespace Line

open Session Text

/-- A line that one of the recognisers reads is a directive, with any blanks in front of it and any text behind it. So no
index lists it, no match has it among its hits, no histogram counts it, and no session comes to show it as an instruction
of a source line, whatever calls are made. -/
theorem recognised_never_instruction :
    (∀ line, recognised line = true → classify line = .directive ∧
      ∀ front back : String, (∀ c ∈ front.toList, isBlank c = true) →
        recognised (front ++ line ++ back) = true ∧ classify (front ++ line ++ back) = .directive) ∧
    (∀ lines table wanted index, LineIndex.buildWanted lines table wanted = .ok index → index.Genuine lines) ∧
    (∀ (query : Query) placed found, Query.OneListing placed → (query.resolveFrom .empty placed).result = .ok found →
      ∀ item ∈ found, item.Genuine) ∧
    (∀ lines, histogram (lines.filter fun line => !recognised line) = histogram lines) ∧
    ∀ workspace config contexts calls,
      let session := ((Conversation.new workspace config contexts).run calls).session
      (∀ view, session.active = some view → ∀ item ∈ view.found, item.Genuine) ∧
        ∀ file line, ∀ place ∈ session.linesFor file line,
          ∃ view selected, session.active = some view ∧ view.selection? = some selected ∧
            Listing.Genuine selected.found.kernel.listing.lines place := by
  refine ⟨fun line read => ⟨classify_of_recognised read, ?_⟩, ?_, ?_, histogram_filter_recognised, ?_⟩
  · intro front back blank
    have wider := recognised_around read blank back
    exact ⟨wider, classify_of_recognised wider⟩
  · intro lines table wanted index built
    exact LineIndex.genuine_of_build built
  · intro query placed found shared resolved
    exact Query.genuine_resolveFrom shared resolved
  · intro workspace config contexts calls
    have fresh : ∀ view, (Conversation.new workspace config contexts).session.active = some view → False := by
      intro view active
      cases active
    constructor
    · exact Conversation.forall_found_run (fun _ _ _ _ read resolved => Query.genuine_of_mem_resolve read resolved)
        (fun view active => (fresh view active).elim) calls
    · intro file line place member
      exact genuine_linesFor (Conversation.consistent_run (fun view active => (fresh view active).elim) calls) member

/-- Directives behind blanks of several kinds, with text behind them that has the marks of labels, comments and
instructions. -/
def disguised : Listing where
  path := "w/build/k-hip-amdgcn-amd-amdhsa-gfx90a.s"
  buildTag := "build"
  modified := .finite false 2
  lines := ["\u3000.file 1 \"/p\" \"a.hip\" s_nop 0", "\u001c.section .text.first:", "\t\u00a0.globl kernel_one ;again:",
    ".loc 1 7 0:", "s_nop 0", "\u2003.loc 1 7 0 // s_nop 0", "kernel_one:", "s_endpgm"]

def disguisedKernel : Kernel := ⟨"kernel_one", 1, 8, disguised, ⟨[(1, "/p/a.hip")]⟩⟩

def disguisedIndex : LineIndex where
  forwardMap := ⟨[(⟨"/p/a.hip", 6⟩, [4, 7])]⟩
  reverseMap := ⟨[3, 4, 5, 6, 7].map fun place => (place, ⟨"/p/a.hip", 6⟩)⟩

/-- Five lines are recognised, and the two instructions are the only lines that are hit. -/
theorem recognised_never_instruction_disguised :
    disguised.lines.map recognised = [true, true, true, true, false, true, false, false] ∧
      (∀ line ∈ disguised.lines.filter recognised, classify line = .directive) ∧
      classify (" " ++ ".loc 1 7 0" ++ "0 s_nop:") = .directive ∧
      LineIndex.build disguised.lines disguisedKernel.table = .ok disguisedIndex ∧ disguisedIndex.Genuine disguised.lines ∧
      (∃ item : Match, (Query.resolveFrom ⟨"a.hip", 7⟩ .empty [(0, disguisedKernel)]).result = .ok [item] ∧
        item.hits = [4, 7] ∧ item.Genuine) ∧
      (∃ view, showingNewer.session.active = some view ∧ view.found ≠ [] ∧ ∀ item ∈ view.found, item.Genuine) := by
  obtain ⟨directive, indexed, matched, -, shown⟩ := recognised_never_instruction
  have blank : ∀ c ∈ " ".toList, isBlank c = true := List.all_eq_true.mp (by decide)
  have built : LineIndex.build disguised.lines disguisedKernel.table = .ok disguisedIndex := by decide +kernel
  have resolved : (Query.resolveFrom ⟨"a.hip", 7⟩ .empty [(0, disguisedKernel)]).result =
      .ok [⟨disguisedKernel, "/p/a.hip", 1, [4, 7]⟩] := by decide +kernel
  have shared : Query.OneListing [(0, disguisedKernel)] := by
    intro first left second right _
    rw [List.mem_singleton.mp left, List.mem_singleton.mp right]
  obtain ⟨view, latest, _, installed, shows⟩ := Command.refresh_twoBuilds
  have active : showingNewer.session.active = some view := installed.active
  refine ⟨by decide +kernel, ?_, ?_, built, indexed _ _ _ _ built, ?_, view, active, ?_, ?_⟩
  · intro line member
    exact (directive line (List.mem_filter.mp member).2).1
  · exact ((directive ".loc 1 7 0" (by decide +kernel)).2 " " "0 s_nop:" blank).2
  · exact ⟨_, resolved, rfl, matched _ _ _ shared resolved _ List.mem_cons_self⟩
  · rw [shows.found_eq]
    exact List.cons_ne_nil _ _
  · exact (shown "w" Command.bothConfigured (fun _ => false) _).1 view active

end Line

end KernelAtlas
