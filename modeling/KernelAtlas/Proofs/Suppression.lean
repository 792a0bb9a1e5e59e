import KernelAtlas.Proofs.ComparedLines

/-! Suppressed highlighting over any number of calls.

A context is suppressed once a source location has been revealed for it, and it remains so. The flag belongs to the
context: it survives every change of the view, and what is revealed for one context does not touch another. -/

set_option autoImplicit false

namespace KernelAtlas.Session

open Query (twoBuildsFound)

def Call.locatesFor : Call → Option Nat
  | locate context _ => context
  | locateCompared context _ _ _ => context
  | _ => none

def Reveals (context : Nat) (entry : Call × Outcome) : Prop :=
  entry.1.locatesFor = some context ∧ ∃ location, entry.2.answer = .ok (.location (some location))

/-- What a run of calls does to the contexts, and what the contexts do to a highlight after it. -/
structure Conversation.Suppresses (start : Conversation) (calls : List Call) : Prop where
  suppressed_iff : ∀ context, start.contexts context = false →
    ((start.run calls).contexts context = true ↔ ∃ entry ∈ start.transcript calls, Reveals context entry)
  stays : ∀ context, (start.run calls).contexts context = true → ∀ later,
    (start.run (calls ++ later)).contexts context = true
  silent : ∀ context, (start.run calls).contexts context = true → ∀ later file line,
    (Call.highlight (some context) file line).perform (start.run (calls ++ later)) =
      ⟨start.run (calls ++ later), [], .ok (.lines []), []⟩
  /-- Without a context, or with one that is not suppressed, the lines are those that a plain question gives. -/
  shown : ∀ context : Option Nat, (∀ known, context = some known → (start.run calls).contexts known = false) →
    ∀ file line, ∃ lines, ((Call.linesFor file line).perform (start.run calls)).answer = .ok (.lines lines) ∧
      (Call.highlight context file line).perform (start.run calls) =
        ⟨start.run calls, if lines = [] then [] else [.highlight lines], .ok (.lines lines), []⟩

theorem isEmpty_revealed (answer : Recorded Failure (Option Location)) :
    (revealed answer).isEmpty = false ↔ ∃ location, answer.result = .ok (some location) := by
  obtain ⟨entries, result⟩ := answer
  cases result with
  | error failure => simp [revealed]
  | ok found => cases found <;> simp [revealed]

section
variable (before : Conversation) (context : Nat)

theorem contexts_ofLocation (asking : Option Nat) (answer : Recorded Failure (Option Location)) :
    (Outcome.ofLocation before asking answer).after.contexts context = true ↔
      before.contexts context = true ∨ asking = some context ∧
        ∃ location, (Outcome.ofLocation before asking answer).answer = .ok (.location (some location)) := by
  have answered : (∃ location, (Outcome.ofLocation before asking answer).answer = .ok (.location (some location))) ↔
      ∃ location, answer.result = .ok (some location) := by
    simp only [Outcome.ofLocation]
    cases answer.result <;> simp [Except.map]
  rw [answered, ← isEmpty_revealed]
  by_cases same : asking = some context
  · simp [Outcome.ofLocation, Conversation.suppress, Conversation.suppressed, suppressedAfter, same]
  · simp [Outcome.ofLocation, Conversation.suppress, same]

/-- All that a call can do to a context: it suppresses one for which it reveals a location. -/
theorem Call.contexts_perform (call : Call) :
    (call.perform before).after.contexts context = true ↔
      before.contexts context = true ∨ Reveals context (call, call.perform before) := by
  cases call with
  | locate asking position => exact contexts_ofLocation before context asking _
  | locateCompared asking comparison side position => exact contexts_ofLocation before context asking _
  | compare position =>
    have same : ((Call.compare position).perform before).after.contexts = before.contexts := by
      simp only [perform, Outcome.ofComparison]
      cases before.session.compare position <;> rfl
    simp [same, Reveals, locatesFor]
  | _ => simp [perform, Outcome.ofReply, Reveals, locatesFor]

end

section
variable (start : Conversation) (calls later : List Call) (context : Nat)

theorem Conversation.run_append : start.run (calls ++ later) = (start.run calls).run later :=
  List.foldl_append

theorem Conversation.contexts_run :
    (start.run calls).contexts context = true ↔
      start.contexts context = true ∨ ∃ entry ∈ start.transcript calls, Reveals context entry := by
  induction calls generalizing start with
  | nil => simp [run, transcript]
  | cons call rest ih =>
    change ((call.perform start).after.run rest).contexts context = true ↔ _
    rw [ih, call.contexts_perform, transcript, or_assoc]
    simp only [List.mem_cons, exists_eq_or_imp]

theorem Conversation.contexts_run_append (suppressed : (start.run calls).contexts context = true) :
    (start.run (calls ++ later)).contexts context = true := by
  rw [run_append, contexts_run]
  exact Or.inl suppressed

end

section
variable {conversation : Conversation} {context : Option Nat} (file : String) (line : Int)

theorem highlight_of_suppressed (suppressed : conversation.suppressed context = true) :
    (Call.highlight context file line).perform conversation = ⟨conversation, [], .ok (.lines []), []⟩ := by
  simp [Call.perform, highlight, suppressed]

theorem highlight_of_unsuppressed (heard : conversation.suppressed context = false) :
    (Call.highlight context file line).perform conversation =
      ⟨conversation,
        if conversation.session.linesFor file line = [] then [] else [.highlight (conversation.session.linesFor file line)],
        .ok (.lines (conversation.session.linesFor file line)), []⟩ := by
  simp only [Call.perform, highlight, heard, Bool.false_eq_true, if_false]
  cases conversation.session.linesFor file line <;> rfl

end

/-- In every run of calls, from whatever state, highlighting is suppressed for exactly those contexts for which a
location has been revealed, and it stays suppressed for them and for no other. -/
theorem suppression_follows_reveals (start : Conversation) (calls : List Call) : start.Suppresses calls := by
  refine ⟨?_, ?_, ?_, ?_⟩
  · intro context fresh
    rw [start.contexts_run calls context]
    simp [fresh]
  · intro context suppressed later
    exact start.contexts_run_append calls later context suppressed
  · intro context suppressed later file line
    apply highlight_of_suppressed
    exact start.contexts_run_append calls later context suppressed
  · intro context unset file line
    refine ⟨(start.run calls).session.linesFor file line, rfl, highlight_of_unsuppressed file line ?_⟩
    cases context with
    | none => rfl
    | some known => exact unset known rfl

/-- A location is revealed for one of two contexts; then the same line is highlighted for the other one only. -/
theorem suppression_follows_reveals_twoBuilds :
    let revealed := showingNewer.run [.locate (some 0) 5]
    showingNewer.Suppresses [.locate (some 0) 5] ∧ showingNewer.contexts 0 = false ∧ revealed.contexts 0 = true ∧
      revealed.contexts 1 = false ∧ ((Call.highlight (some 0) "/p/a.hip" 6).perform revealed).displays = [] ∧
        ((Call.highlight (some 1) "/p/a.hip" 6).perform revealed).displays = [.highlight [5, 8, 12]] := by
  obtain ⟨view, latest, index, installed, shows⟩ := Command.refresh_twoBuilds
  have active : showingNewer.session.active = some view := installed.active
  have looked : index.reverse? 5 = some ⟨"/p/a.hip", 6⟩ ∧ index.forward "/p/a.hip" 6 = [5, 8, 12] := by
    have values : (twoBuildsFound[0]?.map fun latest => latest.index.result.map fun index =>
        (index.reverse? 5, index.forward "/p/a.hip" 6)) = some (.ok (some ⟨"/p/a.hip", 6⟩, [5, 8, 12])) := by
      decide +kernel
    rw [shows.there, Option.map_some, shows.indexed] at values
    simpa [Except.map] using values
  have laws := suppression_follows_reveals showingNewer [.locate (some 0) 5]
  have located : ((Call.locate (some 0) 5).perform showingNewer).answer = .ok (.location (some ⟨"/p/a.hip", 6⟩)) := by
    change (showingNewer.session.locationOf 5).result.map Answer.location = _
    rw [result_locationOf active shows, looked.1]
    rfl
  have suppressed : (showingNewer.run [.locate (some 0) 5]).contexts 0 = true :=
    (laws.suppressed_iff 0 rfl).mpr ⟨_, List.mem_cons_self, rfl, _, located⟩
  have other : (showingNewer.run [.locate (some 0) 5]).contexts 1 = false := rfl
  refine ⟨laws, rfl, suppressed, other, ?_, ?_⟩
  · exact congrArg Outcome.displays (laws.silent 0 suppressed [] "/p/a.hip" 6)
  · obtain ⟨lines, asked, highlighted⟩ := laws.shown (some 1) (fun known same => Option.some.inj same ▸ other) "/p/a.hip" 6
    have shown : view.index.forward "/p/a.hip" 6 = lines := by
      have same : (showingNewer.run [.locate (some 0) 5]).session.linesFor "/p/a.hip" 6 = lines := by
        simpa [Call.perform] using asked
      rw [← same]
      change _ = showingNewer.session.linesFor "/p/a.hip" 6
      rw [linesFor, active]
    rw [shows.index_eq, looked.2] at shown
    rw [highlighted, ← shown]
    rfl

end KernelAtlas.Session
