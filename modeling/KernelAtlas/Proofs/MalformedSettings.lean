import KernelAtlas.Config
import KernelAtlas.Proofs.JsonAcceptance
import KernelAtlas.Proofs.JsonLineEnds

/-! What a settings file can do to the configuration of its workspace.

A settings file that is not structured text, or whose list is not one of texts, is reported as such. A configuration
that is loaded comes from a file that is neither. What is not reported and yet stops the loading are bytes that are no
text, and text that is too large for the reader. -/

set_option autoImplicit false

namespace KernelAtlas

namespace Json

open Numeral (digitLimit)
open Text (unifyNewlines)

inductive Textual : Json → Prop where
  | string (value : String) : Textual (.string value)
  | ragged (points : Text.Points) : Textual (.ragged points)

def ListsTexts (value : Json) : Prop := ∃ items, value = .array items ∧ ∀ item ∈ items, item.Textual

def LastField (name : String) (fields : List (String × Json)) (value : Json) : Prop :=
  ∃ front back, fields = front ++ (name, value) :: back ∧ ∀ field ∈ back, field.1 ≠ name

theorem exists_points?_iff (value : Json) : (∃ points, value.points? = some points) ↔ value.Textual := by
  constructor
  · rintro ⟨points, given⟩
    cases value with
    | string text => exact .string text
    | ragged points => exact .ragged points
    | _ => cases given
  · rintro (text | points)
    · exact ⟨_, rfl⟩
    · exact ⟨_, rfl⟩

theorem exists_texts?_iff (value : Json) : (∃ texts, value.texts? = some texts) ↔ value.ListsTexts := by
  have items (items : List Json) : (∃ texts, items.mapM points? = some texts) ↔ ∀ item ∈ items, item.Textual := by
    induction items with
    | nil => simp
    | cons item items ih =>
      simp only [List.mapM_cons, Option.bind_eq_bind, Option.bind_eq_some_iff, List.forall_mem_cons, ← ih,
        ← exists_points?_iff item]
      constructor
      · rintro ⟨_, points, first, texts, later, -⟩
        exact ⟨⟨points, first⟩, texts, later⟩
      · rintro ⟨⟨points, first⟩, texts, later⟩
        exact ⟨_, points, first, texts, later, rfl⟩
  constructor
  · rintro ⟨texts, given⟩
    cases value with
    | array list => exact ⟨list, rfl, (items list).mp ⟨texts, given⟩⟩
    | _ => cases given
  · rintro ⟨list, rfl, all⟩
    exact (items list).mpr all

theorem field?_eq_some_iff (name : String) (fields : List (String × Json)) (value : Json) :
    field? name fields = some value ↔ LastField name fields value := by
  simp only [field?, Option.map_eq_some_iff, List.find?_eq_some_iff_append]
  constructor
  · rintro ⟨⟨key, value⟩, ⟨same, later, front, split, others⟩, rfl⟩
    obtain rfl : key = name := by simpa using same
    refine ⟨front.reverse, later.reverse, ?_, fun field member => ?_⟩
    · rw [List.reverse_eq_iff] at split
      simpa using split
    · simpa using others field (List.mem_reverse.mp member)
  · rintro ⟨front, back, rfl, others⟩
    refine ⟨(name, value), ⟨by simp, back.reverse, front.reverse, by simp, fun field member => ?_⟩, rfl⟩
    simpa using others field (List.mem_reverse.mp member)

theorem countP_isOpening_unifyNewlines (text : List Char) :
    (unifyNewlines text).countP isOpening = text.countP isOpening := by
  have cr : isOpening '\r' = false := rfl
  have lf : isOpening '\n' = false := rfl
  fun_induction unifyNewlines text with
  | case1 => rfl
  | case2 text ih => simp only [List.countP_cons, cr, lf, ih, Bool.false_eq_true, if_false, Nat.add_zero]
  | case3 c text lone ih =>
    by_cases same : c = '\r'
    · simp only [same, if_true, List.countP_cons, cr, lf, ih]
    · simp only [same, if_false, List.countP_cons, ih]

/-- Line ends are no part of what the limits are about. -/
theorem Refusal.Explains.of_unifyNewlines {refusal : Refusal} {depth : Nat} {text : List Char}
    (explains : refusal.Explains depth (unifyNewlines text)) : refusal.Explains depth text := by
  cases refusal with
  | fault cause left => trivial
  | oversize refused =>
    obtain ⟨run, ⟨front, back, split⟩, digits, long⟩ := explains
    obtain ⟨before, after, rfl, unified, -⟩ := Text.exists_of_unifyNewlines_eq_append split.symm
    obtain ⟨first, inside, rfl, -, unified⟩ := Text.exists_of_unifyNewlines_eq_append unified
    have plain : '\n' ∉ run := fun member => absurd (digits '\n' member) (by decide)
    rw [Text.eq_of_unifyNewlines_eq plain unified]
    exact ⟨run, ⟨first, after, rfl⟩, digits, long⟩
  | tooDeep nest =>
    have deep : depth < (unifyNewlines text).countP isOpening := explains
    rwa [countP_isOpening_unifyNewlines] at deep

end Json

namespace Config

open Json (IsJson LastField Written isOpening)
open Numeral (digitLimit)
open Text (unifyNewlines)
open Text.Utf8 (encode)

def Failure.Reported : Failure → Prop
  | malformed _ _ | notStrings _ | denied _ _ => True
  | nameTooLong _ | undecodable _ | oversize _ | tooDeep _ => False

/-- Bytes that are no settings: they are not those of a structured text, or what the text sets is no list of texts. -/
inductive Malformed (bytes : List UInt8) : Prop where
  | unstructured (none : ∀ text value, bytes = encode text → ¬IsJson text value)
  | notTexts {text : List Char} {fields : List (String × Json)} {value : Json} (encoded : bytes = encode text)
      (object : IsJson text (.object fields)) (last : LastField settingsKey fields value) (other : ¬value.ListsTexts)

/-- Bytes of a text in which nothing comes near the limits of the reader. -/
inductive Legible (nesting : Nat) (bytes : List UInt8) : Prop where
  | text {text : List Char} (encoded : bytes = encode text)
      (digits : ∀ run, run <:+: text → (∀ c ∈ run, c.isDigit = true) → run.length ≤ digitLimit)
      (openings : text.countP isOpening ≤ nesting)

/-- Bytes that are no text, or a structured text beyond the limits. -/
inductive Unreadable (nesting : Nat) (bytes : List UInt8) : Prop where
  | undecodable (none : ∀ text, bytes ≠ encode text)
  | beyond {text : List Char} {value : Json} (encoded : bytes = encode text) (structured : IsJson text value)
      (large : ¬Written digitLimit nesting text value)

/-- A settings file is taken, reported or neither. -/
inductive Judged {α : Type} (malformed legible : Prop) : Except Failure α → Prop where
  | taken {value : α} (sound : ¬malformed) : Judged malformed legible (.ok value)
  | reported {failure : Failure} (known : failure.Reported) (cause : malformed) : Judged malformed legible (.error failure)
  | escaped {failure : Failure} (unknown : ¬failure.Reported) (cause : ¬legible) : Judged malformed legible (.error failure)

theorem encode_injective {text other : List Char} (same : encode text = encode other) : text = other := by
  have first := (Text.Utf8.decode_eq_ok_iff _ text).mpr rfl
  rw [same, (Text.Utf8.decode_eq_ok_iff _ other).mpr rfl] at first
  exact (Except.ok.inj first).symm

section
variable {nesting : Nat} {text : List Char} {value : Json}

theorem isJson_of_parse (parsed : Json.parse nesting (unifyNewlines text) = .ok value) : IsJson text value :=
  (Json.isJson_unifyNewlines_iff text value).mp ⟨digitLimit, nesting, (Json.parse_eq_ok_iff _ _ value).mp parsed⟩

theorem eq_of_parse (parsed : Json.parse nesting (unifyNewlines text) = .ok value) {other : Json}
    (structured : IsJson text other) : other = value := by
  obtain ⟨limit, depth, written⟩ := (Json.isJson_unifyNewlines_iff text other).mpr structured
  rcases written.parse nesting with same | ⟨-, refusal, -, failed⟩
  · rw [parsed] at same
    exact (Except.ok.inj same).symm
  · rw [parsed] at failed
    cases failed

theorem not_malformed (parsed : Json.parse nesting (unifyNewlines text) = .ok value)
    (fine : ∀ fields last, value = .object fields → LastField settingsKey fields last → last.ListsTexts) :
    ¬Malformed (encode text) := by
  rintro (none | ⟨encoded, object, last, other⟩)
  · exact none text value rfl (isJson_of_parse parsed)
  · rw [← encode_injective encoded] at object
    exact other (fine _ _ (eq_of_parse parsed object).symm last)

theorem not_legible {refusal : Json.Refusal} (refused : Json.parse nesting (unifyNewlines text) = .error refusal)
    (limit : refusal.IsLimit) : ¬Legible nesting (encode text) := by
  rintro ⟨encoded, digits, openings⟩
  have explains := (Json.explains_of_parse refused).of_unifyNewlines
  rw [encode_injective encoded] at explains
  cases refusal with
  | fault cause left => exact limit
  | oversize refused =>
    obtain ⟨run, inside, all, long⟩ := explains
    exact Nat.not_le_of_lt long (digits run inside all)
  | tooDeep nest => exact Nat.not_le_of_lt explains openings

end

theorem Judged.map {α β : Type} {malformed legible : Prop} {result : Except Failure α}
    (judged : Judged malformed legible result) (f : α → β) : Judged malformed legible (result.map f) := by
  cases judged with
  | taken sound => exact .taken sound
  | reported known cause => exact .reported known cause
  | escaped unknown cause => exact .escaped unknown cause

theorem directoriesIn_judged (nesting : Nat) (path : String) (bytes : List UInt8) :
    Judged (Malformed bytes) (Legible nesting bytes) (directoriesIn nesting path bytes) := by
  unfold directoriesIn
  split
  · rename_i failure undecoded
    refine .escaped id fun ⟨encoded, _, _⟩ => ?_
    rw [(Text.Utf8.decode_eq_ok_iff bytes _).mpr encoded] at undecoded
    cases undecoded
  · rename_i text decoded
    obtain rfl := (Text.Utf8.decode_eq_ok_iff bytes text).mp decoded
    simp only
    split
    · rename_i cause left refused
      refine .reported trivial (.unstructured fun other value encoded structured => ?_)
      rw [← encode_injective encoded] at structured
      exact Json.not_isJson_of_fault refused value ((Json.isJson_unifyNewlines_iff text value).mpr structured)
    · rename_i oversize refused
      exact .escaped id (not_legible refused trivial)
    · rename_i nest refused
      exact .escaped id (not_legible refused trivial)
    · rename_i fields parsed
      split
      · rename_i absent
        refine .taken (not_malformed parsed fun _ last same given => ?_)
        cases same
        rw [← Json.field?_eq_some_iff, absent] at given
        cases given
      · rename_i value present
        have last := (Json.field?_eq_some_iff settingsKey fields value).mp present
        split
        · rename_i none
          refine .reported trivial (.notTexts rfl (isJson_of_parse parsed) last fun lists => ?_)
          obtain ⟨texts, some⟩ := (Json.exists_texts?_iff value).mpr lists
          rw [none] at some
          cases some
        · rename_i texts some
          refine .taken (not_malformed parsed fun _ other same given => ?_)
          cases same
          rw [← Json.field?_eq_some_iff, present] at given
          cases given
          exact (Json.exists_texts?_iff value).mp ⟨texts, some⟩
    · rename_i value other parsed
      refine .taken (not_malformed parsed fun fields last same _ => ?_)
      exact (other fields same).elim

theorem directoriesIn_unreadable (path : String) {nesting : Nat} {bytes : List UInt8}
    (unreadable : Unreadable nesting bytes) :
    ∃ failure, directoriesIn nesting path bytes = .error failure ∧ ¬failure.Reported := by
  unfold directoriesIn
  cases unreadable with
  | undecodable none =>
    cases decoded : Text.Utf8.decode bytes with
    | error failure => exact ⟨.undecodable failure, rfl, id⟩
    | ok text => exact absurd ((Text.Utf8.decode_eq_ok_iff bytes text).mp decoded) (none text)
  | @beyond text value encoded structured large =>
    obtain ⟨limit, depth, written⟩ := (Json.isJson_unifyNewlines_iff text value).mpr structured
    simp only [(Text.Utf8.decode_eq_ok_iff bytes text).mpr encoded]
    rcases written.parse nesting with parsed | ⟨-, refusal, limited, failed⟩
    · have same : Json.Alike (unifyNewlines text) text :=
        Text.unifyNewlines_of_notMem (Text.carriageReturn_notMem_unifyNewlines text)
      have written := (Json.parse_eq_ok_iff _ _ value).mp parsed
      exact absurd (Json.unified_written digitLimit nesting _ value text written same) large
    · rw [failed]
      cases refusal with
      | fault cause left => exact limited.elim
      | oversize refused => exact ⟨.oversize refused, rfl, id⟩
      | tooDeep nest => exact ⟨.tooDeep nest, rfl, id⟩

def HasSettings (tree : FileTree) (workspace : String) (bytes : List UInt8) : Prop :=
  ∃ modified, tree.read (settingsPath workspace) = .ok (bytes, modified)

section
variable {nesting : Nat} {tree : FileTree} {workspace : String}

def SettingsMalformed (tree : FileTree) (workspace : String) : Prop :=
  ∃ bytes, HasSettings tree workspace bytes ∧ Malformed bytes

def SettingsLegible (nesting : Nat) (tree : FileTree) (workspace : String) : Prop :=
  tree.read (settingsPath workspace) ≠ .error .nameTooLong ∧
    ∀ bytes, HasSettings tree workspace bytes → Legible nesting bytes

theorem result_fromSettings {bytes : List UInt8} (settings : HasSettings tree workspace bytes) :
    (fromSettings nesting none tree workspace).result = directoriesIn nesting (settingsPath workspace) bytes := by
  obtain ⟨modified, read⟩ := settings
  simp only [fromSettings, read, Recorded.result_bind, Recorded.ofExcept]
  cases directoriesIn nesting (settingsPath workspace) bytes with
  | error failure => rfl
  | ok directories =>
    cases directories with
    | none => rfl
    | some directories => rfl

theorem result_fromSettings_of_denied {bytes : List UInt8} (settings : HasSettings tree workspace bytes) (reason : String) :
    (fromSettings nesting (some reason) tree workspace).result = .error (.denied (settingsPath workspace) reason) := by
  obtain ⟨modified, read⟩ := settings
  simp only [fromSettings, read, Recorded.fail]

theorem fromSettings_of_absent (absent : ∀ bytes, ¬HasSettings tree workspace bytes) (denied : Option String) :
    fromSettings nesting denied tree workspace = fromSettings nesting none tree workspace := by
  cases read : tree.read (settingsPath workspace) with
  | error failure =>
    simp only [fromSettings, read]
    cases failure <;> rfl
  | ok found => exact absurd ⟨found.2, read⟩ (absent found.1)

theorem fromSettings_judged :
    Judged (SettingsMalformed tree workspace) (SettingsLegible nesting tree workspace)
      (fromSettings nesting none tree workspace).result := by
  cases read : tree.read (settingsPath workspace) with
  | error failure =>
    have absent (bytes : List UInt8) : ¬HasSettings tree workspace bytes := by
      rintro ⟨modified, found⟩
      rw [read] at found
      cases found
    by_cases long : failure = .nameTooLong
    · rw [long] at read
      simp only [fromSettings, read, Recorded.fail]
      exact .escaped id fun legible => legible.1 read
    · have none : (fromSettings nesting none tree workspace).result = .ok none := by
        simp only [fromSettings, read]
        rfl
      rw [none]
      exact .taken fun ⟨bytes, settings, _⟩ => absent bytes settings
  | ok found =>
    obtain ⟨bytes, modified⟩ := found
    have settings : HasSettings tree workspace bytes := ⟨modified, read⟩
    have only {other : List UInt8} (found : HasSettings tree workspace other) : other = bytes := by
      obtain ⟨later, same⟩ := found
      rw [read] at same
      cases same
      rfl
    have malformed : SettingsMalformed tree workspace ↔ Malformed bytes :=
      ⟨fun ⟨_, found, cause⟩ => only found ▸ cause, fun cause => ⟨bytes, settings, cause⟩⟩
    have legible : SettingsLegible nesting tree workspace ↔ Legible nesting bytes := by
      refine ⟨fun whole => whole.2 bytes settings, fun whole => ⟨?_, fun other found => only found ▸ whole⟩⟩
      rw [read]
      exact fun long => by cases long
    rw [malformed, legible, result_fromSettings settings]
    exact directoriesIn_judged nesting (settingsPath workspace) bytes

theorem result_load (denied : Option String) (environment : String) (explicit : List String) :
    (load nesting denied tree workspace environment explicit).result =
      (fromSettings nesting denied tree workspace).result.map fun settings =>
        filled { default with buildDirectories := layered explicit environment settings } := by
  rw [load, Recorded.result_bind]
  cases (fromSettings nesting denied tree workspace).result with
  | error failure => rfl
  | ok settings => rfl

end

/-- Whatever a settings file holds that can be read, the configuration is loaded and the file is not malformed, or the
file is reported and is malformed, or it is not legible. A file that is no text, or a text beyond the limits, is never
reported, and one that cannot be read always is. -/
theorem load_judged (nesting : Nat) (tree : FileTree) (workspace environment : String) (explicit : List String) :
    Judged (SettingsMalformed tree workspace) (SettingsLegible nesting tree workspace)
      (load nesting none tree workspace environment explicit).result ∧
    (∀ denied config, (load nesting denied tree workspace environment explicit).result = .ok config →
      config.buildDirectories ≠ []) ∧
    (∀ bytes, HasSettings tree workspace bytes → Unreadable nesting bytes →
      ∃ failure, (load nesting none tree workspace environment explicit).result = .error failure ∧ ¬failure.Reported) ∧
    (∀ bytes reason, HasSettings tree workspace bytes →
      (load nesting (some reason) tree workspace environment explicit).result =
        .error (.denied (settingsPath workspace) reason)) ∧
    ∀ denied, (∀ bytes, ¬HasSettings tree workspace bytes) →
      load nesting denied tree workspace environment explicit = load nesting none tree workspace environment explicit := by
  refine ⟨?_, ?_, ?_, ?_, ?_⟩
  · rw [result_load]
    exact fromSettings_judged.map _
  · intro denied config loaded
    rw [result_load] at loaded
    cases settings : (fromSettings nesting denied tree workspace).result with
    | error failure =>
      rw [settings] at loaded
      cases loaded
    | ok directories =>
      rw [settings] at loaded
      cases loaded
      exact buildDirectories_filled_ne_nil _
  · intro bytes settings unreadable
    obtain ⟨failure, failed, unreported⟩ := directoriesIn_unreadable (settingsPath workspace) unreadable
    rw [result_load, result_fromSettings settings, failed]
    exact ⟨failure, rfl, unreported⟩
  · intro bytes reason settings
    rw [result_load, result_fromSettings_of_denied settings]
    rfl
  · intro denied absent
    rw [load, load, fromSettings_of_absent absent]

/-- A workspace whose settings file is one byte that starts no character. -/
def undecodableSettings : FileTree :=
  ⟨[("ws", .directory [(".vscode", .directory [("settings.json", .file [0xFF] ⟨0⟩)])])], []⟩

theorem load_undecodableSettings :
    SettingsMalformed undecodableSettings "ws" ∧
      (load 989 none undecodableSettings "ws" "" []).result = .error (.undecodable ⟨0, 1, .badStart, 0xFF⟩) ∧
        ¬(Failure.undecodable ⟨0, 1, .badStart, 0xFF⟩).Reported := by
  have settings : HasSettings undecodableSettings "ws" [0xFF] := ⟨.finite false 0, by decide +kernel⟩
  have undecoded : Text.Utf8.decode [0xFF] = .error ⟨0, 1, .badStart, 0xFF⟩ := by decide +kernel
  refine ⟨⟨[0xFF], settings, .unstructured fun text value encoded _ => ?_⟩, ?_, id⟩
  · rw [(Text.Utf8.decode_eq_ok_iff _ text).mpr encoded] at undecoded
    cases undecoded
  · rw [result_load, result_fromSettings settings, directoriesIn, undecoded]
    rfl

end Config

end KernelAtlas
