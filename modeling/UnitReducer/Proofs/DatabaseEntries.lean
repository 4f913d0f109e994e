import UnitReducer.Proofs.FailureIsolation
import Mathlib.Data.List.Forall2
/-!
# Entries of a compilation database

`ValidEntry` says what an entry has to hold and `Describes` which command it stands for.
A database is accepted when it is a nonempty array of valid entries, and otherwise the
first check that the first invalid entry fails is reported
(`Database.load_checks_entries`).
-/

namespace UnitReducer

/-! ## Fields of an object -/

namespace Json

/-- An object has `value` under `name`.  Of several fields of that name the last one
counts. -/
def HasField (json : Json) (name : String) (value : Json) : Prop :=
  ∃ before after, json = .object (before ++ named name value :: after) ∧
    ∀ field ∈ after, field.1 ≠ name.toList

def strings (texts : List Text) : Json :=
  .array (texts.map .string)

/-- The field is missing, `null`, or written by `write`. -/
def OptionalField {α : Type} (write : α → Json) (json : Json) (name : String) : Prop :=
  ∀ value, json.HasField name value → value = .null ∨ ∃ a, value = write a

theorem hasField_object_iff {fields : List (Text × Json)} {name : String} {value : Json} :
    (Json.object fields).HasField name value ↔ field? name.toList fields = some value := by
  rw [field?, Option.map_eq_some_iff]
  constructor
  · rintro ⟨before, after, hfields, hafter⟩
    obtain rfl := Json.object.inj hfields
    refine ⟨named name value, ?_, rfl⟩
    rw [List.find?_eq_some_iff_append]
    refine ⟨by simp [named], after.reverse, before.reverse, by simp, ?_⟩
    intro field hfield
    simpa using hafter field (List.mem_reverse.1 hfield)
  · rintro ⟨⟨name', value'⟩, hfind, rfl⟩
    rw [List.find?_eq_some_iff_append] at hfind
    obtain ⟨hname, after, before, hfields, hafter⟩ := hfind
    obtain rfl : name' = name.toList := by simpa using hname
    refine ⟨before.reverse, after.reverse, ?_, ?_⟩
    · rw [← List.reverse_reverse fields, hfields]
      simp [named]
    · intro field hfield
      simpa using hafter field (List.mem_reverse.1 hfield)

theorem string?_eq_some_iff {json : Json} {s : Text} :
    json.string? = some s ↔ json = .string s := by
  cases json <;> simp [string?]

theorem mapM_string?_eq_some_iff {items : List Json} {texts : List Text} :
    items.mapM string? = some texts ↔ items = texts.map .string := by
  induction items generalizing texts with
  | nil => simp [eq_comm]
  | cons item items ih =>
      cases texts with
      | nil => simp [Option.bind_eq_some_iff]
      | cons s texts => simp [Option.bind_eq_some_iff, string?_eq_some_iff, ih]

theorem strings?_eq_some_iff {json : Json} {texts : List Text} :
    json.strings? = some texts ↔ json = strings texts := by
  cases json <;> simp [strings?, strings, mapM_string?_eq_some_iff]

theorem optional?_of_null {fields : List (Text × Json)} {name : Text}
    (h : field? name fields = some .null) : optional? name fields = none := by
  rw [optional?, h]

theorem optional?_of_ne_null {fields : List (Text × Json)} {name : Text}
    (h : field? name fields ≠ some .null) : optional? name fields = field? name fields := by
  unfold optional?
  split
  next hnull => exact absurd hnull h
  next => rfl

end Json

/-! ## What an entry has to hold -/

namespace EntryFault

def order : List EntryFault :=
  [.notObject, .paths, .arguments, .command]

def Passed (json : Json) : EntryFault → Prop
  | .notObject => ∃ fields, json = .object fields
  | .paths =>
    (∃ directory, json.HasField "directory" (.string directory)) ∧
      ∃ file, json.HasField "file" (.string file)
  | .arguments => Json.OptionalField Json.strings json "arguments"
  | .command => Json.OptionalField Json.string json "command"

def complaint : EntryFault → String
  | .notObject => " is not a JSON object"
  | .paths => " must have string 'directory' and 'file' fields"
  | .arguments => ": 'arguments' must be a list of strings"
  | .command => ": 'command' must be a string"

/-- The entry fails this check and has passed those before it. -/
def IsFirst (json : Json) (fault : EntryFault) : Prop :=
  ¬ fault.Passed json ∧
    ∃ earlier later, order = earlier ++ fault :: later ∧ ∀ check ∈ earlier, check.Passed json

end EntryFault

def ValidEntry (json : Json) : Prop :=
  ∀ check : EntryFault, check.Passed json

/-- The command has the fields of the entry, with its paths read.  A list of arguments or
a command text is there exactly when the entry has one. -/
structure Describes (json : Json) (c : CompileCommand) : Prop where
  directory : ∃ text, json.HasField "directory" (.string text) ∧ c.directory = Path.ofText text
  file : ∃ text, json.HasField "file" (.string text) ∧ c.file = Path.ofText text
  arguments : ∀ args, c.arguments = some args ↔ json.HasField "arguments" (Json.strings args)
  command : ∀ text, c.command = some text ↔ json.HasField "command" (.string text)

namespace Database

/-! ## Reading an entry -/

theorem readOptional_cases {α : Type} {read? : Json → Option α} {write : α → Json}
    (hread : ∀ json a, read? json = some a ↔ json = write a) (hnull : ∀ a, write a ≠ .null)
    (fault : EntryFault) (fields : List (Text × Json)) (name : String) :
    readOptional read? fault (Json.optional? name.toList fields) = .error fault ∧
        ¬ Json.OptionalField write (.object fields) name ∨
      ∃ result, readOptional read? fault (Json.optional? name.toList fields) = .ok result ∧
        Json.OptionalField write (.object fields) name ∧
        ∀ a, result = some a ↔ (Json.object fields).HasField name (write a) := by
  unfold Json.OptionalField
  simp only [Json.hasField_object_iff]
  by_cases hfield : Json.field? name.toList fields = some .null
  · refine Or.inr ⟨none, ?_, ?_, ?_⟩
    · rw [Json.optional?_of_null hfield, readOptional]
    · intro value hvalue
      exact Or.inl (Option.some.inj (hvalue.symm.trans hfield))
    · intro a
      rw [hfield, Option.some.injEq]
      exact iff_of_false (by simp) (hnull a).symm
  · rw [Json.optional?_of_ne_null hfield]
    cases hvalue : Json.field? name.toList fields with
    | none => exact Or.inr ⟨none, rfl, by simp, by simp⟩
    | some value =>
        have hne : value ≠ .null := by
          rintro rfl
          exact hfield hvalue
        cases hresult : read? value with
        | none =>
            refine Or.inl ⟨by rw [readOptional, hresult], ?_⟩
            intro h
            obtain ⟨a, ha⟩ := (h value rfl).resolve_left hne
            rw [(hread value a).2 ha] at hresult
            cases hresult
        | some a =>
            have ha : value = write a := (hread value a).1 hresult
            refine Or.inr ⟨some a, by rw [readOptional, hresult], ?_, ?_⟩
            · intro value' hvalue'
              obtain rfl := Option.some.inj hvalue'
              exact Or.inr ⟨a, ha⟩
            · intro b
              rw [Option.some.injEq, Option.some.injEq, ← hread, hresult, Option.some.injEq]

theorem readString_cases (fields : List (Text × Json)) (name : String) :
    (Json.field? name.toList fields).bind Json.string? = none ∧
        (¬ ∃ text, (Json.object fields).HasField name (.string text)) ∨
      ∃ text, (Json.field? name.toList fields).bind Json.string? = some text ∧
        (Json.object fields).HasField name (.string text) := by
  simp only [Json.hasField_object_iff]
  cases hfield : (Json.field? name.toList fields).bind Json.string? with
  | none =>
      refine Or.inl ⟨rfl, ?_⟩
      rintro ⟨text, htext⟩
      rw [htext] at hfield
      cases hfield
  | some text =>
      obtain ⟨value, hvalue, htext⟩ := Option.bind_eq_some_iff.1 hfield
      rw [Json.string?_eq_some_iff.1 htext] at hvalue
      exact Or.inr ⟨text, rfl, hvalue⟩

theorem commandOfEntry_of_not_object {entry : Json} (h : ¬ EntryFault.notObject.Passed entry) :
    commandOfEntry entry = .error .notObject := by
  cases entry with
  | object fields => exact absurd ⟨fields, rfl⟩ h
  | _ => rfl

theorem commandOfEntry_object_cases (fields : List (Text × Json)) :
    (∃ fault, commandOfEntry (.object fields) = .error fault ∧ fault.IsFirst (.object fields)) ∨
      ∃ c, commandOfEntry (.object fields) = .ok c ∧ ValidEntry (.object fields) ∧
        Describes (.object fields) c := by
  have hobject : EntryFault.notObject.Passed (.object fields) := ⟨fields, rfl⟩
  have hpathsFirst (hno : ¬ EntryFault.paths.Passed (.object fields)) :
      EntryFault.IsFirst (.object fields) .paths :=
    ⟨hno, [.notObject], [.arguments, .command], rfl, by simpa using hobject⟩
  -- every step below settles one field: its failure is the fault, for all checks before it
  -- have passed, and otherwise the reading goes on
  rcases readString_cases fields "directory" with
    ⟨hdirectory, hno⟩ | ⟨directory, hdirectory, hdirectory'⟩
  · have hfault : commandOfEntry (.object fields) = .error .paths := by
      simp only [commandOfEntry, hdirectory]
    exact Or.inl ⟨.paths, hfault, hpathsFirst fun h => hno h.1⟩
  rcases readString_cases fields "file" with ⟨hfile, hno⟩ | ⟨file, hfile, hfile'⟩
  · have hfault : commandOfEntry (.object fields) = .error .paths := by
      simp only [commandOfEntry, hdirectory, hfile]
    exact Or.inl ⟨.paths, hfault, hpathsFirst fun h => hno h.2⟩
  have hpaths : EntryFault.paths.Passed (.object fields) := ⟨⟨directory, hdirectory'⟩, file, hfile'⟩
  rcases readOptional_cases (fun _ _ => Json.strings?_eq_some_iff) (by simp [Json.strings])
      .arguments fields "arguments" with
    ⟨harguments, hno⟩ | ⟨arguments, harguments, hargumentsPassed, harguments'⟩
  · refine Or.inl ⟨.arguments, ?_, hno, [.notObject, .paths], [.command], rfl, ?_⟩
    · simp only [commandOfEntry, hdirectory, hfile, harguments]
      rfl
    · simpa using ⟨hobject, hpaths⟩
  rcases readOptional_cases (fun _ _ => Json.string?_eq_some_iff) (by simp)
      .command fields "command" with
    ⟨hcommand, hno⟩ | ⟨command, hcommand, hcommandPassed, hcommand'⟩
  · refine Or.inl ⟨.command, ?_, hno, [.notObject, .paths, .arguments], [], rfl, ?_⟩
    · simp only [commandOfEntry, hdirectory, hfile, harguments, hcommand]
      rfl
    · simpa using ⟨hobject, hpaths, hargumentsPassed⟩
  refine Or.inr ⟨⟨Path.ofText directory, Path.ofText file, arguments, command⟩, ?_, ?_, ?_⟩
  · simp only [commandOfEntry, hdirectory, hfile, harguments, hcommand]
    rfl
  · intro check
    cases check with
    | notObject => exact hobject
    | paths => exact hpaths
    | arguments => exact hargumentsPassed
    | command => exact hcommandPassed
  · exact ⟨⟨directory, hdirectory', rfl⟩, ⟨file, hfile', rfl⟩, harguments', hcommand'⟩

/-- An entry is read when it is valid, and otherwise its first failed check is the
fault. -/
theorem commandOfEntry_cases (entry : Json) :
    (∃ fault, commandOfEntry entry = .error fault ∧ fault.IsFirst entry) ∨
      ∃ c, commandOfEntry entry = .ok c ∧ ValidEntry entry ∧ Describes entry c := by
  by_cases h : EntryFault.notObject.Passed entry
  · obtain ⟨fields, rfl⟩ := h
    exact commandOfEntry_object_cases fields
  · refine Or.inl ⟨.notObject, commandOfEntry_of_not_object h, h, ?_⟩
    exact ⟨[], [.paths, .arguments, .command], rfl, by simp⟩

theorem commandOfEntry_eq_ok {entry : Json} {c : CompileCommand}
    (h : commandOfEntry entry = .ok c) : ValidEntry entry ∧ Describes entry c := by
  rcases commandOfEntry_cases entry with ⟨fault, hfault, -⟩ | ⟨c', hc', hvalid⟩
  · rw [hfault] at h
    cases h
  · rw [hc', Except.ok.injEq] at h
    rwa [← h]

theorem commandOfEntry_eq_error {entry : Json} {fault : EntryFault}
    (h : commandOfEntry entry = .error fault) : fault.IsFirst entry := by
  rcases commandOfEntry_cases entry with ⟨fault', hfault', hfirst⟩ | ⟨c, hc, -⟩
  · rw [hfault', Except.error.injEq] at h
    rwa [← h]
  · rw [hc] at h
    cases h

/-! ## Reading all entries -/

/-- `e` reports the first of the entries that is not valid, and of that entry the first
check it fails.  The entries are counted from `index`. -/
def ReportsFirstInvalid (index : Nat) (entries : List Json) (e : DatabaseError) : Prop :=
  ∃ before entry after fault, entries = before ++ entry :: after ∧
    (∀ earlier ∈ before, ValidEntry earlier) ∧ EntryFault.IsFirst entry fault ∧
    e = .badEntry (index + before.length) fault

theorem commandsFrom_eq_ok {index : Nat} {entries : List Json} {commands : List CompileCommand}
    (h : commandsFrom index entries = .ok commands) :
    (∀ entry ∈ entries, ValidEntry entry) ∧ List.Forall₂ Describes entries commands := by
  induction entries generalizing index commands with
  | nil =>
      cases h
      exact ⟨by simp, .nil⟩
  | cons entry entries ih =>
      obtain ⟨c, hc, h⟩ := bind_eq_ok_iff.1 h
      obtain ⟨others, hothers, h⟩ := bind_eq_ok_iff.1 h
      cases h
      obtain ⟨hvalid, hdescribes⟩ := commandOfEntry_eq_ok (mapError_eq_ok_iff.1 hc)
      obtain ⟨hvalids, hdescribe⟩ := ih hothers
      exact ⟨List.forall_mem_cons.2 ⟨hvalid, hvalids⟩, .cons hdescribes hdescribe⟩

theorem reportsFirstInvalid_of_commandsFrom {index : Nat} {entries : List Json}
    {e : DatabaseError} (h : commandsFrom index entries = .error e) :
    ReportsFirstInvalid index entries e := by
  induction entries generalizing index with
  | nil => cases h
  | cons entry entries ih =>
      rcases bind_eq_error_iff.1 h with h | ⟨c, hc, h⟩
      · obtain ⟨fault, hfault, rfl⟩ := mapError_eq_error_iff.1 h
        exact ⟨[], entry, entries, fault, rfl, by simp, commandOfEntry_eq_error hfault, rfl⟩
      · have hvalid := (commandOfEntry_eq_ok (mapError_eq_ok_iff.1 hc)).1
        rcases bind_eq_error_iff.1 h with h | ⟨others, -, h⟩
        · obtain ⟨before, bad, after, fault, rfl, hbefore, hfirst, rfl⟩ := ih h
          refine ⟨entry :: before, bad, after, fault, rfl, ?_, hfirst, ?_⟩
          · exact List.forall_mem_cons.2 ⟨hvalid, hbefore⟩
          · rw [List.length_cons, Nat.add_comm before.length, ← Nat.add_assoc]
        · cases h

theorem ReportsFirstInvalid.exists_not_valid {index : Nat} {entries : List Json}
    {e : DatabaseError} (h : ReportsFirstInvalid index entries e) :
    ∃ entry ∈ entries, ¬ ValidEntry entry := by
  obtain ⟨before, entry, after, fault, rfl, -, hfirst, -⟩ := h
  exact ⟨entry, by simp, fun hvalid => hfirst.1 (hvalid fault)⟩

theorem message_badEntry (index : Nat) (fault : EntryFault) :
    (DatabaseError.badEntry index fault).message =
      "Entry " ++ toString index ++ fault.complaint := by
  cases fault <;> rfl

/-! ## Loading -/

section

variable {path : Path} {json : Json}

theorem ofJson_array {entries : List Json} (h : entries ≠ []) :
    ofJson path (.array entries) = commandsFrom 0 entries := by
  rw [ofJson]
  exact h

theorem ofJson_eq_ok {commands : List CompileCommand} (h : ofJson path json = .ok commands) :
    ∃ entries, json = .array entries ∧ entries ≠ [] ∧ (∀ entry ∈ entries, ValidEntry entry) ∧
      List.Forall₂ Describes entries commands := by
  unfold ofJson at h
  split at h
  · cases h
  next entries hne =>
    obtain ⟨hvalid, hdescribe⟩ := commandsFrom_eq_ok h
    exact ⟨entries, rfl, hne, hvalid, hdescribe⟩
  · cases h

theorem load_of_parse {tree : FileTree} {content : Bytes} {parse : Bytes → Option Json}
    (hread : tree.read path = .ok content) (hjson : parse content = some json) :
    load tree path parse = ofJson path json := by
  rw [load, hread]
  dsimp only
  rw [hjson]

end

/-- A database that is parsed as JSON loads exactly when it is a nonempty array of valid
entries, and then there is one command for each entry, in order.  Otherwise it is refused,
and of a nonempty array the report names the first invalid entry and the first check that
this entry fails. -/
theorem load_checks_entries {tree : FileTree} {path : Path} {content : Bytes} {json : Json}
    {parse : Bytes → Option Json} (hread : tree.read path = .ok content)
    (hjson : parse content = some json) :
    ((∃ commands, load tree path parse = .ok commands) ↔
        ∃ entries, json = .array entries ∧ entries ≠ [] ∧ ∀ entry ∈ entries, ValidEntry entry) ∧
      (∀ commands, load tree path parse = .ok commands →
        ∃ entries, json = .array entries ∧ List.Forall₂ Describes entries commands) ∧
      ∀ e, load tree path parse = .error e →
        e.kind = "CompileCommandsError" ∧
          ∀ entries, json = .array entries → entries ≠ [] →
            ∃ before entry after fault, entries = before ++ entry :: after ∧
              (∀ earlier ∈ before, ValidEntry earlier) ∧ EntryFault.IsFirst entry fault ∧
              e.message = "Entry " ++ toString before.length ++ fault.complaint := by
  have hload : load tree path parse = ofJson path json := load_of_parse hread hjson
  refine ⟨⟨?_, ?_⟩, ?_, ?_⟩
  · rintro ⟨commands, h⟩
    obtain ⟨entries, hentries, hne, hvalid, -⟩ := ofJson_eq_ok (hload.symm.trans h)
    exact ⟨entries, hentries, hne, hvalid⟩
  · rintro ⟨entries, rfl, hne, hvalid⟩
    rw [hload, ofJson_array hne]
    cases h : commandsFrom 0 entries with
    | ok commands => exact ⟨commands, rfl⟩
    | error e =>
        obtain ⟨entry, hentry, hinvalid⟩ :=
          (reportsFirstInvalid_of_commandsFrom h).exists_not_valid
        exact absurd (hvalid entry hentry) hinvalid
  · intro commands h
    obtain ⟨entries, hentries, -, -, hdescribe⟩ := ofJson_eq_ok (hload.symm.trans h)
    exact ⟨entries, hentries, hdescribe⟩
  · intro e h
    rw [hload] at h
    refine ⟨kind_eq_iff.2 (ofJson_eq_error h), ?_⟩
    rintro entries rfl hne
    rw [ofJson_array hne] at h
    obtain ⟨before, entry, after, fault, hentries, hbefore, hfirst, rfl⟩ :=
      reportsFirstInvalid_of_commandsFrom h
    refine ⟨before, entry, after, fault, hentries, hbefore, hfirst, ?_⟩
    rw [message_badEntry, Nat.zero_add]

def faultyText : Text :=
  ("[\x7b\"directory\":\"/b\",\"file\":\"a.c\",\"arguments\":null\x7d," ++
    "\x7b\"directory\":\"/b\",\"file\":\"b.c\",\"arguments\":[1],\"command\":2\x7d]").toList

def faultyEntries : List Json :=
  [.object [Json.named "directory" (.text "/b"), Json.named "file" (.text "a.c"),
      Json.named "arguments" .null],
    .object [Json.named "directory" (.text "/b"), Json.named "file" (.text "b.c"),
      Json.named "arguments" (.array [.nat 1]), Json.named "command" (.nat 2)]]

def faultyTree : FileTree :=
  ⟨[], [(["db.json".toList], .file (Utf8.encode faultyText))], .none⟩

theorem parse?_encode {text : Text} {tokens : List Json.Token} {json : Json}
    (htokens : Json.tokens? text = some tokens) (hjson : Json.ofTokens? tokens = some json) :
    Json.parse? (Utf8.encode text) = some json := by
  rw [Json.parse?, Utf8.decode_encode]
  simp [Except.toOption, htokens, hjson]

theorem parse?_faultyText :
    Json.parse? (Utf8.encode faultyText) = some (.array faultyEntries) := by
  have htokens : Json.tokens? faultyText = some
      [.openArray, .openObject, .string "directory".toList, .colon, .string "/b".toList, .comma,
        .string "file".toList, .colon, .string "a.c".toList, .comma,
        .string "arguments".toList, .colon, .null, .closeObject, .comma,
        .openObject, .string "directory".toList, .colon, .string "/b".toList, .comma,
        .string "file".toList, .colon, .string "b.c".toList, .comma,
        .string "arguments".toList, .colon, .openArray, .number 1 0, .closeArray, .comma,
        .string "command".toList, .colon, .number 2 0, .closeObject, .closeArray] := by
    decide +kernel
  exact parse?_encode htokens rfl

theorem load_checks_entries_two_faults :
    let path := Path.ofText "db.json".toList
    faultyTree.read path = .ok (Utf8.encode faultyText) ∧
      Json.parse? (Utf8.encode faultyText) = some (.array faultyEntries) ∧
      load faultyTree path = .error (.badEntry 1 .arguments) ∧
      ∃ before entry after fault, faultyEntries = before ++ entry :: after ∧
        (∀ earlier ∈ before, ValidEntry earlier) ∧ EntryFault.IsFirst entry fault ∧
        "Entry 1: 'arguments' must be a list of strings" =
          "Entry " ++ toString before.length ++ fault.complaint := by
  intro path
  have hread : faultyTree.read path = .ok (Utf8.encode faultyText) := rfl
  have hload : load faultyTree path = .error (.badEntry 1 .arguments) := by
    rw [load_of_parse hread parse?_faultyText]
    rfl
  have hrefused := (load_checks_entries hread parse?_faultyText).2.2 _ hload
  exact ⟨hread, parse?_faultyText, hload, hrefused.2 faultyEntries rfl (List.cons_ne_nil _ _)⟩

end Database

end UnitReducer
