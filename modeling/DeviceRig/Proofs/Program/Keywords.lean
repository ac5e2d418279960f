import DeviceRig.Program.Options
import DeviceRig.Proofs.Json.Members
import DeviceRig.Proofs.Json.Nesting

/-!
# Keyword arguments

An argument sets one member. The first equals sign ends its key, so a key holds
none and a value may hold any number of them. A value that is not JSON stands
for itself as text. The proofs go by the place of the first sign.
-/
namespace DeviceRig.Program

open Json

structure IsKey (key : String) : Prop where
  nonempty : key ≠ ""
  noSign : '=' ∉ key.toList

def IsSetting (argument : String) : Prop :=
  ∃ key text, IsKey key ∧ argument = key ++ "=" ++ text

inductive Denotes : String → String × Value → Prop where
  | json {key text : String} {value : Value} (hKey : IsKey key) (hText : parse text = .ok value) :
      Denotes (key ++ "=" ++ text) (key, value)
  | text {key text : String} (hKey : IsKey key) (hText : ∀ value, parse text ≠ .ok value) :
      Denotes (key ++ "=" ++ text) (key, .text text)

inductive Refused : String → ProgramError → Prop where
  | noSign {argument : String} (h : '=' ∉ argument.toList) :
      Refused argument (usageError s!"expected KEY=VALUE, got {Text.quoted argument}")
  | noKey {argument text : String} (h : argument = "=" ++ text) :
      Refused argument (usageError s!"empty key in {Text.quoted argument}")

section Splitting

theorem splitEquals_append {key : List Char} (h : '=' ∉ key) (text : List Char) :
    splitEquals (key ++ '=' :: text) = some (key, text) := by
  have hKey : ∀ c ∈ key, decide (c ≠ '=') = true := by
    intro c hc
    apply decide_eq_true
    rintro rfl
    exact h hc
  have hTake : (key ++ '=' :: text).takeWhile (· ≠ '=') = key := by
    rw [List.takeWhile_append_of_pos hKey, List.takeWhile_cons_of_neg (by simp), List.append_nil]
  rw [splitEquals, hTake, List.drop_left]

theorem splitEquals_of_notMem {text : List Char} (h : '=' ∉ text) : splitEquals text = none := by
  have hTake : text.takeWhile (· ≠ '=') = text := by
    rw [List.takeWhile_eq_self_iff]
    intro c hc
    apply decide_eq_true
    rintro rfl
    exact h hc
  rw [splitEquals, hTake, List.drop_length]

theorem exists_first_sign {text : List Char} (h : '=' ∈ text) :
    ∃ key value, text = key ++ '=' :: value ∧ '=' ∉ key := by
  induction text with
  | nil => cases h
  | cons c rest ih =>
    by_cases hSign : '=' = c
    · subst hSign
      exact ⟨[], rest, rfl, List.not_mem_nil⟩
    · obtain ⟨key, value, rfl, hKey⟩ := ih ((List.mem_cons.mp h).resolve_left hSign)
      exact ⟨c :: key, value, rfl, List.not_mem_cons_of_ne_of_not_mem hSign hKey⟩

theorem toList_setting (key text : String) :
    (key ++ "=" ++ text).toList = key.toList ++ '=' :: text.toList := by
  rw [String.toList_append, String.toList_append, List.append_assoc]
  rfl

theorem isSetting_or_refused (argument : String) :
    IsSetting argument ∨ ∃ error, Refused argument error := by
  by_cases hSign : '=' ∈ argument.toList
  · obtain ⟨key, text, hText, hKey⟩ := exists_first_sign hSign
    have hArgument : argument = String.ofList key ++ "=" ++ String.ofList text := by
      rw [← String.toList_inj, toList_setting, String.toList_ofList, String.toList_ofList, hText]
    by_cases hEmpty : String.ofList key = ""
    · rw [hEmpty, String.empty_append] at hArgument
      exact .inr ⟨_, .noKey hArgument⟩
    · exact .inl ⟨_, _, ⟨hEmpty, by rwa [String.toList_ofList]⟩, hArgument⟩
  · exact .inr ⟨_, .noSign hSign⟩

end Splitting

section Arguments

variable {argument : String} {arguments : List String} {entry : String × Value}
  {error : ProgramError} {sofar kwargs : Members}

theorem parseKwarg_setting {key : String} (hKey : IsKey key) (text : String) :
    parseKwarg (key ++ "=" ++ text) = .ok (key, jsonOrText text) := by
  have hEmpty : key.toList.isEmpty = false := by
    rw [List.isEmpty_eq_false_iff]
    intro hList
    exact hKey.nonempty (String.toList_eq_nil_iff.mp hList)
  rw [parseKwarg, toList_setting, splitEquals_append hKey.noSign]
  simp only [hEmpty, Bool.false_eq_true, if_false, String.ofList_toList]

theorem Denotes.isSetting (h : Denotes argument entry) : IsSetting argument := by
  cases h with
  | json hKey => exact ⟨_, _, hKey, rfl⟩
  | text hKey => exact ⟨_, _, hKey, rfl⟩

theorem Denotes.parseKwarg_eq (h : Denotes argument entry) : parseKwarg argument = .ok entry := by
  cases h with
  | json hKey hText => rw [parseKwarg_setting hKey, jsonOrText, hText]
  | @text key text hKey hText =>
    rw [parseKwarg_setting hKey, jsonOrText]
    cases hParse : parse text with
    | ok value => exact absurd hParse (hText value)
    | error _ => rfl

theorem IsSetting.denotes (h : IsSetting argument) : ∃ entry, Denotes argument entry := by
  obtain ⟨key, text, hKey, rfl⟩ := h
  cases hParse : parse text with
  | ok value => exact ⟨_, .json hKey hParse⟩
  | error _ => exact ⟨_, .text hKey fun value hValue => by rw [hParse] at hValue; cases hValue⟩

theorem Refused.parseKwarg_eq (h : Refused argument error) :
    parseKwarg argument = .error error := by
  cases h with
  | noSign hSign => rw [parseKwarg, splitEquals_of_notMem hSign]
  | @noKey text hArgument =>
    have hSplit : splitEquals argument.toList = some ([], text.toList) := by
      rw [hArgument, String.toList_append]
      exact splitEquals_append List.not_mem_nil _
    rw [parseKwarg, hSplit]
    rfl

theorem Denotes.unique {other : String × Value} (h : Denotes argument entry)
    (hOther : Denotes argument other) : entry = other := by
  have hSame := h.parseKwarg_eq
  rw [hOther.parseKwarg_eq] at hSame
  exact (Except.ok.inj hSame).symm

theorem Refused.unique {other : ProgramError} (h : Refused argument error)
    (hOther : Refused argument other) : error = other := by
  have hSame := h.parseKwarg_eq
  rw [hOther.parseKwarg_eq] at hSame
  exact (Except.error.inj hSame).symm

theorem Refused.not_isSetting (h : Refused argument error) : ¬IsSetting argument := by
  intro hSetting
  obtain ⟨entry, hEntry⟩ := hSetting.denotes
  have hSame := h.parseKwarg_eq
  rw [hEntry.parseKwarg_eq] at hSame
  cases hSame

theorem Refused.code_eq (h : Refused argument error) : error.code = ProgramError.badUsage := by
  cases h <;> rfl

theorem parseKwargsInto_denoted (h : Denotes argument entry) :
    parseKwargsInto sofar (argument :: arguments) =
      parseKwargsInto (Members.put sofar entry.1 entry.2) arguments := by
  rw [parseKwargsInto, h.parseKwarg_eq]

theorem parseKwargsInto_refused (h : Refused argument error) :
    parseKwargsInto sofar (argument :: arguments) = .error error := by
  rw [parseKwargsInto, h.parseKwarg_eq]

theorem parseKwargsInto_eq_ok_iff :
    parseKwargsInto sofar arguments = .ok kwargs ↔
      ∃ entries, List.Forall₂ Denotes arguments entries ∧
        kwargs = Members.putAll sofar entries := by
  induction arguments generalizing sofar with
  | nil => simp [parseKwargsInto, Members.putAll, eq_comm]
  | cons argument rest ih =>
    rcases isSetting_or_refused argument with hSetting | ⟨error, hRefused⟩
    · obtain ⟨entry, hEntry⟩ := hSetting.denotes
      rw [parseKwargsInto_denoted hEntry, ih]
      constructor
      · rintro ⟨entries, hEntries, rfl⟩
        exact ⟨entry :: entries, .cons hEntry hEntries, rfl⟩
      · rintro ⟨entries, hEntries, rfl⟩
        cases hEntries with
        | cons hFirst hRest =>
          obtain rfl := hEntry.unique hFirst
          exact ⟨_, hRest, rfl⟩
    · rw [parseKwargsInto_refused hRefused]
      constructor
      · intro h
        cases h
      · rintro ⟨entries, hEntries, -⟩
        cases hEntries with
        | cons hFirst hRest => exact absurd hFirst.isSetting hRefused.not_isSetting

theorem parseKwargsInto_eq_error_iff :
    parseKwargsInto sofar arguments = .error error ↔
      ∃ before bad after, arguments = before ++ bad :: after ∧
        (∀ argument ∈ before, IsSetting argument) ∧ Refused bad error := by
  induction arguments generalizing sofar with
  | nil => simp [parseKwargsInto]
  | cons argument rest ih =>
    rcases isSetting_or_refused argument with hSetting | ⟨other, hRefused⟩
    · obtain ⟨entry, hEntry⟩ := hSetting.denotes
      rw [parseKwargsInto_denoted hEntry, ih]
      constructor
      · rintro ⟨before, bad, after, rfl, hBefore, hBad⟩
        exact ⟨argument :: before, bad, after, rfl,
          List.forall_mem_cons.mpr ⟨hSetting, hBefore⟩, hBad⟩
      · rintro ⟨before, bad, after, hSplit, hBefore, hBad⟩
        -- The first argument sets a member, so it is not the one that is refused.
        cases before with
        | nil =>
          obtain ⟨rfl, rfl⟩ := List.cons.inj hSplit
          exact absurd hSetting hBad.not_isSetting
        | cons first before =>
          obtain ⟨rfl, rfl⟩ := List.cons.inj hSplit
          exact ⟨before, bad, after, rfl, (List.forall_mem_cons.mp hBefore).2, hBad⟩
    · rw [parseKwargsInto_refused hRefused]
      constructor
      · intro h
        cases h
        exact ⟨[], argument, rest, rfl, List.forall_mem_nil _, hRefused⟩
      · rintro ⟨before, bad, after, hSplit, hBefore, hBad⟩
        cases before with
        | nil =>
          obtain ⟨rfl, rfl⟩ := List.cons.inj hSplit
          rw [hRefused.unique hBad]
        | cons first before =>
          obtain ⟨rfl, rfl⟩ := List.cons.inj hSplit
          exact absurd (hBefore argument List.mem_cons_self) hRefused.not_isSetting

theorem exists_denotes_iff :
    (∃ entries, List.Forall₂ Denotes arguments entries) ↔
      ∀ argument ∈ arguments, IsSetting argument := by
  induction arguments with
  | nil => simp
  | cons argument rest ih =>
    rw [List.forall_mem_cons, ← ih]
    constructor
    · rintro ⟨entries, hEntries⟩
      cases hEntries with
      | cons hFirst hRest => exact ⟨hFirst.isSetting, _, hRest⟩
    · rintro ⟨hSetting, entries, hEntries⟩
      obtain ⟨entry, hEntry⟩ := hSetting.denotes
      exact ⟨entry :: entries, .cons hEntry hEntries⟩

end Arguments

def setting (member : String × Value) : String :=
  member.1 ++ "=" ++ member.2.compact

theorem denotes_setting {member : String × Value} (hKey : IsKey member.1)
    (hExact : member.2.Exact) (hNesting : member.2.nesting ≤ maxDepth) :
    Denotes (setting member) member :=
  .json hKey (parse_compact member.2 (hExact.plain hNesting))

/-- Arguments come to the members that they set, a key in its first place with its last value, and
the first that sets none is refused. Members with such keys are set by what is printed for each. -/
theorem parseKwargs_denotes (arguments : List String) :
    ((∃ kwargs, parseKwargs arguments = .ok kwargs) ↔
        ∀ argument ∈ arguments, IsSetting argument) ∧
      (∀ kwargs, parseKwargs arguments = .ok kwargs ↔
        ∃ entries, List.Forall₂ Denotes arguments entries ∧ kwargs = Members.settled entries) ∧
      (∀ error, parseKwargs arguments = .error error ↔
        ∃ before bad after, arguments = before ++ bad :: after ∧
          (∀ argument ∈ before, IsSetting argument) ∧ Refused bad error) ∧
      (∀ bad error, Refused bad error →
        ¬IsSetting bad ∧ error.code = ProgramError.badUsage) ∧
      ∀ members : Members, (Members.names members).Nodup →
        (∀ member ∈ members,
          IsKey member.1 ∧ member.2.Exact ∧ member.2.nesting ≤ maxDepth) →
        parseKwargs (members.map setting) = .ok members := by
  have hOk (texts : List String) (kwargs : Members) : parseKwargs texts = .ok kwargs ↔
      ∃ entries, List.Forall₂ Denotes texts entries ∧ kwargs = Members.settled entries := by
    simp only [parseKwargs, parseKwargsInto_eq_ok_iff, Members.putAll_nil_eq_settled]
  refine ⟨?_, hOk arguments, fun error => parseKwargsInto_eq_error_iff,
    fun bad error h => ⟨h.not_isSetting, h.code_eq⟩, ?_⟩
  · rw [← exists_denotes_iff]
    constructor
    · rintro ⟨kwargs, hKwargs⟩
      obtain ⟨entries, hEntries, -⟩ := (hOk arguments kwargs).mp hKwargs
      exact ⟨entries, hEntries⟩
    · rintro ⟨entries, hEntries⟩
      exact ⟨_, (hOk arguments _).mpr ⟨entries, hEntries, rfl⟩⟩
  · intro members hNames hMembers
    refine (hOk _ _).mpr ⟨members, ?_, (Members.settled_of_nodup hNames).symm⟩
    rw [List.forall₂_map_left_iff, List.forall₂_same]
    intro member hMember
    obtain ⟨hKey, hExact, hNesting⟩ := hMembers member hMember
    exact denotes_setting hKey hExact hNesting

/-- A value that holds a sign, a key that comes twice and an argument without a key. -/
theorem parseKwargs_denotes_scene :
    let scene : Members := [("level", .integer 7),
      ("scene", .object [("name", .text "a=b"), ("steps", .list [.null, .bool true])])]
    parseKwargs (scene.map setting) = .ok scene ∧
      parseKwargs ["level=7", "scene=a=b", "level=[1"] =
        .ok [("level", .text "[1"), ("scene", .text "a=b")] ∧
      ∃ error, parseKwargs ["level=7", "=7", "level"] = .error error ∧
        error.code = ProgramError.badUsage := by
  intro scene
  have hLevel : IsKey "level" := ⟨by decide, by decide⟩
  have hScene : IsKey "scene" := ⟨by decide, by decide⟩
  have hExact : ∀ member ∈ scene,
      IsKey member.1 ∧ member.2.Exact ∧ member.2.nesting ≤ maxDepth := by
    simp only [scene, List.mem_cons, List.not_mem_nil, or_false]
    rintro member (rfl | rfl)
    · exact ⟨hLevel, .integer (by decide), by decide⟩
    · refine ⟨hScene, .object (by decide) ?_, by decide⟩
      simp only [List.mem_cons, List.not_mem_nil, or_false]
      rintro member (rfl | rfl)
      · exact .text _
      · refine .list ?_
        simp only [List.mem_cons, List.not_mem_nil, or_false]
        rintro item (rfl | rfl)
        · exact .null
        · exact .bool true
  have hNoJson {text : String} (h : (parse text).isOk = false) (value : Value) :
      parse text ≠ .ok value := by
    intro hValue
    rw [hValue] at h
    cases h
  have hSeven : Denotes "level=7" ("level", .integer 7) :=
    denotes_setting (hExact _ List.mem_cons_self).1 (.integer (by decide)) (by decide)
  have hSigns : Denotes "scene=a=b" ("scene", .text "a=b") :=
    @Denotes.text "scene" "a=b" hScene (hNoJson (by decide +kernel))
  have hOpen : Denotes "level=[1" ("level", .text "[1") :=
    @Denotes.text "level" "[1" hLevel (hNoJson (by decide +kernel))
  have hNoKey := @Refused.noKey "=7" "7" rfl
  obtain ⟨-, -, -, -, hRoundTrip⟩ := parseKwargs_denotes (scene.map setting)
  obtain ⟨-, hOk, -⟩ := parseKwargs_denotes ["level=7", "scene=a=b", "level=[1"]
  obtain ⟨-, -, hError, hRefused, -⟩ := parseKwargs_denotes ["level=7", "=7", "level"]
  refine ⟨hRoundTrip scene (by decide) hExact,
    (hOk _).mpr ⟨_, .cons hSeven (.cons hSigns (.cons hOpen .nil)), rfl⟩, _,
    (hError _).mpr ⟨["level=7"], "=7", ["level"], rfl, ?_, hNoKey⟩, (hRefused _ _ hNoKey).2⟩
  exact List.forall_mem_singleton.mpr hSeven.isSetting

end DeviceRig.Program
