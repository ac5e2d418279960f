import DeviceRig.Json.Value
import Mathlib.Data.List.Induction
import Mathlib.Data.List.Nodup

/-!
# What members come to when they are set one after the other

An object keeps the place of a name and changes its value. Members are told by
their names, each once and in order, and by what is found under them; that is
enough to say what any number of settings leaves.
-/
namespace DeviceRig.Json.Members

/-- One member for each name, in the order in which the names come first, with the last value that
stands under the name. -/
def settled (entries : Members) : Members :=
  (names entries).eraseDups.filterMap fun name =>
    (get? entries.reverse name).map fun value => (name, value)

theorem names_put (members : Members) (name : String) (value : Value) :
    names (put members name value) =
      if name ∈ names members then names members else names members ++ [name] := by
  induction members with
  | nil => rfl
  | cons member rest ih =>
    obtain ⟨other, old⟩ := member
    by_cases hOther : other = name
    · simp [put, names, hOther]
    · have hPut : names (put ((other, old) :: rest) name value) =
          other :: names (put rest name value) := by
        rw [put, if_neg hOther]
        rfl
      have hNames : name ∈ names ((other, old) :: rest) ↔ name ∈ names rest := by
        simp [names, Ne.symm hOther]
      rw [hPut, ih]
      simp only [hNames]
      split <;> rfl

theorem get?_put (members : Members) (name other : String) (value : Value) :
    get? (put members name value) other =
      if name = other then some value else get? members other := by
  induction members with
  | nil => rfl
  | cons member rest ih =>
    obtain ⟨first, old⟩ := member
    by_cases hFirst : first = name
    · subst hFirst
      by_cases hOther : first = other
      · simp [put, get?, hOther]
      · simp [put, get?, hOther]
    · rw [put, if_neg hFirst, get?, ih, get?]
      by_cases hOther : first = other
      · rw [if_pos hOther, if_pos hOther, if_neg fun hName => hFirst (hOther.trans hName.symm)]
      · rw [if_neg hOther, if_neg hOther]

theorem put_new {members : Members} {name : String} (hName : name ∉ names members)
    (value : Value) : put members name value = members ++ [(name, value)] := by
  induction members with
  | nil => rfl
  | cons member rest ih =>
    obtain ⟨other, old⟩ := member
    rw [names, List.map_cons, List.mem_cons, not_or] at hName
    rw [put, if_neg (Ne.symm hName.1), ih hName.2]
    rfl

theorem putAll_append (members more last : Members) :
    putAll members (more ++ last) = putAll (putAll members more) last :=
  List.foldl_append

theorem putAll_concat (members more : Members) (member : String × Value) :
    putAll members (more ++ [member]) = put (putAll members more) member.1 member.2 := by
  rw [putAll_append]
  rfl

theorem names_putAll (entries : Members) :
    names (putAll [] entries) = (names entries).eraseDups := by
  induction entries using List.reverseRecOn with
  | nil => rfl
  | append_singleton entries entry ih =>
    have hLast : names (entries ++ [entry]) = names entries ++ [entry.1] := List.map_append
    rw [putAll_concat, names_put, ih, hLast, List.eraseDups_append]
    by_cases hOld : entry.1 ∈ names entries
    · simp [hOld, List.removeAll]
    · simp [hOld, List.removeAll, List.eraseDups_cons]

theorem get?_putAll (entries : Members) (name : String) :
    get? (putAll [] entries) name = get? entries.reverse name := by
  induction entries using List.reverseRecOn with
  | nil => rfl
  | append_singleton entries entry ih =>
    rw [putAll_concat, get?_put, ih, List.reverse_concat, get?]

theorem nodup_names_put {members : Members} (hNodup : (names members).Nodup) (name : String)
    (value : Value) : (names (put members name value)).Nodup := by
  rw [names_put]
  split
  · exact hNodup
  · rename_i hName
    rw [← List.concat_eq_append]
    exact List.Nodup.concat hName hNodup

theorem nodup_names_putAll (entries : Members) : (names (putAll [] entries)).Nodup := by
  induction entries using List.reverseRecOn with
  | nil => exact List.nodup_nil
  | append_singleton entries entry ih =>
    rw [putAll_concat]
    exact nodup_names_put ih entry.1 entry.2

theorem nodup_names_merged {sofar : Members} (hNodup : (names sofar).Nodup)
    (found : List (String × Value)) : (names (Value.mergedMembers sofar found)).Nodup := by
  induction found generalizing sofar with
  | nil =>
    rw [Value.mergedMembers]
    exact hNodup
  | cons member rest ih =>
    rw [Value.mergedMembers]
    exact ih (nodup_names_put hNodup _ _)

theorem get?_eq_none {members : Members} {name : String} (hName : name ∉ names members) :
    get? members name = none := by
  induction members with
  | nil => rfl
  | cons member rest ih =>
    rw [names, List.map_cons, List.mem_cons, not_or] at hName
    rw [get?, if_neg (Ne.symm hName.1), ih hName.2]

theorem get?_putAll_of_nodup {more : Members} (hNodup : (names more).Nodup) (members : Members)
    (name : String) :
    get? (putAll members more) name = (get? more name).or (get? members name) := by
  induction more generalizing members with
  | nil => rfl
  | cons member rest ih =>
    obtain ⟨other, value⟩ := member
    obtain ⟨hOther, hRest⟩ := List.nodup_cons.mp hNodup
    have hPut : putAll members ((other, value) :: rest) = putAll (put members other value) rest :=
      rfl
    rw [hPut, ih hRest, get?_put, get?]
    by_cases hName : other = name
    · subst hName
      rw [if_pos rfl, if_pos rfl, get?_eq_none hOther]
      rfl
    · rw [if_neg hName, if_neg hName]

/-- Members with names of their own are told by the names and by what is found under them. -/
theorem filterMap_names {members : Members} (hNodup : (names members).Nodup) :
    ((names members).filterMap fun name => (get? members name).map fun value => (name, value)) =
      members := by
  induction members with
  | nil => rfl
  | cons member rest ih =>
    obtain ⟨name, value⟩ := member
    obtain ⟨hName, hRest⟩ := List.nodup_cons.mp hNodup
    have hBehind : ∀ other ∈ names rest, get? ((name, value) :: rest) other = get? rest other := by
      intro other hOther
      rw [get?, if_neg]
      rintro rfl
      exact hName hOther
    have hOthers := List.filterMap_congr fun other hOther =>
      congrArg (Option.map fun value => (other, value)) (hBehind other hOther)
    have hFirst : get? ((name, value) :: rest) name = some value := by rw [get?, if_pos rfl]
    rw [ih hRest] at hOthers
    change List.filterMap _ (name :: names rest) = _
    rw [List.filterMap_cons_some (by rw [hFirst]; rfl), hOthers]

theorem putAll_nil_eq_settled (entries : Members) : putAll [] entries = settled entries := by
  have hMembers := filterMap_names (nodup_names_putAll entries)
  simp only [names_putAll, get?_putAll] at hMembers
  exact hMembers.symm

example : putAll [] [("level", .null), ("color", .bool true), ("level", .bool false)] =
    [("level", .bool false), ("color", .bool true)] := by rfl

theorem settled_of_nodup {members : Members} (hNodup : (names members).Nodup) :
    settled members = members := by
  rw [← putAll_nil_eq_settled]
  induction members using List.reverseRecOn with
  | nil => rfl
  | append_singleton members member ih =>
    rw [names, List.map_append, List.nodup_append] at hNodup
    obtain ⟨hMembers, -, hApart⟩ := hNodup
    have hName : member.1 ∉ names members := by
      intro hOld
      exact hApart member.1 hOld member.1 (by simp) rfl
    rw [putAll_concat, ih hMembers, put_new hName]

theorem putAll_settled (entries more : Members) :
    putAll (settled entries) more = settled (entries ++ more) := by
  rw [← putAll_nil_eq_settled, ← putAll_nil_eq_settled, putAll_append]

end DeviceRig.Json.Members
