import DeviceRig.Proofs.Json.Records
import DeviceRig.Task.Spec

/-!
# Specs on their way to a task

A spec is read back from its JSON text, arguments and all, whether the text is
at hand as a whole or comes as a stream.
-/
namespace DeviceRig.TaskSpec

open Json

def encode (spec : TaskSpec) : List UInt8 :=
  valueBytes spec.toValue

def encodedFields (spec : TaskSpec) : List UInt8 :=
  memberBytes ("entry_point", .text spec.entryPoint) ++
    (44 :: memberBytes ("args", .list spec.args) ++
      (44 :: memberBytes ("kwargs", .object spec.kwargs) ++ [125]))

theorem encode_eq (spec : TaskSpec) : spec.encode = 123 :: spec.encodedFields := by
  rw [encode, toValue, valueBytes_object]
  simp [commaBytes, encodedFields]

theorem reads_fields (spec : TaskSpec) (hPlain : spec.toValue.Plain maxDepth) {fuel : Nat}
    (hFuel : spec.encodedFields.length < fuel) (rest : List UInt8) :
    Reader.Reads (Reader.fieldMembers fields innerDepth true ⟨none, none, none⟩ fuel)
      (spec.encodedFields ++ rest) ⟨some spec.entryPoint, some spec.args, some spec.kwargs⟩
      (125 :: rest) := by
  obtain ⟨-, hMembers⟩ := hPlain
  have hArgs : Value.Plain innerDepth (.list spec.args) := hMembers ("args", _) (by simp)
  have hKwargs : Value.Plain innerDepth (.object spec.kwargs) := hMembers ("kwargs", _) (by simp)
  -- There are more bytes than members.
  obtain ⟨fuel, rfl⟩ : ∃ rest, fuel = rest + 4 := by
    simp only [encodedFields, List.length_append, List.length_cons] at hFuel
    exact ⟨fuel - 4, by omega⟩
  -- From the end to the front, as every member is read with all that stands behind it.
  have hEnd := Reader.reads_fieldMembers_end fields innerDepth
    ⟨some spec.entryPoint, some spec.args, some spec.kwargs⟩ false fuel rfl rest
  have hLast := Reader.reads_fieldMembers fields innerDepth
    ⟨some spec.entryPoint, some spec.args, none⟩ [44]
    (fun tail => Reader.reads_nextName_more "kwargs" tail) rfl rfl
    ((Reader.reads_wantedObject spec.kwargs hKwargs (125 :: rest)).bind (Reader.reads_pure _ _))
    hEnd
  have hMiddle := Reader.reads_fieldMembers fields innerDepth
    ⟨some spec.entryPoint, none, none⟩ [44]
    (fun tail => Reader.reads_nextName_more "args" tail) rfl rfl
    ((Reader.reads_wantedList spec.args hArgs _).bind (Reader.reads_pure _ _)) hLast
  have hFirst := Reader.reads_fieldMembers fields innerDepth ⟨none, none, none⟩ []
    (fun tail => Reader.reads_nextName_first "entry_point" tail) rfl rfl
    ((Reader.reads_wantedText spec.entryPoint _).bind (Reader.reads_pure _ _)) hMiddle
  rw [encodedFields]
  simpa only [List.nil_append, List.cons_append, List.append_assoc] using hFirst

theorem reads_reader (spec : TaskSpec) (hPlain : spec.toValue.Plain maxDepth)
    (rest : List UInt8) :
    Reader.Reads (reader maxDepth) (spec.encode ++ rest) spec rest := by
  have hInside : Reader.Reads (do
      Reader.fieldMembers fields innerDepth true ⟨none, none, none⟩ ((← get).rest.length + 1))
      (spec.encodedFields ++ rest) ⟨some spec.entryPoint, some spec.args, some spec.kwargs⟩
      (125 :: rest) := by
    refine Reader.reads_get fun _ => spec.reads_fields hPlain ?_ rest
    rw [List.length_append]
    omega
  have hRecord : Reader.Reads (Reader.record "TaskSpec" fields ⟨none, none, none⟩ maxDepth)
      (123 :: (spec.encodedFields ++ rest))
      ⟨some spec.entryPoint, some spec.args, some spec.kwargs⟩ rest :=
    (Reader.reads_start rfl _).bind
      (Reader.reads_bracketed (fun depth => do
        Reader.fieldMembers fields depth true ⟨none, none, none⟩ ((← get).rest.length + 1))
        123 hInside (Reader.reads_endObject rest))
  rw [encode_eq, List.cons_append]
  exact hRecord.bind (Reader.reads_pure spec rest)

/-- Whether a text is a spec, with nothing but blanks behind it. -/
def IsText (text : List UInt8) (spec : TaskSpec) : Prop :=
  Reader.Holds (reader maxDepth) text spec

/-- What was written for a spec is that spec, and with more than blanks behind it no spec. -/
theorem isText_encode_iff {spec other : TaskSpec} (hPlain : spec.toValue.Plain maxDepth)
    (rest : List UInt8) :
    IsText (spec.encode ++ rest) other ↔
      other = spec ∧ ∀ byte ∈ rest, Reader.isSpace byte = true :=
  (spec.reads_reader hPlain rest).holds_iff

theorem decode_eq_ok_iff {source : Source} {text : List UInt8} {spec : TaskSpec} :
    decode source text = .ok spec ↔ IsText text spec :=
  Reader.run_only_eq_ok_iff source

theorem decode_encode (source : Source) (spec : TaskSpec) (hPlain : spec.toValue.Plain maxDepth) :
    decode source spec.encode = .ok spec := by
  have hText := (isText_encode_iff hPlain []).mpr ⟨rfl, List.forall_mem_nil _⟩
  rw [List.append_nil] at hText
  exact decode_eq_ok_iff.mpr hText

end DeviceRig.TaskSpec
