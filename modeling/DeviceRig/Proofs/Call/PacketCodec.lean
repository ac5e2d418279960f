import DeviceRig.Call.Packet
import DeviceRig.Proofs.Json.Tagged
import Mathlib.Algebra.Group.Nat.Defs

/-!
# Packets on the wire

An encoded packet is decoded to itself, and whatever is decoded has the number
of a call.
-/
namespace DeviceRig

open Json

namespace Packet

theorem lt_of_natural_word {value : Value} {n : Nat}
    (h : Conversion.natural .word value = .ok n) : n < 2 ^ 32 := by
  unfold Conversion.natural Conversion.integer at h
  split at h
  · rename_i number
    unfold IntegerRange.ofNumber at h
    split at h
    · split at h
      · rename_i value hRange
        cases h
        have hHigh : value ≤ 0xffffffff := hRange.2
        omega
      · cases h
    · cases h
  · cases h

theorem eq_of_bind_pure {α β : Type} {outcome : Except Mismatch α} {write : α → β} {filled : β}
    (h : (outcome >>= fun value => pure (write value)) = .ok filled) :
    ∃ value, outcome = .ok value ∧ filled = write value := by
  cases outcome with
  | error failure => cases h
  | ok value =>
    cases h
    exact ⟨value, rfl, rfl⟩

theorem callId_lt_of_set {field : VariantField Draft}
    (hField : field ∈ [callIdField, serviceField, methodField, kwargsField, ackField, payloadField])
    (value : Value) (draft filled : Draft) (h : field.set value draft = .ok filled)
    (hDraft : draft.callId.getD 0 < 2 ^ 32) : filled.callId.getD 0 < 2 ^ 32 := by
  simp only [List.mem_cons, List.not_mem_nil, or_false] at hField
  rcases hField with rfl | rfl | rfl | rfl | rfl | rfl
  · obtain ⟨n, hNumber, rfl⟩ := eq_of_bind_pure h
    exact lt_of_natural_word hNumber
  all_goals
    obtain ⟨_, -, rfl⟩ := eq_of_bind_pure h
    exact hDraft

theorem callId_lt_of_fill {fields : List (VariantField Draft)} {variant : String}
    {content : Content} {draft : Draft}
    (hFields : fields ⊆
      [callIdField, serviceField, methodField, kwargsField, ackField, payloadField])
    (h : content.fill variant fields .blank = .ok draft) : draft.callId.getD 0 < 2 ^ 32 :=
  Content.fill_keeps (fun draft => draft.callId.getD 0 < 2 ^ 32)
    (fun _ hField => callId_lt_of_set (hFields hField)) (by decide) h

theorem ofContent_of_decode {bytes : List UInt8} {packet : Packet} (h : decode bytes = .ok packet) :
    ∃ kind content, ofContent kind content = .ok packet := by
  obtain ⟨last, hOnly⟩ := Reader.run_eq_ok h
  obtain ⟨found, after, hReader, hFinish⟩ := Reader.bind_eq_ok hOnly
  obtain ⟨_, _, -, hPure⟩ := Reader.bind_eq_ok hFinish
  cases hPure
  obtain ⟨⟨kind, content⟩, middle, -, hAccept⟩ := Reader.bind_eq_ok hReader
  exact ⟨kind, content, Reader.accept_eq_ok hAccept⟩

theorem callId_lt_of_decode {bytes : List UInt8} {packet : Packet}
    (h : decode bytes = .ok packet) : packet.callId < 2 ^ 32 := by
  obtain ⟨kind, content, hContent⟩ := ofContent_of_decode h
  unfold ofContent at hContent
  split at hContent
  · obtain ⟨draft, hFill, rfl⟩ := eq_of_bind_pure hContent
    exact callId_lt_of_fill (by simp) hFill
  · obtain ⟨draft, hFill, rfl⟩ := eq_of_bind_pure hContent
    exact callId_lt_of_fill (by simp) hFill

theorem nodup_of_members {value : Value} {kwargs : Members}
    (h : Conversion.members value = .ok kwargs) : (Members.names kwargs).Nodup := by
  cases value with
  | object members =>
    cases h
    exact @Members.nodup_names_merged [] List.nodup_nil members
  | _ => cases h

theorem nodup_of_set {field : VariantField Draft}
    (hField : field ∈ [callIdField, serviceField, methodField, kwargsField]) (value : Value)
    (draft filled : Draft) (h : field.set value draft = .ok filled)
    (hDraft : (Members.names (draft.kwargs.getD [])).Nodup) :
    (Members.names (filled.kwargs.getD [])).Nodup := by
  simp only [List.mem_cons, List.not_mem_nil, or_false] at hField
  rcases hField with rfl | rfl | rfl | rfl
  case inr.inr.inr =>
    obtain ⟨kwargs, hMembers, rfl⟩ := eq_of_bind_pure h
    exact nodup_of_members hMembers
  all_goals
    obtain ⟨_, -, rfl⟩ := eq_of_bind_pure h
    exact hDraft

theorem nodup_of_decode {bytes : List UInt8} {callId : Nat} {service method : String}
    {kwargs : Members} (h : decode bytes = .ok (.request callId service method kwargs)) :
    (Members.names kwargs).Nodup := by
  obtain ⟨kind, content, hContent⟩ := ofContent_of_decode h
  unfold ofContent at hContent
  split at hContent
  · obtain ⟨draft, hFill, hDraft⟩ := eq_of_bind_pure hContent
    cases hDraft
    have hBlank : (Members.names (Draft.blank.kwargs.getD [])).Nodup := List.nodup_nil
    exact Content.fill_keeps (fun draft => (Members.names (draft.kwargs.getD [])).Nodup)
      (fun _ => nodup_of_set) hBlank hFill
  · obtain ⟨draft, -, hDraft⟩ := eq_of_bind_pure hContent
    cases hDraft

theorem bytes_bytesValue (payload : List UInt8) : bytes (bytesValue payload) = .ok payload := by
  rw [bytesValue, bytes, Conversion.list]
  induction payload with
  | nil => rfl
  | cons byte payload ih =>
    have hByte : UInt8.ofNat byte.toNat = byte := UInt8.ofNat_toNat
    have hNatural : Conversion.natural .byte (.integer byte.toNat) = .ok byte.toNat :=
      Conversion.natural_natCast (Int.le_refl 0)
        (Int.ofNat_le.mpr (Nat.le_of_lt_succ byte.toNat_lt))
    rw [List.map_cons, List.mapM_cons, hNatural, ih]
    exact congrArg (fun first => Except.ok (first :: payload)) hByte

theorem set_callId {callId : Nat} (hId : callId < 2 ^ 32) :
    callIdField.set (.integer callId) .blank = .ok { Draft.blank with callId := some callId } := by
  have hNatural : Conversion.natural .word (.integer callId) = .ok callId :=
    Conversion.natural_natCast (Int.le_refl 0) (Int.ofNat_le.mpr (Nat.le_of_lt_succ hId))
  simp only [callIdField, hNatural]
  rfl

/-- A request is decoded as it was encoded if its arguments are plain and nest within the limit,
of which the packet itself takes one bracket. -/
theorem decode_encode_request {callId : Nat} (service method : String) {kwargs : Members}
    (hId : callId < 2 ^ 32) (hKwargs : Value.Plain innerDepth (.object kwargs)) :
    decode (encode (.request callId service method kwargs)) =
      .ok (.request callId service method kwargs) := by
  have hMembers : Conversion.members (.object kwargs) = .ok kwargs := by
    have hMerged := merged_of_plain innerDepth _ hKwargs
    rw [Value.merged, Value.object.injEq] at hMerged
    rw [Conversion.members, hMerged]
  have hKind : "request" ∈ kinds := by decide
  refine Reader.run_tagged "RpcPacket" ofContent hKind _ ?_ ?_ ?_ .whole
  · simp [tagName]
  · simp only [List.mem_cons, List.not_mem_nil, or_false]
    rintro member (rfl | rfl | rfl | rfl)
    · exact fitsInteger_natCast (Nat.lt_trans hId (by decide))
    · trivial
    · trivial
    · exact hKwargs
  · have hArguments : ∀ draft : Draft, kwargsField.set (.object kwargs) draft =
        .ok { draft with kwargs := some kwargs } := by
      intro draft
      simp only [kwargsField, hMembers]
      rfl
    rw [ofContent, if_pos rfl, Content.fill, Content.setMembers_field rfl rfl (set_callId hId),
      Content.setMembers_field rfl rfl rfl, Content.setMembers_field rfl rfl rfl,
      Content.setMembers_field rfl rfl (hArguments _)]
    rfl

theorem decode_encode_response {callId : Nat} (ack : Bool) (payload : List UInt8)
    (hId : callId < 2 ^ 32) :
    decode (encode (.response callId ack payload)) = .ok (.response callId ack payload) := by
  have hKind : "response" ∈ kinds := by decide
  refine Reader.run_tagged "RpcPacket" ofContent hKind _ ?_ ?_ ?_ .whole
  · simp [tagName]
  · simp only [List.mem_cons, List.not_mem_nil, or_false]
    rintro member (rfl | rfl | rfl)
    · exact fitsInteger_natCast (Nat.lt_trans hId (by decide))
    · trivial
    · intro item hItem
      obtain ⟨byte, -, rfl⟩ := List.mem_map.mp hItem
      exact fitsInteger_natCast (Nat.lt_trans byte.toNat_lt (by decide))
  · have hPayload : ∀ draft : Draft, payloadField.set (bytesValue payload) draft =
        .ok { draft with payload := some payload } := by
      intro draft
      simp only [payloadField, bytes_bytesValue]
      rfl
    rw [ofContent, if_neg (by decide), Content.fill,
      Content.setMembers_field rfl rfl (set_callId hId), Content.setMembers_field rfl rfl rfl,
      Content.setMembers_field rfl rfl (hPayload _)]
    rfl

end Packet

end DeviceRig
