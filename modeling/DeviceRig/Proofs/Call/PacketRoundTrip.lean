import DeviceRig.Proofs.Call.PacketCodec
import DeviceRig.Proofs.Json.Nesting

/-!
# Packets come back or are refused

Encoding has no limit of depth and decoding has one. An encoded packet within
the limit is decoded to itself, every object in its order, and one beyond it is
refused for its depth, so it is never taken for another packet.
-/
namespace DeviceRig.Packet

open Json

/-- Whether the number of a packet is one of a call and its arguments are exact values. -/
def Exact : Packet → Prop
  | .request callId _ _ kwargs => callId < 2 ^ 32 ∧ (Value.object kwargs).Exact
  | .response callId _ _ => callId < 2 ^ 32

theorem nesting_bytesValue (payload : List UInt8) : (bytesValue payload).nesting = 1 := by
  rw [bytesValue, Value.nesting]
  induction payload with
  | nil => rfl
  | cons byte payload ih =>
    rw [List.map_cons, Value.itemsNesting, Value.integer, Value.nesting, Nat.zero_max]
    exact ih

theorem nesting_request (callId : Nat) (service method : String) (kwargs : Members) :
    (request callId service method kwargs).toValue.nesting =
      (Value.object kwargs).nesting + 1 := by
  simp [toValue, Value.nesting, Value.membersNesting, Value.integer]

/-- A request whose arguments open more brackets than are left inside of it is refused. -/
theorem decode_request_tooDeep {callId : Nat} (service method : String) {kwargs : Members}
    (hId : callId < 2 ^ 32) (hKwargs : (Value.object kwargs).Exact)
    (hDeep : innerDepth < (Value.object kwargs).nesting) :
    ∃ position, decode (encode (.request callId service method kwargs)) =
      .error ⟨.tooDeep, position⟩ := by
  refine Reader.run_tagged_tooDeep "RpcPacket" ofContent (show "request" ∈ kinds by decide) _
    ?_ ?_ ?_ .whole
  · simp [tagName]
  · simp only [List.mem_cons, List.not_mem_nil, or_false]
    rintro member (rfl | rfl | rfl | rfl)
    · exact .integer (fitsInteger_natCast (Nat.lt_trans hId (by decide)))
    · exact .text service
    · exact .text method
    · exact hKwargs
  · exact ⟨("kwargs", .object kwargs), by simp, hDeep⟩

/-- An encoded packet is decoded to itself if its brackets nest within the limit, and refused for
its depth if they do not. -/
theorem decode_encode_by_nesting (packet : Packet) (hExact : packet.Exact) :
    (packet.toValue.nesting ≤ maxDepth → decode packet.encode = .ok packet) ∧
      (maxDepth < packet.toValue.nesting →
        ∃ position, decode packet.encode = .error ⟨.tooDeep, position⟩) := by
  cases packet with
  | request callId service method kwargs =>
    obtain ⟨hId, hKwargs⟩ := hExact
    rw [nesting_request]
    constructor
    · intro hWithin
      exact decode_encode_request service method hId (hKwargs.plain (Nat.le_sub_one_of_lt hWithin))
    · intro hBeyond
      exact decode_request_tooDeep service method hId hKwargs (Nat.lt_of_succ_lt_succ hBeyond)
  | response callId ack payload =>
    have hNesting : (response callId ack payload).toValue.nesting = 2 := by
      simp [toValue, Value.nesting, Value.membersNesting, Value.integer, nesting_bytesValue]
    rw [hNesting]
    constructor
    · intro _
      exact decode_encode_response ack payload hExact
    · intro hBeyond
      exact absurd hBeyond (by decide)

/-- Arguments with the names of a packet's own members come back, and 126 lists inside of each
other are one bracket too many for an argument. -/
theorem decode_encode_nested_names :
    let named : Packet := .request 4294967295 "Lights" "Set" [("type", .text "response"),
      ("kwargs", .object [("call_id", .number (.integer (-0x8000000000000000))), ("ack", .null)])]
    let deep : Packet := .request 0 "Lights" "Set"
      [("kwargs", Nat.repeat (fun value => .list [value]) 126 .null)]
    named.Exact ∧ named.toValue.nesting ≤ maxDepth ∧ decode named.encode = .ok named ∧
      deep.Exact ∧ maxDepth < deep.toValue.nesting ∧
      ∃ position, decode deep.encode = .error ⟨.tooDeep, position⟩ := by
  intro named deep
  have hNamed : named.Exact := by
    refine ⟨by decide, .object (by decide) ?_⟩
    simp only [List.mem_cons, List.not_mem_nil, or_false]
    rintro member (rfl | rfl)
    · exact .text _
    · refine .object (by decide) ?_
      simp only [List.mem_cons, List.not_mem_nil, or_false]
      rintro member (rfl | rfl)
      · exact .integer (by decide)
      · exact .null
  have hLists : ∀ n, (Nat.repeat (fun value => Value.list [value]) n .null).Exact ∧
      (Nat.repeat (fun value => Value.list [value]) n .null).nesting = n := by
    intro n
    induction n with
    | zero => exact ⟨.null, rfl⟩
    | succ n ih =>
      refine ⟨.list (List.forall_mem_singleton.mpr ih.1), ?_⟩
      rw [Nat.repeat, Value.nesting, Value.itemsNesting, Value.itemsNesting, ih.2, Nat.max_zero]
  have hDeep : deep.Exact := by
    refine ⟨by decide, .object (by decide) fun member hMember => ?_⟩
    rw [List.mem_singleton.mp hMember]
    exact (hLists 126).1
  have hWithin : named.toValue.nesting ≤ maxDepth := by decide
  have hBeyond : maxDepth < deep.toValue.nesting := by
    rw [nesting_request, Value.nesting, Value.membersNesting, Value.membersNesting, (hLists 126).2]
    decide
  exact ⟨hNamed, hWithin, (decode_encode_by_nesting named hNamed).1 hWithin, hDeep, hBeyond,
    (decode_encode_by_nesting deep hDeep).2 hBeyond⟩

end DeviceRig.Packet
