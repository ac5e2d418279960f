import DeviceRig.Proofs.Frame.Stream

/-!
# Frames behind garbage

Every phase of the decoder goes to an empty body at a flag, so what stood on
the wire before an encoded frame cannot reach into it. Behind a flag the
decoder undoes encoding for payloads up to its limit and is silent about
longer ones.
-/
namespace DeviceRig.Frame

abbrev Message := UInt8 × List UInt8

def encodeAll (messages : List Message) : List UInt8 :=
  messages.flatMap fun message => encode message.1 message.2

/-- The frames of the messages that a decoder with this limit accepts. -/
def accepted (maxPayload : Nat) (messages : List Message) : List Frame :=
  (messages.filter fun message => message.2.length ≤ maxPayload).map fun message =>
    ⟨message.1, message.2, true⟩

theorem body_length (address : UInt8) (payload : List UInt8) :
    (body address payload).length = payload.length + 5 := by
  simp [body, wordBytes_length]

theorem take_body (address : UInt8) (payload : List UInt8) :
    (body address payload).take ((body address payload).length - 4) = address :: payload := by
  rw [body_length]
  exact List.take_left' rfl

theorem drop_body (address : UInt8) (payload : List UInt8) :
    (body address payload).drop ((body address payload).length - 4) =
      wordBytes (checksum (address :: payload)) := by
  rw [body_length]
  exact List.drop_left' rfl

theorem ofPiece?_stuffed (maxPayload : Nat) (address : UInt8) (payload : List UInt8) :
    ofPiece? maxPayload ((body address payload).flatMap stuff) =
      if payload.length ≤ maxPayload then some ⟨address, payload, true⟩ else none := by
  unfold ofPiece?
  rw [unstuff_stuffed]
  dsimp only
  rw [take_body, drop_body, body_length]
  by_cases hFits : payload.length ≤ maxPayload
  · rw [if_neg (by omega), if_pos hFits]
    have hSum := (wordBytes_eq_iff (checksum (address :: payload)) _ (wordBytes_length _)).mp rfl
    simp [body, hSum]
  · rw [if_pos (by omega), if_neg hFits]

namespace Decoder

theorem step_flag (maxBody : Nat) (phase : Phase) :
    (step maxBody phase flag).1 = .collecting #[] := by
  cases phase <;> rfl

theorem walk_flag (maxBody : Nat) (phase : Phase) (wire : List UInt8) :
    (walk maxBody phase (wire ++ [flag])).1 = .collecting #[] := by
  rw [walk_append]
  exact step_flag maxBody _

theorem walk_open (maxBody : Nat) (piece more : List UInt8) (hMore : flag ∉ more) :
    walk maxBody (phaseIn maxBody piece) more = (phaseIn maxBody (piece ++ more), []) := by
  induction more generalizing piece with
  | nil => simp [walk]
  | cons byte rest ih =>
    have hByte : byte ≠ flag := fun h => hMore (h ▸ List.mem_cons_self)
    have hRest : flag ∉ rest := fun h => hMore (List.mem_cons_of_mem byte h)
    simp [walk, step_phaseIn maxBody piece hByte, ih (piece ++ [byte]) hRest]

theorem walk_piece (maxPayload : Nat) (piece : List UInt8) (hPiece : flag ∉ piece) :
    walk (maxPayload + overhead) (.collecting #[]) (piece ++ [flag]) =
      (.collecting #[], (ofPiece? maxPayload piece).toList) := by
  have hOpen := walk_open (maxPayload + overhead) [] piece hPiece
  rw [phaseIn_nil, List.nil_append] at hOpen
  rw [walk_append, hOpen]
  simp [walk, step_phaseIn_flag]

theorem walk_flag_cons (maxBody : Nat) (wire : List UInt8) :
    walk maxBody (.collecting #[]) (flag :: wire) = walk maxBody (.collecting #[]) wire := by
  have hEmpty : ofBody? (#[] : Array UInt8).toList = none := rfl
  simp [walk, step, hEmpty]

theorem walk_encode (maxPayload : Nat) (message : Message) :
    walk (maxPayload + overhead) (.collecting #[]) (encode message.1 message.2) =
      (.collecting #[], accepted maxPayload [message]) := by
  rw [encode, List.cons_append, walk_flag_cons, walk_piece maxPayload _ (flag_notMem_stuffed _),
    ofPiece?_stuffed]
  by_cases hFits : message.2.length ≤ maxPayload <;> simp [accepted, hFits]

theorem accepted_cons (maxPayload : Nat) (message : Message) (messages : List Message) :
    accepted maxPayload (message :: messages) =
      accepted maxPayload [message] ++ accepted maxPayload messages := by
  by_cases hFits : message.2.length ≤ maxPayload <;> simp [accepted, hFits]

theorem encodeAll_cons (message : Message) (messages : List Message) :
    encodeAll (message :: messages) = encode message.1 message.2 ++ encodeAll messages := rfl

theorem walk_encodeAll (maxPayload : Nat) (messages : List Message) :
    walk (maxPayload + overhead) (.collecting #[]) (encodeAll messages) =
      (.collecting #[], accepted maxPayload messages) := by
  induction messages with
  | nil => rfl
  | cons message rest ih =>
    rw [encodeAll_cons, walk_append, walk_encode, ih, ← accepted_cons]

/-- The flag that opens the first frame separates the frames from the wire before it. -/
theorem walk_garbage (maxPayload : Nat) (phase : Phase) (garbage : List UInt8)
    (messages : List Message) (hMessages : messages ≠ []) :
    (walk (maxPayload + overhead) phase (garbage ++ encodeAll messages)).2 =
      (walk (maxPayload + overhead) phase (garbage ++ [flag])).2 ++
        accepted maxPayload messages := by
  obtain ⟨message, rest, rfl⟩ := List.exists_cons_of_ne_nil hMessages
  obtain ⟨tail, hTail⟩ : ∃ tail, encodeAll (message :: rest) = flag :: tail := ⟨_, rfl⟩
  have hFrames := walk_encodeAll maxPayload (message :: rest)
  rw [hTail, walk_flag_cons] at hFrames
  rw [hTail, ← List.singleton_append, ← List.append_assoc, walk_append, walk_flag, hFrames]

namespace Usage

theorem fed_after_feeds (maxPayload : Nat) (chunks : List (List UInt8)) :
    (after maxPayload (chunks.map .feed)).fed = chunks.flatten := by
  have hFold (usage : Usage) :
      ((chunks.map Operation.feed).foldl perform usage).fed = usage.fed ++ chunks.flatten := by
    induction chunks generalizing usage with
    | nil => simp
    | cons chunk rest ih =>
      rw [List.map_cons, List.foldl_cons, ih, List.flatten_cons, ← List.append_assoc]
      rfl
  exact hFold (start maxPayload)

/-- However garbage and the frames behind it are cut into feeds, the decoder returns what it returns
for the garbage and one flag, and then every message within its limit, in order. -/
theorem returned_after_garbage (maxPayload : Nat) (garbage : List UInt8) (messages : List Message)
    (chunks : List (List UInt8)) (hMessages : messages ≠ [])
    (hChunks : chunks.flatten = garbage ++ encodeAll messages) :
    (after maxPayload (chunks.map .feed)).returned =
        ((new maxPayload).feed (garbage ++ [flag])).2 ++ accepted maxPayload messages ∧
      (garbage = [] →
        (after maxPayload (chunks.map .feed)).returned = accepted maxPayload messages) := by
  have hReplays := replays_after maxPayload (chunks.map .feed)
  have hReturned : (after maxPayload (chunks.map .feed)).returned =
      ((new maxPayload).feed (garbage ++ [flag])).2 ++ accepted maxPayload messages := by
    rw [Replays, fed_after_feeds, hChunks] at hReplays
    refine (congrArg Prod.snd hReplays).symm.trans ?_
    rw [feed_eq_walk, feed_eq_walk]
    exact walk_garbage maxPayload _ garbage messages hMessages
  refine ⟨hReturned, ?_⟩
  rintro rfl
  rw [hReturned]
  rfl

/-- Behind an escape without its byte, cut off from it by a feed, come a message of two special
bytes and one above the limit. -/
theorem returned_after_open_escape :
    [[0x7E, 1], [0x7D], encodeAll [(0x7E, [0x7D]), (1, [1, 2, 3, 4])]].flatten =
        [0x7E, 1, 0x7D] ++ encodeAll [(0x7E, [0x7D]), (1, [1, 2, 3, 4])] ∧
      (after 3 ([[0x7E, 1], [0x7D],
        encodeAll [(0x7E, [0x7D]), (1, [1, 2, 3, 4])]].map .feed)).returned =
          [⟨0x7E, [0x7D], true⟩] :=
  ⟨by simp, (returned_after_garbage 3 [0x7E, 1, 0x7D] [(0x7E, [0x7D]), (1, [1, 2, 3, 4])]
    [[0x7E, 1], [0x7D], encodeAll [(0x7E, [0x7D]), (1, [1, 2, 3, 4])]]
    (by simp) (by simp)).1.trans (by decide)⟩

end Usage

end Decoder

end DeviceRig.Frame
