import DeviceRig.Proofs.Transport.Operations
import DeviceRig.Rig.Session
import Mathlib.Logic.Relation

/-!
# What a session holds

A session is opened, released and closed on any addresses, over transports that
fail to open or to close and that change between the calls. The transports get
numbers, and what is done to them is noted.
-/
namespace DeviceRig

namespace LinkAddress

/-- What two addresses have in common if they are the same. -/
def key : LinkAddress → (Bool × List String) × Option Nat
  | .serial path baudRate => (components path, some baudRate)
  | .socket path => (components path, none)

theorem same_iff {address other : LinkAddress} :
    address.same other = true ↔ address.key = other.key := by
  cases address <;> cases other <;> simp [same, key]

theorem same_self (address : LinkAddress) : address.same address = true := same_iff.mpr rfl

theorem same_of_same {address other third : LinkAddress} (h : address.same third = true)
    (hOther : other.same third = true) : address.same other = true :=
  same_iff.mpr ((same_iff.mp h).trans (same_iff.mp hOther).symm)

end LinkAddress

section AtMostOne

variable {α : Type} {p : α → Bool} {items : List α}

def AtMostOne (p : α → Bool) (items : List α) : Prop :=
  items.Pairwise fun item other => ¬(p item = true ∧ p other = true)

theorem AtMostOne.filter_eq (h : AtMostOne p items) : items.filter p = (items.find? p).toList := by
  induction items with
  | nil => rfl
  | cons item rest ih =>
    obtain ⟨hFirst, hRest⟩ := List.pairwise_cons.mp h
    by_cases hItem : p item = true
    · rw [List.filter_cons_of_pos hItem, List.find?_cons_of_pos hItem, Option.toList_some,
        List.filter_eq_nil_iff.mpr fun other hOther hSame => hFirst other hOther ⟨hItem, hSame⟩]
    · rw [List.filter_cons_of_neg hItem, List.find?_cons_of_neg hItem]
      exact ih hRest

theorem AtMostOne.eraseP_eq (h : AtMostOne p items) :
    items.eraseP p = items.filter fun item => !p item := by
  induction items with
  | nil => rfl
  | cons item rest ih =>
    obtain ⟨hFirst, hRest⟩ := List.pairwise_cons.mp h
    by_cases hItem : p item = true
    · rw [List.eraseP_cons_of_pos hItem, List.filter_cons_of_neg (by simp [hItem]),
        List.filter_eq_self.mpr fun other hOther => ?_]
      simpa using fun hSame => hFirst other hOther ⟨hItem, hSame⟩
    · rw [List.eraseP_cons_of_neg hItem, List.filter_cons_of_pos (by simp [hItem]), ih hRest]

theorem AtMostOne.find?_eq (h : AtMostOne p items) {item : α} (hItem : item ∈ items)
    (hHas : p item = true) : items.find? p = some item := by
  have hMem : item ∈ items.filter p := List.mem_filter.mpr ⟨hItem, hHas⟩
  rw [h.filter_eq] at hMem
  exact Option.mem_toList.mp hMem

end AtMostOne

/-- A transport with the number of the note that tells of its opening. -/
structure Numbered (Held : Type) where
  number : Nat
  transport : Held

/-- An attempt to connect, or a closing of a transport, and how it came out. -/
inductive SessionNote where
  | attempted (address : LinkAddress) (answer : Except TransportError Unit)
  | closed (number : Nat) (answer : Except TransportError Unit)

structure Noted (World : Type) where
  world : World
  notes : List SessionNote

namespace TransportAccess

variable {Held World : Type}

def noting (access : TransportAccess Held World) :
    TransportAccess (Numbered Held) (Noted World) where
  address held := access.address held.transport
  isOpen held := access.isOpen held.transport
  connect address place :=
    let (answer, world) := access.connect address place.world
    (answer.map (Numbered.mk place.notes.length),
      ⟨world, place.notes ++ [.attempted address (answer.map fun _ => ())]⟩)
  close held place :=
    let (answer, world) := access.close held.transport place.world
    (answer, ⟨world, place.notes ++ [.closed held.number answer]⟩)

/-- A transport that was opened is for the address that it was opened for. -/
def IsFaithful (access : TransportAccess Held World) : Prop :=
  ∀ address world transport after,
    access.connect address world = (.ok transport, after) → access.address transport = address

end TransportAccess

theorem Transport.address_openLink (transport : Transport) (conditions : OpenConditions) :
    (transport.openLink conditions).2.1.address = transport.address := by
  have hOpens := transport.opens conditions
  generalize transport.openLink conditions = ended at hOpens ⊢
  cases hOpens with
  | held hHeld => rfl
  | notLocked hFree hError hActions => rfl
  | notStarted hFree hStarts => cases hStarts <;> rfl
  | opened hFree hStarts =>
    cases hStarts with
    | started hStop => rfl

theorem Station.address_openLink (station : Station) (rig : Rig) :
    (station.openLink rig).2.1.address = station.address := by
  unfold openLink
  cases rig.openLink station.address with
  | error error => exact Transport.address_openLink _ _
  | ok acquired =>
    dsimp only
    split
    · exact Transport.address_openLink _ _
    · split <;> exact Transport.address_openLink _ _

theorem Station.isFaithful_access (settings : TransportSettings) :
    (Station.access settings).IsFaithful := by
  intro address rig station after hConnect
  have hAddress := (Station.new address settings .all).address_openLink rig
  have hAnswer := congrArg Prod.fst hConnect
  change Except.map (fun _ => ((Station.new address settings .all).openLink rig).2.1)
    ((Station.new address settings .all).openLink rig).1 = .ok station at hAnswer
  cases hOpened : ((Station.new address settings .all).openLink rig).1 with
  | error error =>
    rw [hOpened] at hAnswer
    cases hAnswer
  | ok done =>
    rw [hOpened] at hAnswer
    rw [← Except.ok.inj hAnswer]
    exact hAddress

def firstFailure : List (Except TransportError Unit) → Except TransportError Unit
  | [] => .ok ()
  | .ok () :: rest => firstFailure rest
  | .error error :: _ => .error error

theorem firstFailure_cons (answer : Except TransportError Unit)
    (rest : List (Except TransportError Unit)) :
    firstFailure (answer :: rest) = answer.bind fun _ => firstFailure rest := by
  cases answer <;> rfl

theorem Session.closeEach_cons {Held World : Type} (access : TransportAccess Held World)
    (world : World) (transport : Held) (rest : List Held) :
    closeEach access world (transport :: rest) =
      ((access.close transport world).1.bind fun _ =>
          (closeEach access (access.close transport world).2 rest).1,
        (closeEach access (access.close transport world).2 rest).2) := by
  rw [closeEach]
  dsimp only
  cases (access.close transport world).1 <;> rfl

/-- A session, with the notes on what was done to its transports. -/
structure SessionRun (Held World : Type) where
  session : Session (Numbered Held)
  place : Noted World

namespace SessionRun

variable {Held World : Type} (access : TransportAccess Held World)

def start (world : World) : SessionRun Held World := ⟨.new, ⟨world, []⟩⟩

def after {α : Type} (call : α × Session (Numbered Held) × Noted World) : SessionRun Held World :=
  ⟨call.2.1, call.2.2⟩

def entry (held : Numbered Held) : Nat × LinkAddress :=
  (held.number, access.address held.transport)

inductive Step : SessionRun Held World → SessionRun Held World → Prop where
  | opens (s : SessionRun Held World) (address : LinkAddress) :
      Step s (after (s.session.openLink access.noting address s.place))
  | releases (s : SessionRun Held World) (address : LinkAddress) :
      Step s (after (s.session.release access.noting address s.place))
  | closes (s : SessionRun Held World) : Step s (after (s.session.close access.noting s.place))
  /-- Whatever happens to the transports, they stay for the same addresses. -/
  | changes {s : SessionRun Held World} {held : List (Numbered Held)}
      (hSame : held.map (entry access) = s.session.held.map (entry access)) (world : World) :
      Step s ⟨⟨held⟩, ⟨world, s.place.notes⟩⟩

abbrev Leads : SessionRun Held World → SessionRun Held World → Prop :=
  Relation.ReflTransGen (Step access)

/-- The notes on the closing of some transports, one after the other. -/
def closings (transports : List (Numbered Held)) (answers : List (Except TransportError Unit)) :
    List SessionNote :=
  List.zipWith (fun held answer => .closed held.number answer) transports answers

variable {access} {s t : SessionRun Held World} {address : LinkAddress}

theorem closeEach_noting (place : Noted World) (transports : List (Numbered Held)) :
    ∃ world answers, answers.length = transports.length ∧
      Session.closeEach access.noting place transports =
        (firstFailure answers, ⟨world, place.notes ++ closings transports answers⟩) := by
  induction transports generalizing place with
  | nil => exact ⟨place.world, [], rfl, by simp [Session.closeEach, firstFailure, closings]⟩
  | cons held rest ih =>
    obtain ⟨world, answers, hLength, hRest⟩ := ih (access.noting.close held place).2
    have hNotes : (access.noting.close held place).2.notes ++ closings rest answers =
        place.notes ++ closings (held :: rest) ((access.noting.close held place).1 :: answers) := by
      change place.notes ++ [_] ++ _ = _
      rw [List.append_assoc]
      rfl
    refine ⟨world, (access.noting.close held place).1 :: answers, by simp [hLength], ?_⟩
    rw [Session.closeEach_cons, hRest, hNotes, firstFailure_cons]

theorem connect_noting (address : LinkAddress) (world : World) (notes : List SessionNote) :
    access.noting.connect address ⟨world, notes⟩ =
      ((access.connect address world).1.map (Numbered.mk notes.length),
        ⟨(access.connect address world).2, notes ++
          [.attempted address ((access.connect address world).1.map fun _ => ())]⟩) := rfl

structure Sound (access : TransportAccess Held World) (s : SessionRun Held World) : Prop where
  distinct : (s.session.held.map (entry access)).Pairwise fun entry other =>
    entry.2.same other.2 = false
  ordered : (s.session.held.map (entry access)).Pairwise fun entry other => entry.1 < other.1
  noted : ∀ opened ∈ s.session.held.map (entry access),
    s.place.notes[opened.1]? = some (.attempted opened.2 (.ok ()))

theorem sound_start (world : World) : Sound access (start world) where
  distinct := .nil
  ordered := .nil
  noted := nofun

theorem Sound.atMostOne (h : s.Sound access) (address : LinkAddress) :
    AtMostOne (Session.isFor access.noting address) s.session.held := by
  refine (List.pairwise_map.mp h.distinct).imp fun hDifferent hBoth => ?_
  exact Bool.false_ne_true (hDifferent.symm.trans (LinkAddress.same_of_same hBoth.1 hBoth.2))

def others (access : TransportAccess Held World) (session : Session (Numbered Held))
    (address : LinkAddress) : List (Numbered Held) :=
  session.held.filter fun held => !Session.isFor access.noting address held

inductive Opens (access : TransportAccess Held World) (s : SessionRun Held World)
    (address : LinkAddress) :
    Except TransportError (Numbered Held) × Session (Numbered Held) × Noted World → Prop where
  | reused {held : Numbered Held}
      (hHeld : s.session.held.find? (Session.isFor access.noting address) = some held)
      (hOpen : access.isOpen held.transport = true) :
      Opens access s address (.ok held, s.session, s.place)
  /-- There was none, or it was dead and was closed, and a new one is connected. -/
  | connected {dead : List (Numbered Held)} {answers : List (Except TransportError Unit)}
      {transport : Held} {world : World}
      (hDead : (s.session.held.find? (Session.isFor access.noting address)).toList = dead)
      (hGone : ∀ held ∈ dead, access.isOpen held.transport = false)
      (hClosed : answers.length = dead.length)
      (hAddress : access.address transport = address) :
      Opens access s address (.ok ⟨(s.place.notes ++ closings dead answers).length, transport⟩,
        ⟨others access s.session address ++
          [⟨(s.place.notes ++ closings dead answers).length, transport⟩]⟩,
        ⟨world, s.place.notes ++ closings dead answers ++ [.attempted address (.ok ())]⟩)
  | notConnected {dead : List (Numbered Held)} {answers : List (Except TransportError Unit)}
      {error : TransportError} {world : World}
      (hDead : (s.session.held.find? (Session.isFor access.noting address)).toList = dead)
      (hGone : ∀ held ∈ dead, access.isOpen held.transport = false)
      (hClosed : answers.length = dead.length) :
      Opens access s address (.error error, ⟨others access s.session address⟩,
        ⟨world, s.place.notes ++ closings dead answers ++ [.attempted address (.error error)]⟩)

theorem Sound.opens (h : s.Sound access) (hFaithful : access.IsFaithful) (address : LinkAddress) :
    Opens access s address (s.session.openLink access.noting address s.place) := by
  have hOne := h.atMostOne address
  unfold Session.openLink Session.find?
  cases hFind : s.session.held.find? fun transport =>
      Session.isFor access.noting address transport && access.noting.isOpen transport with
  | some held =>
    have hHas := List.find?_some hFind
    obtain ⟨hFor, hOpen⟩ := Bool.and_eq_true_iff.mp hHas
    exact .reused (hOne.find?_eq (List.mem_of_find?_eq_some hFind) hFor) hOpen
  | none =>
    -- At most one is held for the address, and it would have been found if it were open.
    have hGone : ∀ held ∈ (s.session.held.find? (Session.isFor access.noting address)).toList,
        access.isOpen held.transport = false := by
      intro held hHeld
      have hSome := Option.mem_toList.mp hHeld
      have hNot := List.find?_eq_none.mp hFind held (List.mem_of_find?_eq_some hSome)
      rw [List.find?_some hSome, Bool.true_and] at hNot
      exact Bool.eq_false_iff.mpr hNot
    obtain ⟨world, answers, hLength, hClosed⟩ := @closeEach_noting _ _ access s.place
      (s.session.held.find? (Session.isFor access.noting address)).toList
    dsimp only
    rw [hOne.filter_eq, hClosed]
    rcases hConnect : access.connect address world with ⟨_ | transport, after⟩
    · rw [connect_noting, hConnect]
      exact .notConnected rfl hGone hLength
    · rw [connect_noting, hConnect]
      exact .connected rfl hGone hLength (hFaithful address world transport after hConnect)

inductive Releases (access : TransportAccess Held World) (s : SessionRun Held World)
    (address : LinkAddress) :
    Except TransportError Unit × Session (Numbered Held) × Noted World → Prop where
  | nothing (hNone : s.session.held.find? (Session.isFor access.noting address) = none) :
      Releases access s address (.ok (), s.session, s.place)
  | released {held : Numbered Held} {answer : Except TransportError Unit} {world : World}
      (hHeld : s.session.held.find? (Session.isFor access.noting address) = some held) :
      Releases access s address (answer, ⟨others access s.session address⟩,
        ⟨world, s.place.notes ++ [.closed held.number answer]⟩)

theorem Sound.releases (h : s.Sound access) (address : LinkAddress) :
    Releases access s address (s.session.release access.noting address s.place) := by
  unfold Session.release
  cases hFind : s.session.held.find? (Session.isFor access.noting address) with
  | none => exact .nothing hFind
  | some held =>
    dsimp only
    rw [(h.atMostOne address).eraseP_eq]
    exact .released hFind

theorem close_eq (s : SessionRun Held World) :
    ∃ world answers, answers.length = s.session.held.length ∧
      s.session.close access.noting s.place =
        (firstFailure answers, .new,
          ⟨world, s.place.notes ++ closings s.session.held answers⟩) := by
  obtain ⟨world, answers, hLength, hClosed⟩ := @closeEach_noting _ _ access s.place s.session.held
  refine ⟨world, answers, hLength, ?_⟩
  unfold Session.close
  rw [hClosed]

theorem Sound.keepOthers (h : s.Sound access) (address : LinkAddress) (world : World)
    (more : List SessionNote) :
    Sound access ⟨⟨others access s.session address⟩, ⟨world, s.place.notes ++ more⟩⟩ := by
  have hKept : ((others access s.session address).map (entry access)).Sublist
      (s.session.held.map (entry access)) := List.filter_sublist.map _
  refine ⟨h.distinct.sublist hKept, h.ordered.sublist hKept, fun opened hOpened => ?_⟩
  have hNoted := h.noted opened (hKept.subset hOpened)
  dsimp only
  rw [List.getElem?_append_left (List.getElem?_eq_some_iff.mp hNoted).1]
  exact hNoted

theorem Sound.append {held : List (Numbered Held)} {notes : List SessionNote} {world : World}
    {transport : Held} (h : Sound access ⟨⟨held⟩, ⟨world, notes⟩⟩)
    (hAddress : access.address transport = address)
    (hOthers : ∀ other ∈ held, (access.address other.transport).same address = false) :
    Sound access ⟨⟨held ++ [⟨notes.length, transport⟩]⟩,
      ⟨world, notes ++ [.attempted address (.ok ())]⟩⟩ := by
  have hEntries : (held ++ [Numbered.mk notes.length transport]).map (entry access) =
      held.map (entry access) ++ [(notes.length, address)] := by
    rw [List.map_append, List.map_singleton, entry, hAddress]
  -- Every number is that of a note, so the next note has a greater one.
  have hNoted : ∀ opened ∈ held.map (entry access), opened.1 < notes.length := fun opened hMem =>
    (List.getElem?_eq_some_iff.mp (h.noted opened hMem)).1
  constructor
  · dsimp only
    rw [hEntries, List.pairwise_append]
    refine ⟨h.distinct, List.pairwise_singleton _ _, fun opened hOpened new hNew => ?_⟩
    obtain ⟨other, hOther, rfl⟩ := List.mem_map.mp hOpened
    obtain rfl := List.mem_singleton.mp hNew
    exact hOthers other hOther
  · dsimp only
    rw [hEntries, List.pairwise_append]
    refine ⟨h.ordered, List.pairwise_singleton _ _, fun opened hOpened new hNew => ?_⟩
    obtain rfl := List.mem_singleton.mp hNew
    exact hNoted opened hOpened
  · dsimp only
    rw [hEntries]
    refine List.forall_mem_append.mpr ⟨fun opened hOpened => ?_, List.forall_mem_singleton.mpr ?_⟩
    · rw [List.getElem?_append_left (hNoted opened hOpened)]
      exact h.noted opened hOpened
    · exact List.getElem?_concat_length

theorem Sound.step (h : s.Sound access) (hFaithful : access.IsFaithful)
    (hStep : Step access s t) : t.Sound access := by
  cases hStep with
  | opens address =>
    have hOpens := h.opens hFaithful address
    generalize s.session.openLink access.noting address s.place = ended at hOpens ⊢
    cases hOpens with
    | reused hHeld hOpen => exact h
    | connected hDead hGone hClosed hAddress =>
      refine (h.keepOthers address _ _).append hAddress fun other hOther => ?_
      exact (Bool.not_eq_true' _).mp (List.mem_filter.mp hOther).2
    | notConnected hDead hGone hClosed =>
      rw [List.append_assoc]
      exact h.keepOthers address _ _
  | releases address =>
    have hReleases := h.releases address
    generalize s.session.release access.noting address s.place = ended at hReleases ⊢
    cases hReleases with
    | nothing hNone => exact h
    | released hHeld => exact h.keepOthers address _ _
  | closes => exact ⟨.nil, .nil, nofun⟩
  | changes hSame world =>
    obtain ⟨hDistinct, hOrdered, hNoted⟩ := h
    rw [← hSame] at hDistinct hOrdered hNoted
    exact ⟨hDistinct, hOrdered, hNoted⟩

theorem Sound.leads (h : s.Sound access) (hFaithful : access.IsFaithful)
    (hLeads : Leads access s t) : t.Sound access := by
  induction hLeads with
  | refl => exact h
  | tail _ hStep ih => exact ih.step hFaithful hStep

/-- Opening does something if and only if no transport for the address is held and open. -/
theorem Sound.opens_iff (h : s.Sound access) (hFaithful : access.IsFaithful)
    (address : LinkAddress) :
    (s.session.openLink access.noting address s.place).2.2.notes = s.place.notes ↔
      ∃ held ∈ s.session.held, Session.isFor access.noting address held = true ∧
        access.isOpen held.transport = true := by
  have hNone : ∀ {dead : List (Numbered Held)},
      (s.session.held.find? (Session.isFor access.noting address)).toList = dead →
        (∀ held ∈ dead, access.isOpen held.transport = false) →
          ¬∃ held ∈ s.session.held, Session.isFor access.noting address held = true ∧
            access.isOpen held.transport = true := by
    rintro dead rfl hGone ⟨held, hHeld, hFor, hOpen⟩
    have hFind := (h.atMostOne address).find?_eq hHeld hFor
    rw [hGone held (by rw [hFind]; exact List.mem_singleton_self held)] at hOpen
    cases hOpen
  have hOpens := h.opens hFaithful address
  generalize s.session.openLink access.noting address s.place = ended at hOpens ⊢
  cases hOpens with
  | @reused held hHeld hOpen =>
    exact iff_of_true rfl ⟨held, List.mem_of_find?_eq_some hHeld, List.find?_some hHeld, hOpen⟩
  | connected hDead hGone hClosed hAddress =>
    exact iff_of_false (by simp) (hNone hDead hGone)
  | notConnected hDead hGone hClosed =>
    exact iff_of_false (by simp) (hNone hDead hGone)

theorem others_others (session : Session (Numbered Held)) (address : LinkAddress) :
    others access ⟨others access session address⟩ address = others access session address := by
  simp [others]

theorem Sound.others_openLink (h : s.Sound access) (hFaithful : access.IsFaithful)
    (address : LinkAddress) :
    others access (s.session.openLink access.noting address s.place).2.1 address =
      others access s.session address := by
  have hOpens := h.opens hFaithful address
  generalize s.session.openLink access.noting address s.place = ended at hOpens ⊢
  cases hOpens with
  | reused hHeld hOpen => rfl
  | @connected dead answers transport world hDead hGone hClosed hAddress =>
    have hFor : ∀ number, Session.isFor access.noting address ⟨number, transport⟩ = true := by
      intro number
      rw [← hAddress]
      exact LinkAddress.same_self _
    dsimp only
    rw [others, List.filter_append, List.filter_cons_of_neg (by simp [hFor]), List.filter_nil,
      List.append_nil]
    exact others_others s.session address
  | notConnected hDead hGone hClosed => exact others_others s.session address

theorem Sound.others_release (h : s.Sound access) (address : LinkAddress) :
    others access (s.session.release access.noting address s.place).2.1 address =
      others access s.session address := by
  have hReleases := h.releases address
  generalize s.session.release access.noting address s.place = ended at hReleases ⊢
  cases hReleases with
  | nothing hNone => rfl
  | released hHeld => exact others_others s.session address

def plain (session : Session (Numbered Held)) : Session Held :=
  ⟨session.held.map Numbered.transport⟩

theorem closeEach_plain (place : Noted World) (transports : List (Numbered Held)) :
    Session.closeEach access place.world (transports.map Numbered.transport) =
      ((Session.closeEach access.noting place transports).1,
        (Session.closeEach access.noting place transports).2.world) := by
  induction transports generalizing place with
  | nil => rfl
  | cons held rest ih =>
    have hRest := ih (access.noting.close held place).2
    change Session.closeEach access (access.close held.transport place.world).2 _ = _ at hRest
    rw [List.map_cons, Session.closeEach_cons, Session.closeEach_cons, hRest]
    rfl

theorem find?_plain (session : Session (Numbered Held)) (address : LinkAddress) :
    (plain session).find? access address =
      (session.find? access.noting address).map Numbered.transport :=
  List.find?_map

/-- Whether the calls of a session come out the same without numbers and notes. -/
structure Unnoted (access : TransportAccess Held World) (session : Session (Numbered Held))
    (place : Noted World) : Prop where
  openLink : ∀ address, (plain session).openLink access address place.world =
    ((session.openLink access.noting address place).1.map Numbered.transport,
      plain (session.openLink access.noting address place).2.1,
      (session.openLink access.noting address place).2.2.world)
  release : ∀ address, (plain session).release access address place.world =
    ((session.release access.noting address place).1,
      plain (session.release access.noting address place).2.1,
      (session.release access.noting address place).2.2.world)
  close : (plain session).close access place.world =
    ((session.close access.noting place).1, plain (session.close access.noting place).2.1,
      (session.close access.noting place).2.2.world)

theorem openLink_plain (session : Session (Numbered Held)) (address : LinkAddress)
    (place : Noted World) :
    (plain session).openLink access address place.world =
      ((session.openLink access.noting address place).1.map Numbered.transport,
        plain (session.openLink access.noting address place).2.1,
        (session.openLink access.noting address place).2.2.world) := by
  unfold Session.openLink
  rw [find?_plain]
  cases session.find? access.noting address with
  | some held => rfl
  | none =>
    have hDead : (plain session).held.filter (Session.isFor access address) =
        (session.held.filter (Session.isFor access.noting address)).map Numbered.transport :=
      List.filter_map
    have hKept : ((plain session).held.filter fun held => !Session.isFor access address held) =
        (others access session address).map Numbered.transport :=
      List.filter_map
    dsimp only [Option.map_none]
    rw [hDead, hKept, closeEach_plain]
    generalize (Session.closeEach access.noting place _).2 = after
    obtain ⟨world, notes⟩ := after
    rw [connect_noting]
    dsimp only
    rcases access.connect address world with ⟨_ | transport, after⟩
    · rfl
    · simp [plain, others, Except.map]

theorem release_plain (session : Session (Numbered Held)) (address : LinkAddress)
    (place : Noted World) :
    (plain session).release access address place.world =
      ((session.release access.noting address place).1,
        plain (session.release access.noting address place).2.1,
        (session.release access.noting address place).2.2.world) := by
  have hFind : (plain session).held.find? (Session.isFor access address) =
      (session.held.find? (Session.isFor access.noting address)).map Numbered.transport :=
    List.find?_map
  unfold Session.release
  rw [hFind]
  cases session.held.find? (Session.isFor access.noting address) with
  | none => rfl
  | some held =>
    have hErased : (plain session).held.eraseP (Session.isFor access address) =
        (session.held.eraseP (Session.isFor access.noting address)).map Numbered.transport :=
      List.eraseP_map
    dsimp only [Option.map_some]
    rw [hErased]
    rfl

theorem unnoted (access : TransportAccess Held World) (session : Session (Numbered Held))
    (place : Noted World) : Unnoted access session place where
  openLink address := openLink_plain session address place
  release address := release_plain session address place
  close := by
    unfold Session.close
    rw [plain, closeEach_plain]
    rfl

/-- A session holds at most one transport for an address, in the order of their opening. Opening
gives the open one, and does nothing if and only if there is one; otherwise the dead one is closed
and one attempt is made, whose transport is given and kept if it succeeded. Opening and releasing
leave the other transports alone, and closing closes each one once and tells the first failure. The
numbers and notes change nothing in this. -/
theorem Leads.one_per_address {world : World} (hFaithful : access.IsFaithful)
    (h : Leads access (start world) s) :
    (s.session.held.Pairwise fun held other =>
        (access.address held.transport).same (access.address other.transport) = false) ∧
      (s.session.held.Pairwise fun held other => held.number < other.number) ∧
      (∀ held ∈ s.session.held, s.place.notes[held.number]? =
        some (.attempted (access.address held.transport) (.ok ()))) ∧
      (∀ address, Opens access s address (s.session.openLink access.noting address s.place) ∧
        ((s.session.openLink access.noting address s.place).2.2.notes = s.place.notes ↔
          ∃ held ∈ s.session.held, Session.isFor access.noting address held = true ∧
            access.isOpen held.transport = true) ∧
        others access (s.session.openLink access.noting address s.place).2.1 address =
          others access s.session address) ∧
      (∀ address, Releases access s address (s.session.release access.noting address s.place) ∧
        others access (s.session.release access.noting address s.place).2.1 address =
          others access s.session address) ∧
      Unnoted access s.session s.place ∧
      ∃ world answers, answers.length = s.session.held.length ∧
        s.session.close access.noting s.place = (firstFailure answers, .new,
          ⟨world, s.place.notes ++ closings s.session.held answers⟩) := by
  have hSound := (sound_start world).leads hFaithful h
  have hOrdered := List.pairwise_map.mp hSound.ordered
  refine ⟨List.pairwise_map.mp hSound.distinct, hOrdered, ?_, ?_, ?_,
    unnoted access s.session s.place, close_eq s⟩
  · intro held hHeld
    exact hSound.noted _ (List.mem_map_of_mem hHeld)
  · intro address
    exact ⟨hSound.opens hFaithful address, hSound.opens_iff hFaithful address,
      hSound.others_openLink hFaithful address⟩
  · intro address
    exact ⟨hSound.releases address, hSound.others_release address⟩

def untroubled : TransportAccess Transport Unit where
  address := Transport.address
  isOpen := Transport.isOpen
  connect address world :=
    let (answer, transport, _) :=
      (Transport.new address .usual .all).openLink Transport.favourable
    (answer.map fun _ => transport, world)
  close transport world := ((transport.closeLink ⟨.finishes, .ok ()⟩).1, world)

/-- The device hangs up; its address is written in another way when it is opened again. -/
theorem dead_one_replaced :
    ∃ s : SessionRun Transport Unit, Leads untroubled (start ()) s ∧
      s.place.notes = [.attempted (.socket "/a") (.ok ()), .closed 0 (.ok ()),
        .attempted (.socket "//a") (.ok ())] ∧
      (s.session.openLink untroubled.noting (.socket "/a") s.place).2.2.notes = s.place.notes := by
  have hFaithful : untroubled.IsFaithful := by
    intro address world transport after hConnect
    cases address with
    | serial path baudRate => cases hConnect; rfl
    | socket path => cases hConnect; rfl
  let first := Transport.openedAt (.socket "/a")
  let second := Transport.openedAt (.socket "//a")
  have hOpened : Leads untroubled (start ()) ⟨⟨[⟨0, first⟩]⟩,
    ⟨(), [.attempted (.socket "/a") (.ok ())]⟩⟩ := .single (.opens (start ()) (.socket "/a"))
  have hHungUp := hOpened.tail (@Step.changes _ _ _ _ [⟨0, first.hangUp⟩] rfl ())
  have hReopened := hHungUp.tail (.opens _ (.socket "//a"))
  have hAfter : after (Session.openLink untroubled.noting ⟨[⟨0, first.hangUp⟩]⟩ (.socket "//a")
      ⟨(), [.attempted (.socket "/a") (.ok ())]⟩) =
        ⟨⟨[⟨2, second⟩]⟩, ⟨(), [.attempted (.socket "/a") (.ok ()), .closed 0 (.ok ()),
          .attempted (.socket "//a") (.ok ())]⟩⟩ := rfl
  rw [hAfter] at hReopened
  refine ⟨_, hReopened, rfl, ?_⟩
  refine ((Leads.one_per_address hFaithful hReopened).2.2.2.1 (.socket "/a")).2.1.mpr ?_
  exact ⟨_, List.mem_cons_self, rfl, rfl⟩

end SessionRun

end DeviceRig
