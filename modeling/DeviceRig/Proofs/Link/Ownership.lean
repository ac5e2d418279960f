import DeviceRig.Proofs.Link.Binding
import DeviceRig.System.Directory
import Mathlib.Logic.Function.Basic
import Mathlib.Logic.Relation

/-!
# Listeners among the files of others

A bind is a row of calls to the system, and what a call has done stays done when
a later one fails. Still a bind that fails leaves the files as they were. Between
binds and drops others change the files as they like; a listener that is dropped
takes away its own socket, and nothing that others have put in its place.
-/
namespace DeviceRig

namespace FileTree

variable {tree : FileTree} {path : String} {place : Location}

theorem removeFile_of_designates (h : tree.Designates path place) {entry : FileEntry}
    (hFind : tree.find? place = some entry) (hNode : entry.node ≠ .directory) :
    tree.removeFile path = .ok (tree.erase place) := by
  obtain ⟨directory, name, hEnds, rfl⟩ := h
  simp [FileTree.removeFile, hEnds.pathEnd, hFind, hNode, bind, Except.bind, pure, Except.pure]

theorem sameWays_create (h : tree.way? place = none) (mode : Nat) :
    (tree.create place .socket mode).SameWays tree := by
  intro other
  by_cases hOther : other = place
  · rw [hOther, h, way?, find?_create_self tree (ne_nil_of_way? h)]
  · rw [way?, way?, find?_create_of_ne tree hOther]

theorem createNew_eq_error {node : FileNode} {mode : Nat} {fault : Fault}
    (h : tree.createNew path node mode = .error fault) (other : Nat) :
    tree.createNew path node other = .error fault := by
  unfold FileTree.createNew at h ⊢
  cases hEnd : tree.pathEnd path with
  | error reason =>
    rw [hEnd] at h
    exact h
  | ok ending =>
    obtain ⟨directory, last, slashed⟩ := ending
    rw [hEnd] at h
    simp only [bind, Except.bind] at h ⊢
    cases last with
    | none => exact h
    | some name =>
      dsimp only at h ⊢
      split at h
      · rename_i hThere
        rw [if_pos hThere]
        exact h
      · rename_i hFree
        rw [if_neg hFree]
        split at h
        · rename_i hSlashed
          rw [if_pos hSlashed]
          exact h
        · cases h

theorem createNew_empty (tree : FileTree) (node : FileNode) (mode : Nat) :
    tree.createNew "" node mode = .error .noSuchFile :=
  rfl

theorem entryAt_empty (tree : FileTree) (follow : Bool) :
    tree.entryAt follow "" = .error .noSuchFile :=
  rfl

theorem setMode_create (tree : FileTree) (place : Location) (node : FileNode) (mode other : Nat) :
    (tree.create place node mode).setMode place other = tree.create place node other := by
  have hRest : (tree.erase place).entries.map (fun entry =>
      if entry.1 = place then (entry.1, { entry.2 with mode := other }) else entry) =
        (tree.erase place).entries := by
    refine (List.map_congr_left fun entry hEntry => if_neg ?_).trans (List.map_id' _)
    simpa using (List.mem_filter.mp hEntry).2
  simp only [setMode, modifyAt, create, List.map_cons, if_true, hRest]

end FileTree

namespace Listener

/-- Makes a socket with the mode that new sockets get. An empty path is a socket without a file. -/
def makeSocket (mode : Nat) (path : String) (tree : FileTree) : Except Fault FileTree :=
  match addressFault? path with
  | some fault => .error fault
  | none =>
    if path.isEmpty then .ok tree
    else
      match tree.createNew path .socket mode with
      | .ok made => .ok made
      | .error fault => .error (if fault = .fileExists then .addressInUse else fault)

def changeMode (mode : Nat) (path : String) (tree : FileTree) : Except Fault FileTree :=
  match tree.entryAt true path with
  | .ok (location, _) => .ok (tree.setMode location mode)
  | .error fault => .error fault

def removeSocket (path : String) (tree : FileTree) : Except Fault FileTree :=
  if tree.exists? path then
    match tree.entryAt false path with
    | .ok (_, entry) =>
      if entry.node = .socket then tree.removeFile path
      else .error (.worded .alreadyExists "existing path is not a unix socket")
    | .error fault => .error fault
  else .ok tree

/-- Binds call by call: the outcome, and the files as they are then. -/
def bindByCalls (mode : Nat) (path : String) (tree : FileTree) :
    Except LinkError Listener × FileTree :=
  if maxPathLength ≤ path.utf8ByteSize then
    (.error (.pathTooLong path path.utf8ByteSize maxPathLength), tree)
  else
    match removeSocket path tree with
    | .error fault => (.error (.notBound path fault), tree)
    | .ok cleared =>
      match makeSocket mode path cleared with
      | .error fault => (.error (.notBound path fault), cleared)
      | .ok made =>
        match changeMode socketMode path made with
        | .error fault => (.error (.notBound path fault), made)
        | .ok changed =>
          match changed.entryAt false path with
          | .error fault => (.error (.notBound path fault), changed)
          | .ok (_, entry) => (.ok ⟨path, entry.inode⟩, changed)

variable {tree cleared : FileTree} {path : String} {place : Location}

theorem removeSocket_eq (path : String) (tree : FileTree) :
    removeSocket path tree = clearPath tree path := by
  unfold removeSocket clearPath
  split
  · cases hEntry : tree.entryAt false path with
    | error fault => rfl
    | ok found =>
      obtain ⟨location, entry⟩ := found
      simp only [Bind.bind, Except.bind]
      split
      · rename_i hSocket
        have hFind := (FileTree.entryAt_eq_ok hEntry).2
        have hPlace := FileTree.designates_of_entryAt hEntry
          (FileTree.way?_eq_none_of_socket hFind hSocket)
        exact FileTree.removeFile_of_designates hPlace hFind (by simp [hSocket])
      · rfl
  · rfl

theorem calls_of_free (mode : Nat) (hAddress : addressFault? path = none)
    (h : tree.Designates path place) (hFree : tree.find? place = none) :
    ∃ made, makeSocket mode path tree = .ok made ∧
      changeMode socketMode path made = .ok (tree.create place .socket socketMode) ∧
      (tree.create place .socket socketMode).entryAt false path =
        .ok (place, ⟨.socket, tree.nextInode, socketMode⟩) := by
  have hWay := FileTree.way?_eq_none_of_find? hFree
  have hMade (mode : Nat) (follow : Bool) :
      (tree.create place .socket mode).entryAt follow path =
        .ok (place, ⟨.socket, tree.nextInode, mode⟩) := by
    have hFind := FileTree.find?_create_self tree h.ne_nil .socket mode
    exact (h.congr (FileTree.sameWays_create hWay mode).symm).entryAt
      (FileTree.way?_eq_none_of_socket hFind rfl) hFind follow
  refine ⟨tree.create place .socket mode, ?_, ?_, hMade socketMode false⟩
  · rw [makeSocket, hAddress, h.isEmpty_eq_false]
    simp only [FileTree.createNew_of_designates h hFree]
    rfl
  · rw [changeMode, hMade mode true]
    exact congrArg Except.ok (FileTree.setMode_create tree place .socket mode socketMode)

theorem calls_of_error (mode : Nat) {fault : Fault} (h : bindSocket tree path = .error fault) :
    makeSocket mode path tree = .error fault ∨
      makeSocket mode path tree = .ok tree ∧ changeMode socketMode path tree = .error fault := by
  unfold bindSocket at h
  unfold makeSocket
  cases hAddress : addressFault? path with
  | some other =>
    rw [hAddress] at h
    cases h
    exact .inl rfl
  | none =>
    rw [hAddress] at h
    by_cases hEmpty : path.isEmpty
    · obtain rfl : path = "" := String.isEmpty_iff.mp hEmpty
      simp only [FileTree.createNew_empty] at h
      cases h
      refine .inr ⟨rfl, ?_⟩
      rw [changeMode, FileTree.entryAt_empty]
      rfl
    · cases hCreate : tree.createNew path .socket socketMode with
      | ok made =>
        simp only [hCreate] at h
        cases h
      | error other =>
        simp only [hCreate] at h
        cases h
        rw [if_neg hEmpty, FileTree.createNew_eq_error hCreate mode]
        exact .inl rfl

theorem addressFault?_eq_none (h : FileTree.pathFault? path = none)
    (hShort : path.utf8ByteSize < maxPathLength) : addressFault? path = none := by
  unfold FileTree.pathFault? at h
  split at h
  · cases h
  · rename_i hNul
    rw [addressFault?, if_neg hNul, if_neg (Nat.not_le.mpr hShort)]

/-- Call by call a bind comes to what it comes to at once, and one that fails leaves the files as
they were. -/
theorem bindByCalls_eq (mode : Nat) (path : String) (tree : FileTree) :
    bindByCalls mode path tree =
      match Listener.bind tree path with
      | .ok (listener, after) => (.ok listener, after)
      | .error error => (.error error, tree) := by
  unfold bindByCalls Listener.bind
  rw [removeSocket_eq]
  split
  · rfl
  rename_i hShort
  cases hClear : clearPath tree path with
  | error fault => rfl
  | ok cleared =>
    dsimp only
    cases hBound : bindSocket cleared path with
    | ok bound =>
      obtain ⟨inode, after⟩ := bound
      obtain ⟨hAddress, rfl, place, hPlace, hFree, rfl⟩ := bindSocket_eq_ok hBound
      obtain ⟨made, hMade, hChanged, hFound⟩ := calls_of_free mode hAddress hPlace hFree
      simp only [hMade, hChanged, hFound]
    | error fault =>
      rcases clearPath_eq_ok hClear with rfl | ⟨place, entry, hEntry, hNode, rfl⟩
      · rcases calls_of_error mode hBound with hMade | ⟨hMade, hChanged⟩
        · simp only [hMade]
        · simp only [hMade, hChanged]
      · -- Where a socket was, a new one can be made.
        have hFind := (FileTree.entryAt_eq_ok hEntry).2
        have hWay := FileTree.way?_eq_none_of_socket hFind hNode
        have hPlace := FileTree.designates_of_entryAt hEntry hWay
        have hAddress : addressFault? path = none := by
          obtain ⟨directory, name, hEnds, -⟩ := hPlace
          exact addressFault?_eq_none hEnds.fault (Nat.not_le.mp hShort)
        rw [bindSocket_of_free hAddress (hPlace.congr (FileTree.sameWays_erase hWay).symm)
          (FileTree.find?_erase_self tree hPlace.ne_nil)] at hBound
        cases hBound

theorem bind_of_occupied {entry : FileEntry} (h : tree.entryAt false path = .ok (place, entry))
    (hNode : entry.node ≠ .socket) : ∃ error, Listener.bind tree path = .error error := by
  cases hBind : Listener.bind tree path with
  | error error => exact ⟨error, rfl⟩
  | ok bound =>
    obtain ⟨free, hBinds⟩ := exists_binds hBind
    rcases hBinds.free with hNone | ⟨found, hFound, hSocket⟩
    · rw [hBinds.designates.entryAt_of_free hNone] at h
      cases h
    · rw [hBinds.designates.entryAt hBinds.free.way? hFound] at h
      cases h
      exact absurd hSocket hNode

end Listener

/-- Files, the listeners that live with the numbers of their binds, how many binds there were, and
which of them has made what is at a location. -/
structure SharedFiles where
  tree : FileTree
  live : List (Nat × Listener)
  binds : Nat
  maker : Location → Option Nat

namespace SharedFiles

open Listener

def start (tree : FileTree) : SharedFiles := ⟨tree, [], 0, fun _ => none⟩

structure IsUnused (s : SharedFiles) (inode : Nat) : Prop where
  nodes : ∀ location entry, s.tree.find? location = some entry → entry.inode ≠ inode
  held : ∀ n listener, (n, listener) ∈ s.live → listener.inode ≠ inode

/-- What is there after the bind and was not there before it is its own. -/
def bound (s : SharedFiles) (listener : Listener) (after : FileTree) : SharedFiles where
  tree := after
  live := s.live ++ [(s.binds, listener)]
  binds := s.binds + 1
  maker location :=
    if after.find? location = s.tree.find? location then s.maker location else some s.binds

/-- What others do to the files: the nodes with an origin have stayed or were moved, and those
without one are new and have none of the numbers that live listeners hold. -/
structure Interferes (s : SharedFiles) (after : FileTree) (origin : Location → Option Location) :
    Prop where
  moved : ∀ location old entry, origin location = some old → after.find? location = some entry →
    ∃ before, s.tree.find? old = some before ∧ before.inode = entry.inode ∧
      (before.node = .socket → entry.node = .socket)
  made : ∀ location entry, origin location = none → after.find? location = some entry →
    ∀ n listener, (n, listener) ∈ s.live → entry.inode ≠ listener.inode

inductive Step : SharedFiles → SharedFiles → Prop where
  | binds {s : SharedFiles} {mode : Nat} {path : String} {listener : Listener} {after : FileTree}
      (hUnused : s.IsUnused s.tree.nextInode)
      (hBind : bindByCalls mode path s.tree = (.ok listener, after)) :
      Step s (s.bound listener after)
  | failsToBind {s : SharedFiles} {mode : Nat} {path : String} {error : LinkError}
      {after : FileTree} (hBind : bindByCalls mode path s.tree = (.error error, after)) :
      Step s { s with tree := after }
  | drops {s : SharedFiles} {n : Nat} {listener : Listener} (hLive : (n, listener) ∈ s.live) :
      Step s { s with tree := listener.drop s.tree, live := s.live.erase (n, listener) }
  | abandons {s : SharedFiles} {n : Nat} {listener : Listener} (hLive : (n, listener) ∈ s.live) :
      Step s { s with live := s.live.erase (n, listener) }
  | others {s : SharedFiles} {after : FileTree} {origin : Location → Option Location}
      (hOthers : s.Interferes after origin) :
      Step s { s with tree := after, maker := fun location => (origin location).bind s.maker }

abbrev Leads : SharedFiles → SharedFiles → Prop := Relation.ReflTransGen Step

/-- What every step keeps: of the nodes that are there, those that a live listener has made are the
ones with its number, and what listeners have made are sockets. -/
structure Sound (s : SharedFiles) : Prop where
  earlier : ∀ location n, s.maker location = some n → n < s.binds
  numbered : ∀ n listener, (n, listener) ∈ s.live → n < s.binds
  own : ∀ n listener, (n, listener) ∈ s.live → ∀ location entry,
    s.tree.find? location = some entry →
      (entry.inode = listener.inode ↔ s.maker location = some n)
  socket : ∀ location n entry, s.maker location = some n → s.tree.find? location = some entry →
    entry.node = .socket

theorem sound_start (tree : FileTree) : (start tree).Sound where
  earlier := nofun
  numbered := nofun
  own := nofun
  socket := nofun

variable {s : SharedFiles}

theorem bind_of_calls {mode : Nat} {path : String} {tree after : FileTree} {listener : Listener}
    (h : bindByCalls mode path tree = (.ok listener, after)) :
    Listener.bind tree path = .ok (listener, after) := by
  rw [bindByCalls_eq] at h
  split at h
  · rename_i hBind
    rw [hBind]
    cases h
    rfl
  · cases h

theorem eq_of_failed {mode : Nat} {path : String} {tree after : FileTree} {error : LinkError}
    (h : bindByCalls mode path tree = (.error error, after)) : after = tree := by
  rw [bindByCalls_eq] at h
  split at h
  · cases h
  · exact (Prod.mk.inj h).2.symm

theorem maker_bound {path : String} {place : Location} {listener : Listener} {after : FileTree}
    (hUnused : s.IsUnused s.tree.nextInode) (hBinds : Binds s.tree path place listener after) :
    (s.bound listener after).maker place = some s.binds := by
  refine if_neg fun hSame => ?_
  rw [hBinds.found] at hSame
  exact hUnused.nodes place _ hSame.symm rfl

theorem Sound.binds (h : s.Sound) {path : String} {listener : Listener} {after : FileTree}
    (hUnused : s.IsUnused s.tree.nextInode)
    (hBind : Listener.bind s.tree path = .ok (listener, after)) :
    (s.bound listener after).Sound := by
  obtain ⟨place, hBinds⟩ := exists_binds hBind
  have hMade := maker_bound hUnused hBinds
  have hKept : ∀ other, other ≠ place → (s.bound listener after).maker other = s.maker other :=
    fun other hOther => if_pos (hBinds.others other hOther)
  have hInode : listener.inode = s.tree.nextInode := by rw [hBinds.listener]
  constructor
  · intro location n hMaker
    by_cases hPlace : location = place
    · rw [hPlace, hMade] at hMaker
      cases hMaker
      exact Nat.lt_succ_self _
    · rw [hKept location hPlace] at hMaker
      exact Nat.lt_succ_of_lt (h.earlier location n hMaker)
  · intro n other hLive
    rcases List.mem_append.mp hLive with hOld | hOwn
    · exact Nat.lt_succ_of_lt (h.numbered n other hOld)
    · cases List.mem_singleton.mp hOwn
      exact Nat.lt_succ_self _
  · intro n other hLive location entry hFind
    change after.find? location = some entry at hFind
    by_cases hPlace : location = place
    · rw [hPlace, hBinds.found] at hFind
      cases hFind
      rw [hPlace, hMade, Option.some.injEq, ← hInode]
      rcases List.mem_append.mp hLive with hOld | hOwn
      · have hHeld := hUnused.held n other hOld
        have hLess := h.numbered n other hOld
        rw [hInode]
        exact iff_of_false hHeld.symm (Nat.ne_of_gt hLess)
      · cases List.mem_singleton.mp hOwn
        exact iff_of_true rfl rfl
    · rw [hKept location hPlace]
      rw [hBinds.others location hPlace] at hFind
      rcases List.mem_append.mp hLive with hOld | hOwn
      · exact h.own n other hOld location entry hFind
      · cases List.mem_singleton.mp hOwn
        refine iff_of_false ?_ fun hMaker => ?_
        · rw [hInode]
          exact hUnused.nodes location entry hFind
        · exact absurd (h.earlier location _ hMaker) (Nat.lt_irrefl _)
  · intro location n entry hMaker hFind
    change after.find? location = some entry at hFind
    by_cases hPlace : location = place
    · rw [hPlace] at hFind
      cases hBinds.found.symm.trans hFind
      rfl
    · rw [hKept location hPlace] at hMaker
      rw [hBinds.others location hPlace] at hFind
      exact h.socket location n entry hMaker hFind

theorem find?_of_find?_drop {listener : Listener} {location : Location} {entry : FileEntry}
    (h : (listener.drop s.tree).find? location = some entry) :
    s.tree.find? location = some entry := by
  unfold Listener.drop at h
  split at h
  · split at h
    · rename_i place found hEntry hOwn
      have hFind := (FileTree.entryAt_eq_ok hEntry).2
      by_cases hPlace : location = place
      · rw [hPlace, FileTree.find?_erase_self s.tree
          (FileTree.ne_nil_of_way? (FileTree.way?_eq_none_of_socket hFind hOwn.1))] at h
        cases h
      · rwa [FileTree.find?_erase_of_ne s.tree hPlace] at h
    · exact h
  · exact h

theorem Sound.drops (h : s.Sound) (n : Nat) (listener : Listener) :
    Sound { s with tree := listener.drop s.tree, live := s.live.erase (n, listener) } where
  earlier := h.earlier
  numbered m other hLive := h.numbered m other (List.mem_of_mem_erase hLive)
  own m other hLive location entry hFind :=
    h.own m other (List.mem_of_mem_erase hLive) location entry (find?_of_find?_drop hFind)
  socket location m entry hMaker hFind :=
    h.socket location m entry hMaker (find?_of_find?_drop hFind)

theorem Sound.abandons (h : s.Sound) (n : Nat) (listener : Listener) :
    Sound { s with live := s.live.erase (n, listener) } where
  earlier := h.earlier
  numbered m other hLive := h.numbered m other (List.mem_of_mem_erase hLive)
  own m other hLive := h.own m other (List.mem_of_mem_erase hLive)
  socket := h.socket

theorem Sound.others (h : s.Sound) {after : FileTree} {origin : Location → Option Location}
    (hOthers : s.Interferes after origin) :
    Sound { s with tree := after, maker := fun location => (origin location).bind s.maker } := by
  constructor
  · intro location n hMaker
    obtain ⟨old, -, hOld⟩ := Option.bind_eq_some_iff.mp hMaker
    exact h.earlier old n hOld
  · exact h.numbered
  · intro n listener hLive location entry hFind
    dsimp only
    cases hOrigin : origin location with
    | none => exact iff_of_false (hOthers.made location entry hOrigin hFind n listener hLive) nofun
    | some old =>
      obtain ⟨before, hBefore, hInode, -⟩ := hOthers.moved location old entry hOrigin hFind
      rw [← hInode]
      exact h.own n listener hLive old before hBefore
  · intro location n entry hMaker hFind
    obtain ⟨old, hOrigin, hOld⟩ := Option.bind_eq_some_iff.mp hMaker
    obtain ⟨before, hBefore, -, hSocket⟩ := hOthers.moved location old entry hOrigin hFind
    exact hSocket (h.socket old n before hOld hBefore)

theorem Sound.step {t : SharedFiles} (h : s.Sound) (hStep : Step s t) : t.Sound := by
  cases hStep with
  | binds hUnused hBind => exact h.binds hUnused (bind_of_calls hBind)
  | failsToBind hBind =>
    rw [eq_of_failed hBind]
    exact h
  | @drops n listener hLive => exact h.drops n listener
  | @abandons n listener hLive => exact h.abandons n listener
  | others hOthers => exact h.others hOthers

theorem Sound.leads {t : SharedFiles} (h : s.Sound) (hLeads : Leads s t) : t.Sound := by
  induction hLeads with
  | refl => exact h
  | tail _ hStep ih => exact ih.step hStep

/-- The path of a listener leads to the very socket that its bind has made. -/
def HoldsOwn (s : SharedFiles) (n : Nat) (listener : Listener) (place : Location) : Prop :=
  ∃ entry, s.tree.entryAt false listener.path = .ok (place, entry) ∧ s.maker place = some n

theorem holdsOwn_bound {path : String} {place : Location} {listener : Listener} {after : FileTree}
    (hUnused : s.IsUnused s.tree.nextInode) (hBinds : Binds s.tree path place listener after) :
    after.entryAt false path = .ok (place, ⟨.socket, listener.inode, socketMode⟩) ∧
      (s.bound listener after).HoldsOwn s.binds listener place := by
  have hDesignates := hBinds.designates.congr hBinds.sameWays.symm
  have hEntry := hDesignates.entryAt
    (FileTree.way?_eq_none_of_socket hBinds.found rfl) hBinds.found false
  have hMaker := maker_bound hUnused hBinds
  rw [hBinds.listener] at hMaker ⊢
  exact ⟨hEntry, _, hEntry, hMaker⟩

theorem Sound.drop_eq (h : s.Sound) {n : Nat} {listener : Listener}
    (hLive : (n, listener) ∈ s.live) :
    (∀ place, s.HoldsOwn n listener place →
        listener.drop s.tree = s.tree.erase place ∧ place ≠ []) ∧
      ((¬∃ place, s.HoldsOwn n listener place) → listener.drop s.tree = s.tree) := by
  unfold Listener.drop
  constructor
  · rintro place ⟨entry, hEntry, hMaker⟩
    have hFind := (FileTree.entryAt_eq_ok hEntry).2
    have hSocket := h.socket place n entry hMaker hFind
    have hInode := (h.own n listener hLive place entry hFind).mpr hMaker
    rw [hEntry]
    exact ⟨if_pos ⟨hSocket, hInode⟩,
      FileTree.ne_nil_of_way? (FileTree.way?_eq_none_of_socket hFind hSocket)⟩
  · intro hForeign
    split
    · rename_i place entry hEntry
      refine if_neg fun hOwn => hForeign ⟨place, entry, hEntry, ?_⟩
      exact (h.own n listener hLive place entry (FileTree.entryAt_eq_ok hEntry).2).mp hOwn.2
    · rfl

/-- After any history of binds, drops and changes by others, a bind that fails leaves the files as
they are; it fails for a path that is too long or that holds something else than a socket. A bind
that succeeds changes the one place its path leads to, which holds a new socket for its owner only.
Dropping a listener takes away the very socket that its bind has made if its path still leads there,
and changes nothing otherwise. -/
theorem Leads.touches_own_only {tree : FileTree} (h : Leads (start tree) s) :
    (∀ mode path error after, bindByCalls mode path s.tree = (.error error, after) →
      after = s.tree) ∧
    (∀ mode path, (maxPathLength ≤ path.utf8ByteSize ∨ ∃ place entry,
        s.tree.entryAt false path = .ok (place, entry) ∧ entry.node ≠ .socket) →
      ∃ error, bindByCalls mode path s.tree = (.error error, s.tree)) ∧
    (∀ mode path listener after, s.IsUnused s.tree.nextInode →
      bindByCalls mode path s.tree = (.ok listener, after) →
        ∃ place, s.tree.locate false path = .ok place ∧
          after.entryAt false path = .ok (place, ⟨.socket, listener.inode, 0o600⟩) ∧
          s.IsUnused listener.inode ∧ (s.bound listener after).HoldsOwn s.binds listener place ∧
          ∀ other, other ≠ place → after.find? other = s.tree.find? other) ∧
    ∀ n listener, (n, listener) ∈ s.live →
      (∀ place, s.HoldsOwn n listener place →
        (listener.drop s.tree).find? place = none ∧
          ∀ other, other ≠ place → (listener.drop s.tree).find? other = s.tree.find? other) ∧
      ((¬∃ place, s.HoldsOwn n listener place) → listener.drop s.tree = s.tree) := by
  have hSound := (sound_start tree).leads h
  refine ⟨fun _ _ _ _ => eq_of_failed, fun mode path hPath => ?_,
    fun mode path listener after hUnused hBind => ?_, fun n listener hLive => ?_⟩
  · have hFails : ∃ error, Listener.bind s.tree path = .error error := by
      rcases hPath with hLong | ⟨place, entry, hEntry, hNode⟩
      · exact ⟨_, if_pos hLong⟩
      · exact bind_of_occupied hEntry hNode
    obtain ⟨error, hError⟩ := hFails
    exact ⟨error, by rw [bindByCalls_eq, hError]⟩
  · obtain ⟨place, hBinds⟩ := exists_binds (bind_of_calls hBind)
    obtain ⟨hEntry, hOwn⟩ := holdsOwn_bound hUnused hBinds
    refine ⟨place, hBinds.designates.locate hBinds.free.way? false, hEntry, ?_, hOwn, hBinds.others⟩
    rw [hBinds.listener]
    exact hUnused
  · obtain ⟨hOwn, hForeign⟩ := hSound.drop_eq hLive
    refine ⟨fun place hHolds => ?_, hForeign⟩
    obtain ⟨hDrop, hPlace⟩ := hOwn place hHolds
    rw [hDrop]
    exact ⟨FileTree.find?_erase_self s.tree hPlace,
      fun other hOther => FileTree.find?_erase_of_ne s.tree hOther⟩

/-- Others put a socket of their own in the place of one whose listener lives. -/
theorem foreign_socket_kept :
    let theirs : FileTree := ⟨[(["s"], ⟨.socket, 2, 0o755⟩)], 3⟩
    ∃ s, Leads (start ⟨[], 1⟩) s ∧ s.tree = theirs ∧ (0, ⟨"/s", 1⟩) ∈ s.live ∧
      Listener.drop s.tree ⟨"/s", 1⟩ = theirs := by
  intro theirs
  let own : FileTree := ⟨[(["s"], ⟨.socket, 1, socketMode⟩)], 2⟩
  have hName : FileTree.IsName "s" := ⟨by decide, by decide, by decide⟩
  have hNames : (FileTree.names "/s").dropLast = [] := rfl
  have hFault : FileTree.pathFault? "/s" = none := rfl
  have hEnds : (FileTree.mk [] 1).Ends "/s" [] "s" :=
    ⟨hFault, rfl, by decide, hName, FileTree.maxLinks, hNames ▸ .here⟩
  have hPlace : (FileTree.mk [] 1).Designates "/s" ["s"] := ⟨[], "s", hEnds, rfl⟩
  have hBind : bindByCalls 0o755 "/s" ⟨[], 1⟩ = (.ok ⟨"/s", 1⟩, own) := by
    have hAddress := addressFault?_eq_none hEnds.fault (by decide)
    rw [bindByCalls_eq, Listener.bind, if_neg (by decide), clearPath_of_free hPlace rfl]
    dsimp only
    rw [bindSocket_of_free hAddress hPlace rfl]
    rfl
  have hRoot : ∀ (nodes : List (Location × FileEntry)) (next : Nat) location entry,
      FileTree.find? ⟨nodes, next⟩ location = some entry →
        entry = ⟨.directory, 0, 0o755⟩ ∨ nodes.lookup location = some entry := by
    intro nodes next location entry hFind
    unfold FileTree.find? at hFind
    split at hFind
    · exact .inl (Option.some.inj hFind).symm
    · exact .inr hFind
  have hUnused : (start ⟨[], 1⟩).IsUnused 1 := by
    constructor
    · intro location entry hFind
      rcases hRoot _ _ location entry hFind with rfl | hNone
      · decide
      · cases hNone
    · intro n listener hLive
      cases hLive
  have hOthers : ((start ⟨[], 1⟩).bound ⟨"/s", 1⟩ own).Interferes theirs fun _ => none := by
    constructor
    · intro location old entry hMoved
      cases hMoved
    · intro location entry _ hFind n listener hLive
      obtain ⟨rfl, rfl⟩ := Prod.mk.inj (List.mem_singleton.mp hLive)
      rcases hRoot _ _ location entry hFind with rfl | hNode
      · decide
      · rw [List.lookup_cons] at hNode
        split at hNode
        · cases hNode
          decide
        · cases hNode
  have hRun : Leads (start ⟨[], 1⟩) _ := .head (.binds hUnused hBind) (.single (.others hOthers))
  refine ⟨_, hRun, rfl, List.mem_singleton_self _, ?_⟩
  refine ((Leads.touches_own_only hRun).2.2.2 0 ⟨"/s", 1⟩ (List.mem_singleton_self _)).2 ?_
  rintro ⟨place, entry, -, hMaker⟩
  cases hMaker

end SharedFiles

end DeviceRig
