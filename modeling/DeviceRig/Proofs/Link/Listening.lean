import DeviceRig.Proofs.Link.Binding
import Mathlib.Data.List.Nodup
import Mathlib.Logic.Relation

/-!
# Listeners that meet on a path

Listeners are bound and dropped in any order. A path leads to its listener until
another one is bound where the path leads; a socket that is there is replaced,
whether or not its listener has been dropped.
-/
namespace DeviceRig

/-- Files, the listeners that are bound and not dropped, and all that were ever bound. The earlier
ones come first. -/
structure ListenerRun where
  tree : FileTree
  live : List Listener
  bound : List Listener

namespace ListenerRun

open Listener

def start (tree : FileTree) : ListenerRun := ⟨tree, [], []⟩

inductive Step : ListenerRun → ListenerRun → Prop where
  | binds {s : ListenerRun} {path : String} {listener : Listener} {after : FileTree}
      (hBind : Listener.bind s.tree path = .ok (listener, after)) :
      Step s ⟨after, s.live ++ [listener], s.bound ++ [listener]⟩
  | failsToBind {s : ListenerRun} {path : String} {error : LinkError}
      (hBind : Listener.bind s.tree path = .error error) : Step s s
  | drops {s : ListenerRun} {listener : Listener} (hLive : listener ∈ s.live) :
      Step s ⟨listener.drop s.tree, s.live.erase listener, s.bound⟩

abbrev Leads : ListenerRun → ListenerRun → Prop := Relation.ReflTransGen Step

/-- What every step keeps. Where paths lead, it keeps too, and new sockets have new numbers. -/
structure Sound (s : ListenerRun) : Prop where
  addressed : ∀ listener ∈ s.bound, addressFault? listener.path = none
  placed : ∀ listener ∈ s.bound, ∃ place, s.tree.Designates listener.path place ∧
    IsFree s.tree place
  older : ∀ listener ∈ s.bound, listener.inode < s.tree.nextInode
  distinct : (s.bound.map Listener.inode).Nodup
  live : s.live.Sublist s.bound
  kept : ∀ listener ∈ s.live, ∀ place, s.tree.Designates listener.path place →
    s.tree.find? place = some ⟨.socket, listener.inode, socketMode⟩ ∨
      ∃ later, [listener, later].Sublist s.bound ∧ s.tree.Designates later.path place

theorem sound_start (tree : FileTree) : (start tree).Sound where
  addressed := List.forall_mem_nil _
  placed := List.forall_mem_nil _
  older := List.forall_mem_nil _
  distinct := List.nodup_nil
  live := List.Sublist.refl _
  kept := List.forall_mem_nil _

variable {s : ListenerRun}

theorem Sound.binds (h : s.Sound) {path : String} {listener : Listener} {after : FileTree}
    (hBind : Listener.bind s.tree path = .ok (listener, after)) :
    Sound ⟨after, s.live ++ [listener], s.bound ++ [listener]⟩ := by
  obtain ⟨place, hBinds⟩ := exists_binds hBind
  have hSame := hBinds.sameWays
  have hNew : after.Designates listener.path place := by
    rw [hBinds.listener]
    exact hBinds.designates.congr hSame.symm
  have hFound : after.find? place = some ⟨.socket, listener.inode, socketMode⟩ := by
    rw [hBinds.listener]
    exact hBinds.found
  constructor
  · refine List.forall_mem_append.mpr ⟨h.addressed, List.forall_mem_singleton.mpr ?_⟩
    rw [hBinds.listener]
    exact hBinds.address
  · refine List.forall_mem_append.mpr ⟨fun other hOther => ?_,
      List.forall_mem_singleton.mpr ⟨place, hNew, .inr ⟨_, hFound, rfl⟩⟩⟩
    obtain ⟨otherPlace, hDesignates, hFree⟩ := h.placed other hOther
    refine ⟨otherPlace, hDesignates.congr hSame.symm, ?_⟩
    by_cases hPlace : otherPlace = place
    · rw [hPlace]
      exact .inr ⟨_, hFound, rfl⟩
    · rw [IsFree, hBinds.others otherPlace hPlace]
      exact hFree
  · dsimp only
    rw [hBinds.nextInode]
    refine List.forall_mem_append.mpr ⟨fun other hOther => ?_, List.forall_mem_singleton.mpr ?_⟩
    · exact Nat.lt_succ_of_lt (h.older other hOther)
    · rw [hBinds.listener]
      exact Nat.lt_succ_self _
  · dsimp only
    rw [List.map_append, List.map_singleton, ← List.concat_eq_append]
    refine h.distinct.concat fun hMem => ?_
    obtain ⟨other, hOther, hInode⟩ := List.mem_map.mp hMem
    rw [hBinds.listener] at hInode
    exact Nat.ne_of_lt (h.older other hOther) hInode
  · exact h.live.append (List.Sublist.refl _)
  · refine List.forall_mem_append.mpr ⟨fun other hOther => ?_, List.forall_mem_singleton.mpr ?_⟩
    · intro otherPlace hDesignates
      -- Where the new socket is, the other listener has been replaced.
      by_cases hPlace : otherPlace = place
      · have hBound := List.singleton_sublist.mpr (h.live.subset hOther)
        rw [hPlace]
        exact .inr ⟨listener, hBound.append (List.Sublist.refl _), hNew⟩
      · dsimp only
        rw [hBinds.others otherPlace hPlace]
        rcases h.kept other hOther otherPlace (hDesignates.congr hSame) with
          hKept | ⟨later, hLater, hSamePlace⟩
        · exact .inl hKept
        · exact .inr ⟨later, hLater.trans (List.sublist_append_left _ _),
            hSamePlace.congr hSame.symm⟩
    · intro otherPlace hDesignates
      rw [hDesignates.unique hNew]
      exact .inl hFound

theorem Sound.drops (h : s.Sound) {listener : Listener} (hLive : listener ∈ s.live) :
    Sound ⟨listener.drop s.tree, s.live.erase listener, s.bound⟩ := by
  have hBound := h.live.subset hLive
  obtain ⟨place, hPlace, hFree⟩ := h.placed listener hBound
  have hSame := sameWays_drop hPlace hFree
  have hNodup : s.live.Nodup := h.distinct.of_map.sublist h.live
  constructor
  · exact h.addressed
  · intro other hOther
    obtain ⟨otherPlace, hDesignates, hOtherFree⟩ := h.placed other hOther
    exact ⟨otherPlace, hDesignates.congr hSame.symm, isFree_drop hPlace hFree hOtherFree⟩
  · dsimp only
    rw [nextInode_drop]
    exact h.older
  · exact h.distinct
  · exact List.erase_sublist.trans h.live
  · intro other hOther otherPlace hDesignates
    obtain ⟨hOther, hOld⟩ := hNodup.mem_erase_iff.mp hOther
    rcases h.kept other hOld otherPlace (hDesignates.congr hSame) with
      hFound | ⟨later, hLater, hSamePlace⟩
    · -- No two listeners have one number, so this socket is not the one that goes.
      refine .inl (find?_drop hPlace hFree hFound (.inr fun hInode => ?_))
      exact hOther (List.inj_on_of_nodup_map h.distinct (h.live.subset hOld) hBound hInode)
    · exact .inr ⟨later, hLater, hSamePlace.congr hSame.symm⟩

theorem Sound.step {t : ListenerRun} (h : s.Sound) (hStep : Step s t) : t.Sound := by
  cases hStep with
  | binds hBind => exact h.binds hBind
  | failsToBind hBind => exact h
  | drops hLive => exact h.drops hLive

theorem Sound.leads {t : ListenerRun} (h : s.Sound) (hLeads : Leads s t) : t.Sound := by
  induction hLeads with
  | refl => exact h
  | tail _ hStep ih => exact ih.step hStep

def Reached (s : ListenerRun) (listener : Listener) : Prop :=
  (∃ place, s.tree.entryAt false listener.path =
    .ok (place, ⟨.socket, listener.inode, socketMode⟩)) ∧
    s.tree.socketAt listener.path = .ok listener.inode

/-- A later listener was bound where the path of a listener leads. -/
def Replaced (s : ListenerRun) (listener : Listener) : Prop :=
  ∃ later place, [listener, later].Sublist s.bound ∧
    s.tree.locate false listener.path = .ok place ∧ s.tree.locate false later.path = .ok place

theorem reached_of_find? {listener : Listener} {place : Location}
    (hAddress : addressFault? listener.path = none)
    (h : s.tree.Designates listener.path place)
    (hFind : s.tree.find? place = some ⟨.socket, listener.inode, socketMode⟩) :
    s.Reached listener := by
  have hEntry := h.entryAt (FileTree.way?_eq_none_of_socket hFind rfl) hFind
  refine ⟨⟨place, hEntry false⟩, ?_⟩
  rw [FileTree.socketAt, hAddress, h.isEmpty_eq_false, hEntry true]
  rfl

/-- A listener is reached by its path until a later one is bound where the path leads. That can
happen to every listener, since a bind takes a socket away whether or not its listener is live; but
it takes nothing else away, and no other socket. -/
theorem Leads.reached_until_replaced {tree : FileTree} (h : Leads (start tree) s) :
    (∀ listener ∈ s.live, s.Reached listener ∨ s.Replaced listener) ∧
      (∀ listener ∈ s.live, ∃ after,
        Listener.bind s.tree listener.path = .ok (⟨listener.path, s.tree.nextInode⟩, after)) ∧
      ∀ path listener after, Listener.bind s.tree path = .ok (listener, after) →
        ∃ place, s.tree.locate false path = .ok place ∧
          (∀ entry, s.tree.find? place = some entry → entry.node = .socket) ∧
          ∀ other, other ≠ place → after.find? other = s.tree.find? other := by
  have hSound := (sound_start tree).leads h
  refine ⟨fun listener hLive => ?_, fun listener hLive => ?_, fun path listener after hBind => ?_⟩
  · have hBound := hSound.live.subset hLive
    obtain ⟨place, hPlace, hFree⟩ := hSound.placed listener hBound
    rcases hSound.kept listener hLive place hPlace with hFound | ⟨later, hLater, hSamePlace⟩
    · exact .inl (reached_of_find? (hSound.addressed listener hBound) hPlace hFound)
    · exact .inr ⟨later, place, hLater, hPlace.locate hFree.way? false,
        hSamePlace.locate hFree.way? false⟩
  · have hBound := hSound.live.subset hLive
    obtain ⟨place, hPlace, hFree⟩ := hSound.placed listener hBound
    exact bind_of_free (hSound.addressed listener hBound) hPlace hFree
  · obtain ⟨place, hBinds⟩ := exists_binds hBind
    refine ⟨place, hBinds.designates.locate hBinds.free.way? false, ?_, hBinds.others⟩
    intro entry hFind
    rcases hBinds.free with hNone | ⟨found, hFound, hSocket⟩
    · rw [hFind] at hNone
      cases hNone
    · obtain rfl := Option.some.inj (hFind.symm.trans hFound)
      exact hSocket

theorem reached_beside_dropped :
    ∃ s : ListenerRun, Leads (start ⟨[], 1⟩) s ∧ s.live = [⟨"/b", 2⟩] ∧ s.Reached ⟨"/b", 2⟩ := by
  let one : FileTree := ⟨[(["a"], ⟨.socket, 1, socketMode⟩)], 2⟩
  let two : FileTree := ⟨(["b"], ⟨.socket, 2, socketMode⟩) :: one.entries, 3⟩
  have hFirst : Listener.bind ⟨[], 1⟩ "/a" = .ok (⟨"/a", 1⟩, one) := rfl
  have hSecond : Listener.bind one "/b" = .ok (⟨"/b", 2⟩, two) := rfl
  have hDrops := @Step.drops ⟨two, [⟨"/a", 1⟩, ⟨"/b", 2⟩], [⟨"/a", 1⟩, ⟨"/b", 2⟩]⟩ ⟨"/a", 1⟩
    List.mem_cons_self
  have hRun : Leads (start ⟨[], 1⟩) _ :=
    .head (.binds hFirst) (.head (.binds hSecond) (.single hDrops))
  rcases (Leads.reached_until_replaced hRun).1 ⟨"/b", 2⟩ (by decide) with hReached | hReplaced
  · exact ⟨_, hRun, by decide, hReached⟩
  · obtain ⟨later, -, hLater, -⟩ := hReplaced
    have hSame : [⟨"/b", 2⟩, later] = [⟨"/a", 1⟩, ⟨"/b", 2⟩] := hLater.eq_of_length rfl
    exact absurd (List.cons.inj hSame).1 (by decide)

/-- A second listener on a path takes it from the first, which is still live. -/
theorem not_reached_behind_second :
    ∃ s listener, Leads (start ⟨[], 1⟩) s ∧ listener ∈ s.live ∧ ¬s.Reached listener := by
  have hFirst : Listener.bind ⟨[], 1⟩ "/s" =
      .ok (⟨"/s", 1⟩, ⟨[(["s"], ⟨.socket, 1, socketMode⟩)], 2⟩) := rfl
  have hSecond : Listener.bind ⟨[(["s"], ⟨.socket, 1, socketMode⟩)], 2⟩ "/s" =
      .ok (⟨"/s", 2⟩, ⟨[(["s"], ⟨.socket, 2, socketMode⟩)], 3⟩) := rfl
  have hReaches : FileTree.socketAt ⟨[(["s"], ⟨.socket, 2, socketMode⟩)], 3⟩ "/s" = .ok 2 := rfl
  refine ⟨_, ⟨"/s", 1⟩, .head (.binds hFirst) (.single (.binds hSecond)), List.mem_cons_self, ?_⟩
  intro hReached
  cases hReaches.symm.trans hReached.2

end ListenerRun

end DeviceRig
