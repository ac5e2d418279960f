import DeviceRig.Link.Listener
import DeviceRig.Proofs.System.Walking

/-!
# Binding and dropping a listener

What binding and dropping do to the files. Binding puts a new socket where its path
leads; what was there, if anything, was a socket too. Dropping takes that socket
away and no other.
-/
namespace DeviceRig.Listener

variable {tree after cleared : FileTree} {path : String} {place : Location}

theorem clearPath_eq_ok (h : clearPath tree path = .ok cleared) :
    cleared = tree ∨ ∃ place entry, tree.entryAt false path = .ok (place, entry) ∧
      entry.node = .socket ∧ cleared = tree.erase place := by
  unfold clearPath at h
  split at h
  · cases hEntry : tree.entryAt false path with
    | error fault =>
      rw [hEntry] at h
      cases h
    | ok found =>
      obtain ⟨place, entry⟩ := found
      rw [hEntry] at h
      simp only [Bind.bind, Except.bind] at h
      split at h
      · rename_i hSocket
        exact .inr ⟨place, entry, rfl, hSocket, (Except.ok.inj h).symm⟩
      · cases h
  · cases h
    exact .inl rfl

theorem clearPath_of_socket {entry : FileEntry} (h : tree.Designates path place)
    (hFind : tree.find? place = some entry) (hSocket : entry.node = .socket) :
    clearPath tree path = .ok (tree.erase place) := by
  have hEntry := h.entryAt (FileTree.way?_eq_none_of_socket hFind hSocket) hFind
  have hExists : tree.exists? path = true := by
    rw [FileTree.exists?, hEntry true]
    rfl
  rw [clearPath, if_pos hExists, hEntry false]
  simp [Bind.bind, Except.bind, hSocket, pure, Except.pure]

theorem clearPath_of_free (h : tree.Designates path place) (hFind : tree.find? place = none) :
    clearPath tree path = .ok tree := by
  have hExists : tree.exists? path = false := by
    rw [FileTree.exists?, h.entryAt_of_free hFind]
    rfl
  rw [clearPath, hExists]
  rfl

theorem bindSocket_eq_ok {inode : Nat} (h : bindSocket tree path = .ok (inode, after)) :
    addressFault? path = none ∧ inode = tree.nextInode ∧
      ∃ place, tree.Designates path place ∧ tree.find? place = none ∧
        after = tree.create place .socket socketMode := by
  unfold bindSocket at h
  cases hAddress : addressFault? path with
  | some fault =>
    rw [hAddress] at h
    cases h
  | none =>
    rw [hAddress] at h
    cases hCreate : tree.createNew path .socket socketMode with
    | error fault =>
      simp only [hCreate] at h
      cases h
    | ok bound =>
      simp only [hCreate] at h
      obtain ⟨rfl, rfl⟩ := Prod.mk.inj (Except.ok.inj h)
      exact ⟨rfl, rfl, FileTree.createNew_eq_ok hCreate nofun⟩

theorem bindSocket_of_free (hAddress : addressFault? path = none)
    (h : tree.Designates path place) (hFree : tree.find? place = none) :
    bindSocket tree path = .ok (tree.nextInode, tree.create place .socket socketMode) := by
  rw [bindSocket, hAddress]
  simp only [FileTree.createNew_of_designates h hFree]
  rfl

theorem length_lt_of_addressFault? (h : addressFault? path = none) :
    path.utf8ByteSize < maxPathLength := by
  unfold addressFault? at h
  split at h
  · cases h
  · split at h
    · cases h
    · rename_i hShort
      exact Nat.not_le.mp hShort

/-- Nothing is in the way of a new socket but, at most, another socket. -/
def IsFree (tree : FileTree) (place : Location) : Prop :=
  tree.find? place = none ∨ ∃ entry, tree.find? place = some entry ∧ entry.node = .socket

theorem IsFree.way? (h : IsFree tree place) : tree.way? place = none := by
  rcases h with hNone | ⟨entry, hFind, hSocket⟩
  · exact FileTree.way?_eq_none_of_find? hNone
  · exact FileTree.way?_eq_none_of_socket hFind hSocket

structure Binds (tree : FileTree) (path : String) (place : Location) (listener : Listener)
    (after : FileTree) : Prop where
  address : addressFault? path = none
  listener : listener = ⟨path, tree.nextInode⟩
  designates : tree.Designates path place
  free : IsFree tree place
  found : after.find? place = some ⟨.socket, tree.nextInode, socketMode⟩
  others : ∀ other, other ≠ place → after.find? other = tree.find? other
  nextInode : after.nextInode = tree.nextInode + 1

theorem Binds.sameWays {listener : Listener} (h : Binds tree path place listener after) :
    after.SameWays tree := by
  intro other
  by_cases hOther : other = place
  · rw [hOther, h.free.way?, FileTree.way?, h.found]
  · rw [FileTree.way?, FileTree.way?, h.others other hOther]

theorem exists_binds {listener : Listener} (h : Listener.bind tree path = .ok (listener, after)) :
    ∃ place, Binds tree path place listener after := by
  unfold Listener.bind at h
  split at h
  · cases h
  cases hClear : clearPath tree path with
  | error fault =>
    rw [hClear] at h
    cases h
  | ok cleared =>
    cases hSocket : bindSocket cleared path with
    | error fault =>
      rw [hClear] at h
      simp only [hSocket] at h
      cases h
    | ok bound =>
      obtain ⟨inode, created⟩ := bound
      rw [hClear] at h
      simp only [hSocket] at h
      obtain ⟨rfl, rfl⟩ := Prod.mk.inj (Except.ok.inj h)
      obtain ⟨hAddress, rfl, place, hPlace, hFree, rfl⟩ := bindSocket_eq_ok hSocket
      refine ⟨place, ?_⟩
      have hOthers : ∀ other, other ≠ place →
          (cleared.create place .socket socketMode).find? other = cleared.find? other :=
        fun other hOther => FileTree.find?_create_of_ne cleared hOther .socket socketMode
      have hFound := FileTree.find?_create_self cleared hPlace.ne_nil .socket socketMode
      rcases clearPath_eq_ok hClear with rfl | ⟨old, entry, hEntry, hNode, rfl⟩
      · exact ⟨hAddress, rfl, hPlace, .inl hFree, hFound, hOthers, rfl⟩
      · have hFind := (FileTree.entryAt_eq_ok hEntry).2
        have hWay := FileTree.way?_eq_none_of_socket hFind hNode
        have hOld := FileTree.designates_of_entryAt hEntry hWay
        have hSame := FileTree.sameWays_erase hWay
        obtain rfl := hOld.unique (hPlace.congr hSame)
        refine ⟨hAddress, rfl, hOld, .inr ⟨entry, hFind, hNode⟩, hFound, ?_, rfl⟩
        intro other hOther
        rw [hOthers other hOther, FileTree.find?_erase_of_ne tree hOther]

theorem bind_of_free (hAddress : addressFault? path = none) (h : tree.Designates path place)
    (hFree : IsFree tree place) :
    ∃ after, Listener.bind tree path = .ok (⟨path, tree.nextInode⟩, after) := by
  have hShort := Nat.not_le.mpr (length_lt_of_addressFault? hAddress)
  rcases hFree with hNone | ⟨entry, hFind, hSocket⟩
  · have hBound := bindSocket_of_free hAddress h hNone
    refine ⟨tree.create place .socket socketMode, ?_⟩
    rw [Listener.bind, if_neg hShort, clearPath_of_free h hNone]
    simp only [hBound]
  · have hWay := FileTree.way?_eq_none_of_socket hFind hSocket
    have hBound := bindSocket_of_free hAddress (h.congr (FileTree.sameWays_erase hWay).symm)
      (FileTree.find?_erase_self tree h.ne_nil)
    refine ⟨(tree.erase place).create place .socket socketMode, ?_⟩
    rw [Listener.bind, if_neg hShort, clearPath_of_socket h hFind hSocket]
    simp only [hBound]
    rfl

section Drop

variable {listener : Listener}

theorem drop_eq (h : tree.Designates listener.path place) (hFree : IsFree tree place) :
    listener.drop tree =
      if ∃ entry, tree.find? place = some entry ∧ entry.node = .socket ∧
          entry.inode = listener.inode then tree.erase place
      else tree := by
  unfold drop
  cases hFind : tree.find? place with
  | none =>
    rw [h.entryAt_of_free hFind]
    simp
  | some entry =>
    rw [h.entryAt hFree.way? hFind false]
    simp

theorem find?_drop (h : tree.Designates listener.path place) (hFree : IsFree tree place)
    {other : Location} {entry : FileEntry} (hFind : tree.find? other = some entry)
    (hKept : other ≠ place ∨ entry.inode ≠ listener.inode) :
    (listener.drop tree).find? other = some entry := by
  rw [drop_eq h hFree]
  split
  · rename_i hOwn
    obtain ⟨own, hOwnFind, -, hInode⟩ := hOwn
    have hOther : other ≠ place := by
      rcases hKept with hOther | hEntry
      · exact hOther
      · rintro rfl
        obtain rfl := Option.some.inj (hFind.symm.trans hOwnFind)
        exact hEntry hInode
    rw [FileTree.find?_erase_of_ne tree hOther, hFind]
  · exact hFind

theorem isFree_drop (h : tree.Designates listener.path place) (hFree : IsFree tree place)
    {other : Location} (hOther : IsFree tree other) : IsFree (listener.drop tree) other := by
  rw [drop_eq h hFree]
  split
  · by_cases hPlace : other = place
    · rw [hPlace]
      exact .inl (FileTree.find?_erase_self tree h.ne_nil)
    · rw [IsFree, FileTree.find?_erase_of_ne tree hPlace]
      exact hOther
  · exact hOther

theorem sameWays_drop (h : tree.Designates listener.path place) (hFree : IsFree tree place) :
    (listener.drop tree).SameWays tree := by
  rw [drop_eq h hFree]
  split
  · exact FileTree.sameWays_erase hFree.way?
  · exact fun _ => rfl

theorem nextInode_drop (tree : FileTree) (listener : Listener) :
    (listener.drop tree).nextInode = tree.nextInode := by
  unfold drop
  split
  · split <;> rfl
  · rfl

end Drop

end DeviceRig.Listener
