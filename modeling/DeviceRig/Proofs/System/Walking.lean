import DeviceRig.System.FileTree
import Mathlib.Data.List.Basic

/-!
# Following a path

A path that names a node leads down to a directory first, through directories and
symbolic links, and then to the last of its names. Which directory that is depends
on the directories and links of a tree alone; so sockets and other files come and
go without changing where a path leads.
-/
namespace DeviceRig.FileTree

section Nodes

variable {tree : FileTree} {location other : Location}

theorem find?_nil (tree : FileTree) : tree.find? [] = some ⟨.directory, 0, 0o755⟩ := rfl

theorem find?_of_ne_nil (tree : FileTree) (h : location ≠ []) :
    tree.find? location = tree.entries.lookup location := by
  rw [find?, if_neg (by simpa using h)]

theorem lookup_filter_ne (entries : List (Location × FileEntry)) (location other : Location) :
    (entries.filter fun entry => entry.1 ≠ location).lookup other =
      if other = location then none else entries.lookup other := by
  induction entries with
  | nil => simp
  | cons entry rest ih =>
    obtain ⟨place, found⟩ := entry
    by_cases hPlace : place = location
    · rw [List.filter_cons_of_neg (by simpa using hPlace), ih]
      split
      · rfl
      · rw [List.lookup_cons, beq_false_of_ne (by rw [hPlace]; assumption)]
    · rw [List.filter_cons_of_pos (by simpa using hPlace), List.lookup_cons, List.lookup_cons, ih]
      by_cases hOther : other = place
      · rw [hOther, if_neg hPlace, beq_self_eq_true, if_neg hPlace]
      · rw [beq_false_of_ne hOther]

theorem find?_erase_self (tree : FileTree) (h : location ≠ []) :
    (tree.erase location).find? location = none := by
  rw [find?_of_ne_nil _ h, erase, lookup_filter_ne, if_pos rfl]

theorem find?_erase_of_ne (tree : FileTree) (h : other ≠ location) :
    (tree.erase location).find? other = tree.find? other := by
  by_cases hRoot : other = []
  · rw [hRoot, find?_nil, find?_nil]
  · rw [find?_of_ne_nil _ hRoot, find?_of_ne_nil _ hRoot, erase, lookup_filter_ne, if_neg h]

theorem find?_create_self (tree : FileTree) (h : location ≠ []) (node : FileNode) (mode : Nat) :
    (tree.create location node mode).find? location = some ⟨node, tree.nextInode, mode⟩ := by
  rw [find?_of_ne_nil _ h, create, List.lookup_cons_self]

theorem find?_create_of_ne (tree : FileTree) (h : other ≠ location) (node : FileNode)
    (mode : Nat) : (tree.create location node mode).find? other = tree.find? other := by
  rw [← find?_erase_of_ne tree h]
  by_cases hRoot : other = []
  · rw [hRoot, find?_nil, find?_nil]
  · rw [find?_of_ne_nil _ hRoot, find?_of_ne_nil _ hRoot, create, List.lookup_cons,
      beq_false_of_ne h]

end Nodes

/-- What a path can be led on by at a location: a directory or a link. -/
def way? (tree : FileTree) (location : Location) : Option FileNode :=
  match tree.find? location with
  | some ⟨.directory, _, _⟩ => some .directory
  | some ⟨.symlink target, _, _⟩ => some (.symlink target)
  | _ => none

def SameWays (tree other : FileTree) : Prop :=
  ∀ location, tree.way? location = other.way? location

section Ways

variable {tree other : FileTree} {location : Location}

theorem SameWays.symm (h : tree.SameWays other) : other.SameWays tree :=
  fun location => (h location).symm

theorem way?_eq_none_of_socket {entry : FileEntry} (hFind : tree.find? location = some entry)
    (hSocket : entry.node = .socket) : tree.way? location = none := by
  obtain ⟨node, inode, mode⟩ := entry
  obtain rfl : node = .socket := hSocket
  rw [way?, hFind]

theorem way?_eq_none_of_find? (hFind : tree.find? location = none) :
    tree.way? location = none := by
  rw [way?, hFind]

theorem ne_nil_of_way? (h : tree.way? location = none) : location ≠ [] := by
  rintro rfl
  cases h

theorem sameWays_erase (h : tree.way? location = none) : (tree.erase location).SameWays tree := by
  intro place
  by_cases hPlace : place = location
  · rw [hPlace, h, way?, find?_erase_self tree (ne_nil_of_way? h)]
  · rw [way?, way?, find?_erase_of_ne tree hPlace]

end Ways

structure IsName (part : String) : Prop where
  notUp : part ≠ ".."
  notDot : part ≠ "."
  short : part.utf8ByteSize ≤ maxNameLength

/-- The parts of a path lead down from a directory to a directory; the numbers say how many links
may be followed before and after. -/
inductive Descends (tree : FileTree) :
    Nat → Location → List String → Nat → Location → Prop where
  | here {links : Nat} {start : Location} : Descends tree links start [] links start
  | up {links left : Nat} {start directory : Location} {rest : List String}
      (hRest : Descends tree links start.dropLast rest left directory) :
      Descends tree links start (".." :: rest) left directory
  | stay {links left : Nat} {start directory : Location} {rest : List String}
      (hRest : Descends tree links start rest left directory) :
      Descends tree links start ("." :: rest) left directory
  | down {links left : Nat} {start directory : Location} {part : String} {rest : List String}
      (hName : IsName part) (hWay : tree.way? (start ++ [part]) = some .directory)
      (hRest : Descends tree links (start ++ [part]) rest left directory) :
      Descends tree links start (part :: rest) left directory
  | follow {links left : Nat} {start directory : Location} {part target : String}
      {rest : List String} (hName : IsName part)
      (hWay : tree.way? (start ++ [part]) = some (.symlink target))
      (hRest : Descends tree links (if isAbsolute target then [] else start)
        (parts target ++ rest) left directory) :
      Descends tree (links + 1) start (part :: rest) left directory

section Walk

variable {tree other : FileTree} {follow : Bool} {links left : Nat} {start directory : Location}
  {location : Location} {path rest : List String} {part target : String}

def beyond (tree : FileTree) (follow : Bool) :
    Nat → Location → List String → Except Fault Location
  | 0 => fun _ _ => .error .tooManyLevels
  | links + 1 => tree.walk follow links

theorem walk_eq (tree : FileTree) (follow : Bool) (links : Nat) (start : Location)
    (path : List String) :
    tree.walk follow links start path =
      tree.stepAlong follow (tree.beyond follow links) start path := by
  cases links <;> rfl

@[simp]
theorem walk_nil : tree.walk follow links start [] = .ok start := by
  rw [walk_eq, stepAlong]

@[simp]
theorem walk_up : tree.walk follow links start (".." :: rest) =
    tree.walk follow links start.dropLast rest := by
  rw [walk_eq, walk_eq, stepAlong, if_pos rfl]

@[simp]
theorem walk_stay :
    tree.walk follow links start ("." :: rest) = tree.walk follow links start rest := by
  rw [walk_eq, walk_eq, stepAlong, if_neg (by decide), if_pos rfl]

theorem walk_name (hName : IsName part) :
    tree.walk follow links start (part :: rest) =
      match tree.find? (start ++ [part]) with
      | none => if rest.isEmpty then .ok (start ++ [part]) else .error .noSuchFile
      | some entry =>
        match entry.node with
        | .directory => tree.walk follow links (start ++ [part]) rest
        | .symlink target =>
          if rest.isEmpty && !follow then .ok (start ++ [part])
          else tree.beyond follow links (if isAbsolute target then [] else start)
            (parts target ++ rest)
        | _ => if rest.isEmpty then .ok (start ++ [part]) else .error .notADirectory := by
  rw [walk_eq, stepAlong, if_neg hName.notUp, if_neg hName.notDot,
    if_neg (Nat.not_lt.mpr hName.short)]
  dsimp only
  cases tree.find? (start ++ [part]) with
  | none => rfl
  | some entry =>
    obtain ⟨node, inode, mode⟩ := entry
    cases node with
    | directory => exact (tree.walk_eq follow links (start ++ [part]) rest).symm
    | _ => rfl

theorem walk_down (hName : IsName part) (hWay : tree.way? (start ++ [part]) = some .directory) :
    tree.walk follow links start (part :: rest) =
      tree.walk follow links (start ++ [part]) rest := by
  rw [walk_name hName]
  unfold way? at hWay
  split at hWay
  · rename_i hFind
    rw [hFind]
  · cases hWay
  · cases hWay

theorem walk_follow (hName : IsName part)
    (hWay : tree.way? (start ++ [part]) = some (.symlink target)) (hRest : rest ≠ []) :
    tree.walk follow links start (part :: rest) =
      tree.beyond follow links (if isAbsolute target then [] else start)
        (parts target ++ rest) := by
  rw [walk_name hName]
  unfold way? at hWay
  split at hWay
  · cases hWay
  · rename_i hFind
    obtain rfl := FileNode.symlink.inj (Option.some.inj hWay)
    rw [hFind]
    simp [hRest]
  · cases hWay

theorem walk_last (hName : IsName part) (hWay : tree.way? (start ++ [part]) = none) :
    tree.walk follow links start [part] = .ok (start ++ [part]) := by
  rw [walk_name hName]
  unfold way? at hWay
  split at hWay
  · cases hWay
  · cases hWay
  · rename_i hDirectory hLink
    split
    · rfl
    · rename_i entry hFind
      obtain ⟨node, inode, mode⟩ := entry
      cases node with
      | directory => exact absurd hFind (hDirectory inode mode)
      | symlink target => exact absurd hFind (hLink target inode mode)
      | _ => rfl

theorem eq_of_walk_single (hName : IsName part)
    (h : tree.walk false links start [part] = .ok location) : location = start ++ [part] := by
  rw [walk_name hName] at h
  split at h
  · exact (Except.ok.inj h).symm
  · split at h
    · simpa using h.symm
    · exact (Except.ok.inj h).symm
    · exact (Except.ok.inj h).symm

/-- A name in the middle of a path that leads somewhere is that of a directory or of a link. -/
theorem way?_of_walk (hName : IsName part) (hRest : rest ≠ [])
    (h : tree.walk follow links start (part :: rest) = .ok location) :
    tree.way? (start ++ [part]) = some .directory ∨
      ∃ target, tree.way? (start ++ [part]) = some (.symlink target) := by
  rw [walk_name hName] at h
  split at h
  · rw [if_neg (by simpa using hRest)] at h
    cases h
  · rename_i entry hFind
    obtain ⟨node, inode, mode⟩ := entry
    dsimp only at h
    split at h
    · exact .inl (by rw [way?, hFind])
    · exact .inr ⟨_, by rw [way?, hFind]⟩
    · rw [if_neg (by simpa using hRest)] at h
      cases h

theorem isName_of_walk (hUp : part ≠ "..") (hDot : part ≠ ".")
    (h : tree.walk follow links start (part :: rest) = .ok location) : IsName part := by
  refine ⟨hUp, hDot, Nat.not_lt.mp fun hLong => ?_⟩
  rw [walk_eq, stepAlong, if_neg hUp, if_neg hDot, if_pos hLong] at h
  cases h

theorem Descends.walk_append (h : Descends tree links start path left directory)
    (hRest : rest ≠ []) :
    tree.walk follow links start (path ++ rest) = tree.walk follow left directory rest := by
  induction h with
  | here => rfl
  | up _ ih => rw [List.cons_append, walk_up, ih]
  | stay _ ih => rw [List.cons_append, walk_stay, ih]
  | down hName hWay _ ih => rw [List.cons_append, walk_down hName hWay, ih]
  | follow hName hWay _ ih =>
    rw [List.cons_append, walk_follow hName hWay (List.append_ne_nil_of_right_ne_nil _ hRest),
      beyond, ← ih, List.append_assoc]

/-- What stands before the end of a path that leads somewhere leads down to a directory. -/
theorem descends_of_walk (hRest : rest ≠ [])
    (h : tree.walk follow links start (path ++ rest) = .ok location) :
    ∃ left directory, Descends tree links start path left directory := by
  induction links using Nat.strongRecOn generalizing start path with
  | ind links ihLinks =>
    induction path generalizing start with
    | nil => exact ⟨_, _, .here⟩
    | cons part path ih =>
      rw [List.cons_append] at h
      have hMore : path ++ rest ≠ [] := List.append_ne_nil_of_right_ne_nil _ hRest
      by_cases hUp : part = ".."
      · subst hUp
        rw [walk_up] at h
        obtain ⟨left, directory, hDown⟩ := ih h
        exact ⟨left, directory, .up hDown⟩
      by_cases hDot : part = "."
      · subst hDot
        rw [walk_stay] at h
        obtain ⟨left, directory, hDown⟩ := ih h
        exact ⟨left, directory, .stay hDown⟩
      have hName := isName_of_walk hUp hDot h
      rcases way?_of_walk hName hMore h with hWay | ⟨target, hWay⟩
      · rw [walk_down hName hWay] at h
        obtain ⟨left, directory, hDown⟩ := ih h
        exact ⟨left, directory, .down hName hWay hDown⟩
      · rw [walk_follow hName hWay hMore] at h
        cases links with
        | zero => cases h
        | succ fewer =>
          rw [beyond, ← List.append_assoc] at h
          obtain ⟨left, directory, hDown⟩ := ihLinks fewer (Nat.lt_succ_self fewer) h
          exact ⟨left, directory, .follow hName hWay hDown⟩

theorem Descends.congr (hSame : tree.SameWays other)
    (h : Descends tree links start path left directory) :
    Descends other links start path left directory := by
  induction h with
  | here => exact .here
  | up _ ih => exact .up ih
  | stay _ ih => exact .stay ih
  | down hName hWay _ ih => exact .down hName ((hSame _).symm.trans hWay) ih
  | follow hName hWay _ ih => exact .follow hName ((hSame _).symm.trans hWay) ih

def withoutDots (path : List String) : List String :=
  path.filter (· ≠ ".")

theorem withoutDots_append (path rest : List String) :
    withoutDots (path ++ rest) = withoutDots path ++ withoutDots rest :=
  List.filter_append ..

theorem Descends.of_cons (hPart : part ≠ ".") (hPath : withoutDots path = part :: rest)
    (h : ∀ later, withoutDots later = rest →
      Descends tree links start (part :: later) left directory) :
    Descends tree links start path left directory := by
  induction path with
  | nil => cases hPath
  | cons first later ih =>
    by_cases hDot : first = "."
    · subst hDot
      exact .stay (ih hPath)
    · rw [withoutDots, List.filter_cons_of_pos (by simpa using hDot)] at hPath
      obtain ⟨rfl, hLater⟩ := List.cons.inj hPath
      exact h later hLater

theorem Descends.of_withoutDots {path more : List String}
    (h : Descends tree links start path left directory)
    (hSame : withoutDots path = withoutDots more) :
    Descends tree links start more left directory := by
  induction h generalizing more with
  | here =>
    induction more with
    | nil => exact .here
    | cons first later ih =>
      by_cases hDot : first = "."
      · subst hDot
        exact .stay (ih hSame)
      · rw [withoutDots, withoutDots, List.filter_cons_of_pos (by simpa using hDot)] at hSame
        cases hSame
  | up _ ih =>
    exact of_cons (by decide) hSame.symm fun later hLater => .up (ih hLater.symm)
  | stay _ ih => exact ih hSame
  | down hName hWay _ ih =>
    rw [withoutDots, List.filter_cons_of_pos (by simpa using hName.notDot)] at hSame
    exact of_cons hName.notDot hSame.symm fun later hLater => .down hName hWay (ih hLater.symm)
  | follow hName hWay _ ih =>
    rw [withoutDots, List.filter_cons_of_pos (by simpa using hName.notDot)] at hSame
    refine of_cons hName.notDot hSame.symm fun later hLater => .follow hName hWay (ih ?_)
    rw [withoutDots_append, withoutDots_append, hLater]
    rfl

/-- All directories above a location are there, and it is one itself. -/
def IsRooted (tree : FileTree) (location : Location) : Prop :=
  ∀ above, above <+: location → above = [] ∨ tree.way? above = some .directory

theorem isRooted_nil : tree.IsRooted [] :=
  fun _ hAbove => .inl (List.prefix_nil.mp hAbove)

theorem IsRooted.dropLast (h : tree.IsRooted location) : tree.IsRooted location.dropLast :=
  fun above hAbove => h above (hAbove.trans (List.dropLast_prefix location))

theorem IsRooted.append (h : tree.IsRooted location)
    (hWay : tree.way? (location ++ [part]) = some .directory) :
    tree.IsRooted (location ++ [part]) := by
  intro above hAbove
  rcases List.prefix_concat_iff.mp hAbove with rfl | hShorter
  · exact .inr hWay
  · exact h above hShorter

theorem Descends.isRooted (h : Descends tree links start path left directory)
    (hStart : tree.IsRooted start) : tree.IsRooted directory := by
  induction h with
  | here => exact hStart
  | up _ ih => exact ih hStart.dropLast
  | stay _ ih => exact ih hStart
  | down _ hWay _ ih => exact ih (hStart.append hWay)
  | follow _ _ _ ih =>
    apply ih
    split
    · exact isRooted_nil
    · exact hStart

theorem Descends.unique {otherLeft : Nat} {otherDirectory : Location}
    (h : Descends tree links start path left directory)
    (hOther : Descends tree links start path otherLeft otherDirectory) :
    directory = otherDirectory := by
  have hDot : ["."] ≠ [] := List.cons_ne_nil _ _
  have hFirst : tree.walk true links start (path ++ ["."]) = _ := h.walk_append hDot
  have hSecond : tree.walk true links start (path ++ ["."]) = _ := hOther.walk_append hDot
  rw [walk_stay, walk_nil] at hFirst hSecond
  exact Except.ok.inj (hFirst.symm.trans hSecond)

end Walk

section Ends

variable {tree other : FileTree} {path name : String} {directory location : Location}

/-- A path names something in a directory, to which what stands before the name leads. -/
structure Ends (tree : FileTree) (path : String) (directory : Location) (name : String) : Prop where
  fault : pathFault? path = none
  last : (pieces path).getLast? = some name
  notEmpty : name ≠ ""
  isName : IsName name
  descends : ∃ left, Descends tree maxLinks [] (names path).dropLast left directory

theorem Ends.congr (h : tree.Ends path directory name) (hSame : tree.SameWays other) :
    other.Ends path directory name :=
  ⟨h.fault, h.last, h.notEmpty, h.isName, h.descends.imp fun _ => Descends.congr hSame⟩

theorem Ends.unique {otherDirectory : Location} {otherName : String}
    (h : tree.Ends path directory name) (hOther : tree.Ends path otherDirectory otherName) :
    directory = otherDirectory ∧ name = otherName := by
  obtain ⟨left, hDown⟩ := h.descends
  obtain ⟨otherLeft, hOtherDown⟩ := hOther.descends
  exact ⟨hDown.unique hOtherDown, Option.some.inj (h.last.symm.trans hOther.last)⟩

theorem names_eq (hLast : (pieces path).getLast? = some name) (hNotEmpty : name ≠ "") :
    names path = (names path).dropLast ++ [name] := by
  obtain ⟨front, hPieces⟩ := List.getLast?_eq_some_iff.mp hLast
  rw [names, hPieces, List.filter_append, List.filter_cons_of_pos (by simpa using hNotEmpty),
    List.filter_nil, List.dropLast_concat]

theorem parts_eq (hLast : (pieces path).getLast? = some name) (hNotEmpty : name ≠ "")
    (hDot : name ≠ ".") : parts path = withoutDots (names path).dropLast ++ [name] := by
  have hNames : withoutDots (names path) = withoutDots (names path).dropLast ++ [name] := by
    conv_lhs => rw [names_eq hLast hNotEmpty]
    rw [withoutDots_append, withoutDots, withoutDots,
      List.filter_cons_of_pos (by simpa using hDot), List.filter_nil]
  rw [parts, ← hNames, hLast]
  simp [hNotEmpty, hDot, withoutDots]

theorem getLast?_pieces {front : List String} (h : parts path = front ++ [name])
    (hDot : name ≠ ".") :
    ∃ last, (pieces path).getLast? = some last ∧ last ≠ "" ∧ last ≠ "." := by
  unfold parts at h
  dsimp only at h
  cases hNamed : (names path).filter (· ≠ ".") with
  | nil =>
    rw [hNamed] at h
    simp at h
  | cons first more =>
    rw [hNamed] at h
    cases hLast : (pieces path).getLast? with
    | none =>
      rw [names, List.getLast?_eq_none_iff.mp hLast] at hNamed
      cases hNamed
    | some last =>
      refine ⟨last, rfl, ?_⟩
      rw [hLast, Option.getD_some, List.isEmpty_cons, Bool.not_false, Bool.and_true] at h
      split at h
      · exact absurd (List.singleton_inj.mp (List.append_inj' h rfl).2).symm hDot
      · rename_i hPlain
        simpa using hPlain

theorem Ends.locate (h : tree.Ends path directory name)
    (hWay : tree.way? (directory ++ [name]) = none) (follow : Bool) :
    tree.locate follow path = .ok (directory ++ [name]) := by
  obtain ⟨left, hDown⟩ := h.descends
  have hPlain : Descends tree maxLinks [] (withoutDots (names path).dropLast) left directory :=
    hDown.of_withoutDots (by simp [withoutDots])
  rw [FileTree.locate, h.fault, parts_eq h.last h.notEmpty h.isName.notDot]
  dsimp only
  rw [hPlain.walk_append (by simp), walk_last h.isName hWay]

/-- A path leads to a location that is no directory, whether or not something is there. -/
def Designates (tree : FileTree) (path : String) (place : Location) : Prop :=
  ∃ directory name, tree.Ends path directory name ∧ place = directory ++ [name]

variable {place otherPlace : Location}

theorem Designates.congr (h : tree.Designates path place) (hSame : tree.SameWays other) :
    other.Designates path place := by
  obtain ⟨directory, name, hEnds, rfl⟩ := h
  exact ⟨directory, name, hEnds.congr hSame, rfl⟩

theorem Designates.unique (h : tree.Designates path place)
    (hOther : tree.Designates path otherPlace) : place = otherPlace := by
  obtain ⟨directory, name, hEnds, rfl⟩ := h
  obtain ⟨otherDirectory, otherName, hOtherEnds, rfl⟩ := hOther
  obtain ⟨rfl, rfl⟩ := hEnds.unique hOtherEnds
  rfl

theorem Designates.ne_nil (h : tree.Designates path place) : place ≠ [] := by
  obtain ⟨directory, name, -, rfl⟩ := h
  simp

theorem Designates.isEmpty_eq_false (h : tree.Designates path place) : path.isEmpty = false := by
  obtain ⟨directory, name, hEnds, -⟩ := h
  have hFault := hEnds.fault
  unfold pathFault? at hFault
  split at hFault
  · cases hFault
  · split at hFault
    · cases hFault
    · rename_i hEmpty
      exact Bool.eq_false_iff.mpr hEmpty

theorem Designates.locate (h : tree.Designates path place) (hWay : tree.way? place = none)
    (follow : Bool) : tree.locate follow path = .ok place := by
  obtain ⟨directory, name, hEnds, rfl⟩ := h
  exact hEnds.locate hWay follow

theorem Designates.entryAt (h : tree.Designates path place) (hWay : tree.way? place = none)
    {entry : FileEntry} (hFind : tree.find? place = some entry) (follow : Bool) :
    tree.entryAt follow path = .ok (place, entry) := by
  rw [FileTree.entryAt, h.locate hWay follow]
  simp [bind, Except.bind, hFind, pure, Except.pure]

theorem Designates.entryAt_of_free (h : tree.Designates path place)
    (hFind : tree.find? place = none) {follow : Bool} :
    tree.entryAt follow path = .error .noSuchFile := by
  rw [FileTree.entryAt, h.locate (way?_eq_none_of_find? hFind) follow]
  simp [bind, Except.bind, hFind, throw, throwThe, MonadExceptOf.throw]

theorem entryAt_eq_ok {follow : Bool} {entry : FileEntry}
    (h : tree.entryAt follow path = .ok (location, entry)) :
    tree.locate follow path = .ok location ∧ tree.find? location = some entry := by
  unfold FileTree.entryAt at h
  cases hLocate : tree.locate follow path with
  | error fault =>
    rw [hLocate] at h
    cases h
  | ok found =>
    rw [hLocate] at h
    simp only [bind, Except.bind] at h
    split at h
    · rename_i hFind
      cases h
      exact ⟨rfl, hFind⟩
    · cases h

theorem isRooted_of_walk {follow : Bool} {links left : Nat} {path : List String} {part : String}
    (h : Descends tree links [] path left directory) (hPart : part = ".." ∨ part = ".")
    (hWalk : tree.walk follow links [] (path ++ [part]) = .ok location) :
    tree.IsRooted location := by
  rw [h.walk_append (by simp)] at hWalk
  rcases hPart with rfl | rfl
  · obtain rfl : directory.dropLast = location := by simpa using hWalk
    exact (h.isRooted isRooted_nil).dropLast
  · obtain rfl : directory = location := by simpa using hWalk
    exact h.isRooted isRooted_nil

theorem designates_of_entryAt {entry : FileEntry}
    (h : tree.entryAt false path = .ok (location, entry)) (hWay : tree.way? location = none) :
    tree.Designates path location := by
  obtain ⟨hLocate, hFind⟩ := entryAt_eq_ok h
  have hNotRooted : ¬tree.IsRooted location := fun hRooted => by
    rcases hRooted location (List.prefix_refl location) with rfl | hDirectory
    · exact ne_nil_of_way? hWay rfl
    · rw [hWay] at hDirectory
      cases hDirectory
  unfold FileTree.locate at hLocate
  split at hLocate
  · cases hLocate
  rename_i hFault
  rcases List.eq_nil_or_concat' (parts path) with hNil | ⟨front, part, hParts⟩
  · obtain rfl : [] = location := by simpa [hNil] using hLocate
    exact absurd isRooted_nil hNotRooted
  rw [hParts] at hLocate
  obtain ⟨left, directory, hDown⟩ := descends_of_walk (by simp) hLocate
  by_cases hUp : part = ".."
  · exact absurd (isRooted_of_walk hDown (.inl hUp) hLocate) hNotRooted
  by_cases hDot : part = "."
  · exact absurd (isRooted_of_walk hDown (.inr hDot) hLocate) hNotRooted
  rw [hDown.walk_append (by simp)] at hLocate
  have hName := isName_of_walk hUp hDot hLocate
  obtain ⟨last, hLast, hNotEmpty, hNotDot⟩ := getLast?_pieces hParts hDot
  rw [parts_eq hLast hNotEmpty hNotDot] at hParts
  obtain ⟨rfl, hPart⟩ := List.append_inj' hParts rfl
  obtain rfl := List.singleton_inj.mp hPart
  exact ⟨directory, last, ⟨hFault, hLast, hNotEmpty, hName, left, hDown.of_withoutDots
    (by simp [withoutDots])⟩, eq_of_walk_single hName hLocate⟩

theorem Ends.pathEnd (h : tree.Ends path directory name) :
    tree.pathEnd path = .ok ⟨directory, some name, false⟩ := by
  obtain ⟨left, hDown⟩ := h.descends
  have hWalk : tree.walk true maxLinks [] ((names path).dropLast ++ ["."]) = .ok directory := by
    simp [hDown.walk_append]
  have hLast : (names path).getLast? = some name := by
    rw [names_eq h.last h.notEmpty, List.getLast?_concat]
  simp [FileTree.pathEnd, h.fault, hWalk, hLast, h.last, h.notEmpty, h.isName.notUp,
    h.isName.notDot, h.isName.short, bind, Except.bind, pure, Except.pure, Option.filter]

theorem pathEnd_eq_ok {slashed : Bool}
    (h : tree.pathEnd path = .ok ⟨directory, some name, slashed⟩) :
    pathFault? path = none ∧
      tree.walk true maxLinks [] ((names path).dropLast ++ ["."]) = .ok directory ∧
      (names path).getLast? = some name ∧ IsName name ∧
      slashed = decide ((pieces path).getLast? = some "") := by
  unfold FileTree.pathEnd at h
  cases hFault : pathFault? path with
  | some fault =>
    rw [hFault] at h
    cases h
  | none =>
    cases hWalk : tree.walk true maxLinks [] ((names path).dropLast ++ ["."]) with
    | error fault =>
      rw [hFault] at h
      simp [hWalk, bind, Except.bind] at h
    | ok found =>
      rw [hFault] at h
      simp only [hWalk, bind, Except.bind, pure, Except.pure] at h
      split at h
      · cases h
      · rename_i hShort
        obtain ⟨rfl, hName, rfl⟩ := PathEnd.mk.inj (Except.ok.inj h)
        obtain ⟨hLast, hParts⟩ := Option.filter_eq_some_iff.mp hName
        rw [hName] at hShort
        simp at hParts hShort
        exact ⟨rfl, rfl, hLast, ⟨hParts.2, hParts.1, hShort⟩, rfl⟩

theorem ends_of_pathEnd (h : tree.pathEnd path = .ok ⟨directory, some name, false⟩) :
    tree.Ends path directory name := by
  obtain ⟨hFault, hWalk, hLast, hName, hSlash⟩ := pathEnd_eq_ok h
  obtain ⟨left, found, hDown⟩ := descends_of_walk (by simp) hWalk
  rw [hDown.walk_append (by simp)] at hWalk
  obtain rfl : found = directory := by simpa using hWalk
  have hNotEmpty : name ≠ "" := by
    have hMem := List.mem_of_getLast? hLast
    simpa using (List.mem_filter.mp hMem).2
  refine ⟨hFault, ?_, hNotEmpty, hName, left, hDown⟩
  cases hPiece : (pieces path).getLast? with
  | none =>
    rw [names, List.getLast?_eq_none_iff.mp hPiece] at hLast
    cases hLast
  | some last =>
    have hFull : last ≠ "" := by
      rintro rfl
      simp [hPiece] at hSlash
    rw [names_eq hPiece hFull, List.getLast?_concat] at hLast
    exact hLast

theorem createNew_eq_ok {node : FileNode} {mode : Nat} {after : FileTree}
    (h : tree.createNew path node mode = .ok after) (hNode : node ≠ .directory) :
    ∃ place, tree.Designates path place ∧ tree.find? place = none ∧
      after = tree.create place node mode := by
  unfold FileTree.createNew at h
  cases hEnd : tree.pathEnd path with
  | error fault =>
    rw [hEnd] at h
    cases h
  | ok ending =>
    obtain ⟨directory, last, slashed⟩ := ending
    rw [hEnd] at h
    simp only [bind, Except.bind] at h
    cases last with
    | none => cases h
    | some name =>
      dsimp only at h
      split at h
      · cases h
      rename_i hFree
      split at h
      · cases h
      rename_i hSlashed
      have hPlain : slashed = false := by simpa [hNode] using hSlashed
      rw [hPlain] at hEnd
      exact ⟨_, ⟨directory, name, ends_of_pathEnd hEnd, rfl⟩, by simpa using hFree,
        (Except.ok.inj h).symm⟩

theorem createNew_of_designates {node : FileNode} {mode : Nat} (h : tree.Designates path place)
    (hFree : tree.find? place = none) :
    tree.createNew path node mode = .ok (tree.create place node mode) := by
  obtain ⟨directory, name, hEnds, rfl⟩ := h
  simp [FileTree.createNew, hEnds.pathEnd, hFree, bind, Except.bind, pure, Except.pure]

end Ends

end DeviceRig.FileTree
