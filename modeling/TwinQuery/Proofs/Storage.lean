/-
# Files that are written

A path leads through directories only, so a file that is put where no
directory is blocks no path that led to a directory before
(`Workspace.follow_put`). A file can be put at a path when its place is in a
directory and is none itself (`Workspace.HoldsFile`). That stays so when a file
is put there (`HoldsFile.put`); the directories above it are there already
(`HoldsFile.makeDirectories_eq`); and the text is read from it
(`HoldsFile.readText_put`).

The time has no part in any of this (`Workspace.follow_withClock` and what
follows it).

Key definitions: `Workspace.HoldsFile`, `Workspace.withClock`.
Key theorems: `Workspace.writeText_eq_ok_iff`, `Workspace.HoldsFile.put`,
`Workspace.HoldsFile.readText_put`, `Workspace.HoldsFile.makeDirectories_eq`.
-/
import TwinQuery.Proofs.SessionRuns
import TwinQuery.Workspace.Document

namespace TwinQuery

namespace Workspace

/-! ### Nodes -/

theorem lookup_filter_ne {place other : List Text} (h : other ≠ place) :
    ∀ nodes : List (List Text × Node),
      (nodes.filter fun entry => entry.1 != place).lookup other = nodes.lookup other
  | [] => rfl
  | (key, node) :: nodes => by
    have ih := lookup_filter_ne h nodes
    by_cases hkey : key = place
    · subst hkey
      have hne : (other == key) = false := by simpa using h
      simp [List.lookup_cons, hne, ih]
    · simp [List.lookup_cons, hkey, ih]

theorem node?_put_self (w : Workspace) {place : List Text} (hplace : place ≠ []) (node : Node) :
    (w.put place node).node? place = some node := by
  simp [node?, put, hplace]

theorem node?_put_of_ne (w : Workspace) {place other : List Text} (h : other ≠ place)
    (node : Node) : (w.put place node).node? other = w.node? other := by
  have hne : (other == place) = false := by simpa using h
  simp only [node?, put, List.lookup_cons, hne, lookup_filter_ne h]

theorem ne_nil_of_node? {w : Workspace} {place : List Text}
    (h : w.node? place ≠ some .directory) : place ≠ [] := by
  rintro rfl
  exact h rfl

/-! ### Following names -/

/-- One step of a way that leads somewhere: from a directory, back or on. -/
theorem follow_cons_eq_ok_iff {w : Workspace} {place names dir : List Text} {name : Text} :
    w.follow place (name :: names) = .ok dir ↔
      w.node? place = some .directory ∧
        if name = [.char '.', .char '.'] then place ≠ [] ∧ w.follow place.dropLast names = .ok dir
        else Utf8.size name ≤ longestName ∧ (w.node? (place ++ [name])).isSome ∧
          w.follow (place ++ [name]) names = .ok dir := by
  rw [follow]
  split
  · simp_all
  · simp_all
  · rename_i hplace
    by_cases hup : name = [.char '.', .char '.']
    · by_cases hroot : place = [] <;> simp [hplace, hup, hroot]
    · by_cases hlong : longestName < Utf8.size name
      · have hshort : ¬ Utf8.size name ≤ longestName := by omega
        simp [hup, hlong, hshort]
      · have hshort : Utf8.size name ≤ longestName := by omega
        by_cases hnext : (w.node? (place ++ [name])).isSome <;>
          simp [hplace, hup, hlong, hshort, hnext]

/-- The last name leads on from the directory that the others lead to. -/
theorem follow_concat {w : Workspace} {dir : List Text} {name : Text}
    (hdir : w.node? dir = some .directory) (hup : name ≠ [.char '.', .char '.'])
    (hshort : Utf8.size name ≤ longestName) (hthere : (w.node? (dir ++ [name])).isSome) :
    ∀ {place names : List Text}, w.follow place names = .ok dir →
      w.follow place (names ++ [name]) = .ok (dir ++ [name]) := by
  intro place names
  induction names generalizing place with
  | nil =>
    rintro ⟨⟩
    exact follow_cons_eq_ok_iff.mpr ⟨hdir, by rw [if_neg hup]; exact ⟨hshort, hthere, rfl⟩⟩
  | cons first names ih =>
    intro h
    obtain ⟨hplace, h⟩ := follow_cons_eq_ok_iff.mp h
    refine follow_cons_eq_ok_iff.mpr ⟨hplace, ?_⟩
    split at h
    · rw [if_pos ‹_›]
      exact ⟨h.1, ih h.2⟩
    · rw [if_neg ‹_›]
      exact ⟨h.1, h.2.1, ih h.2.2⟩

theorem node?_put_of_directory {w : Workspace} {blocked place : List Text}
    (hblocked : w.node? blocked ≠ some .directory) (hplace : w.node? place = some .directory)
    (node : Node) : (w.put blocked node).node? place = some .directory := by
  have hne : place ≠ blocked := by
    rintro rfl
    exact hblocked hplace
  rw [node?_put_of_ne w hne, hplace]

/-- **A file that is put where no directory is leaves every way to a directory
open.** -/
theorem follow_put {w : Workspace} {blocked : List Text}
    (hblocked : w.node? blocked ≠ some .directory) (node : Node) {dir : List Text} :
    ∀ {place names : List Text}, w.follow place names = .ok dir →
      (w.put blocked node).follow place names = .ok dir := by
  intro place names
  induction names generalizing place with
  | nil => exact id
  | cons name names ih =>
    intro h
    obtain ⟨hplace, h⟩ := follow_cons_eq_ok_iff.mp h
    refine follow_cons_eq_ok_iff.mpr ⟨node?_put_of_directory hblocked hplace node, ?_⟩
    split at h
    · rw [if_pos ‹_›]
      exact ⟨h.1, ih h.2⟩
    · have hthere : ((w.put blocked node).node? (place ++ [name])).isSome := by
        by_cases heq : place ++ [name] = blocked
        · rw [heq, node?_put_self w (ne_nil_of_node? hblocked)]
          rfl
        · rw [node?_put_of_ne w heq]
          exact h.2.1
      rw [if_neg ‹_›]
      exact ⟨h.1, hthere, ih h.2.2⟩

/-- A way that leads somewhere has no name that is too long. -/
theorem size_le_of_follow {w : Workspace} {place names dir : List Text}
    (h : w.follow place names = .ok dir) : ∀ name ∈ names, Utf8.size name ≤ longestName := by
  induction names generalizing place with
  | nil => simp
  | cons name names ih =>
    obtain ⟨-, h⟩ := follow_cons_eq_ok_iff.mp h
    split at h
    · rename_i hup
      exact List.forall_mem_cons.mpr ⟨by rw [hup]; decide, ih h.2⟩
    · exact List.forall_mem_cons.mpr ⟨h.1, ih h.2.2⟩

/-- Only a name that is too long is reported as one. -/
theorem follow_ne_nameTooLong {w : Workspace} {place names : List Text}
    (h : ∀ name ∈ names, Utf8.size name ≤ longestName) :
    w.follow place names ≠ .error .nameTooLong := by
  induction names generalizing place with
  | nil => simp [follow]
  | cons name names ih =>
    obtain ⟨hname, hnames⟩ := List.forall_mem_cons.mp h
    rw [follow]
    split
    · simp
    · simp
    · split
      · split
        · simp
        · exact ih hnames
      · rw [if_neg (by omega)]
        split
        · exact ih hnames
        · simp

/-! ### Places for files -/

theorem locate_eq_ok_iff {w : Workspace} {p : Path} {place : List Text} :
    w.locate p = .ok place ↔
      Utf8.size p.display ≤ longestPath ∧ p.root = [] ∧ w.follow [] p.names = .ok place := by
  rw [locate]
  by_cases hlong : longestPath < Utf8.size p.display
  · have hshort : ¬ Utf8.size p.display ≤ longestPath := by omega
    simp [hlong, hshort]
  · have hshort : Utf8.size p.display ≤ longestPath := by omega
    by_cases hroot : p.root = [] <;> simp [hlong, hshort, hroot]

/-- A file has its place in the directory that the path without the last name
leads to. -/
theorem placeFor_eq_ok_iff {w : Workspace} {p : Path} {place : List Text} :
    w.placeFor p = .ok place ↔
      ∃ name dir, p.names.getLast? = some name ∧ name ≠ [.char '.', .char '.'] ∧
        Utf8.size p.display ≤ longestPath ∧ w.locate p.parent = .ok dir ∧
        w.node? dir = some .directory ∧ Utf8.size name ≤ longestName ∧ place = dir ++ [name] := by
  unfold placeFor
  cases hlast : p.names.getLast? with
  | none => simp
  | some name =>
    by_cases hup : name = [.char '.', .char '.']
    · cases w.locate p <;> simp [hup, bind, Except.bind]
    · by_cases hlong : longestPath < Utf8.size p.display
      · have hshort : ¬ Utf8.size p.display ≤ longestPath := by omega
        simp [hup, hlong, hshort, bind, Except.bind]
      · have hshort : Utf8.size p.display ≤ longestPath := by omega
        cases hparent : w.locate p.parent with
        | error problem => simp [hup, hlong, bind, Except.bind]
        | ok dir =>
          simp only [hup, hlong, hshort, bind, Except.bind, if_false]
          by_cases hdir : w.node? dir = some .directory
          · by_cases hname : longestName < Utf8.size name
            · have hname' : ¬ Utf8.size name ≤ longestName := by omega
              simp [hdir, hname, hname']
            · have hname' : Utf8.size name ≤ longestName := by omega
              simp [hup, hdir, hname, hname', eq_comm]
          · split
            · exact absurd ‹_› hdir
            · simp [hdir]

/-- A file can be put at the path: its place is in a directory and is none
itself. -/
structure HoldsFile (w : Workspace) (p : Path) (place : List Text) : Prop where
  possible : p.isImpossible = false
  placeFor : w.placeFor p = .ok place
  notDirectory : w.node? place ≠ some .directory

theorem plainLines_of_plain : ∀ {t : Text}, .char '\r' ∉ t → plainLines t = t
  | [], _ => rfl
  | c :: t, h => by
    have hc : c ≠ '\r' := fun hc => h (by simp [hc])
    have ht : .char '\r' ∉ t := fun ht => h (List.mem_cons_of_mem _ ht)
    simp [plainLines, hc, plainLines_of_plain ht]

theorem writeText_eq_ok_iff {w w' : Workspace} {p : Path} {t : Text} :
    w.writeText p t = .ok w' ↔
      ∃ place, w.HoldsFile p place ∧ w' = w.put place (.file (.text t)) := by
  constructor
  · intro h
    unfold writeText at h
    split at h
    · cases h
    · split at h
      · cases h
      · rename_i himpossible _ place hplace
        split at h
        · cases h
        · cases h
          exact ⟨place, ⟨by simpa using himpossible, hplace, ‹_›⟩, rfl⟩
  · rintro ⟨place, ⟨himpossible, hplace, hnode⟩, rfl⟩
    simp [writeText, himpossible, hplace, hnode]

namespace HoldsFile

variable {w : Workspace} {p : Path} {place : List Text} (h : w.HoldsFile p place)

include h

/-- A file that is put at the path leaves room for another one. -/
theorem put (content : Content) : (w.put place (.file content)).HoldsFile p place := by
  obtain ⟨name, dir, hlast, hup, hsize, hlocate, hdir, hshort, rfl⟩ :=
    placeFor_eq_ok_iff.mp h.placeFor
  obtain ⟨hparent, hroot, hfollow⟩ := locate_eq_ok_iff.mp hlocate
  refine ⟨h.possible,
    placeFor_eq_ok_iff.mpr ⟨name, dir, hlast, hup, hsize, ?_, ?_, hshort, rfl⟩, ?_⟩
  · exact locate_eq_ok_iff.mpr ⟨hparent, hroot, follow_put h.notDirectory _ hfollow⟩
  · exact node?_put_of_directory h.notDirectory hdir _
  · rw [node?_put_self w (by simp)]
    simp

/-- A path leads to the file that is put there. -/
theorem locate_put (content : Content) : (w.put place (.file content)).locate p = .ok place := by
  obtain ⟨name, dir, hlast, hup, hsize, hlocate, hdir, hshort, rfl⟩ :=
    placeFor_eq_ok_iff.mp (h.put content).placeFor
  obtain ⟨-, hroot, hfollow⟩ := locate_eq_ok_iff.mp hlocate
  have hthere : ((w.put (dir ++ [name]) (.file content)).node? (dir ++ [name])).isSome := by
    rw [node?_put_self w (by simp)]
    rfl
  have hnames : p.names = p.parent.names ++ [name] := by
    obtain ⟨up, hup⟩ := List.getLast?_eq_some_iff.mp hlast
    rw [Path.parent, hup, List.dropLast_concat]
  refine locate_eq_ok_iff.mpr ⟨hsize, hroot, ?_⟩
  rw [hnames]
  exact follow_concat hdir hup hshort hthere hfollow

theorem pathExists_put (content : Content) :
    (w.put place (.file content)).pathExists p = .ok true := by
  rw [pathExists, h.locate_put content]
  simp [h.possible]

/-- **A text with an encoding is read as it was written**, up to the ends of
lines. -/
theorem readText_put {t : Text} (ht : t.isEncodable) :
    (w.put place (.file (.text t))).readText p = .ok (plainLines t) := by
  rw [readText, h.locate_put (.text t)]
  simp only
  rw [node?_put_self w (ne_nil_of_node? h.notDirectory)]
  simp only [ht, if_true]

/-- A text without carriage returns is read as it was written. -/
theorem readText_put_of_plain {t : Text} (ht : t.isEncodable) (hplain : .char '\r' ∉ t) :
    (w.put place (.file (.text t))).readText p = .ok t := by
  rw [h.readText_put ht, plainLines_of_plain hplain]

/-- No name of the path is too long, in whatever workspace. -/
theorem locate_ne_nameTooLong (other : Workspace) : other.locate p ≠ .error .nameTooLong := by
  obtain ⟨name, dir, hlast, -, hsize, hlocate, -, hshort, -⟩ := placeFor_eq_ok_iff.mp h.placeFor
  obtain ⟨-, hroot, hfollow⟩ := locate_eq_ok_iff.mp hlocate
  obtain ⟨up, hnames⟩ := List.getLast?_eq_some_iff.mp hlast
  have hall : ∀ n ∈ p.names, Utf8.size n ≤ longestName := by
    have hup := size_le_of_follow hfollow
    rw [Path.parent, hnames, List.dropLast_concat] at hup
    rw [hnames, List.forall_mem_append, List.forall_mem_singleton]
    exact ⟨hup, hshort⟩
  have hroot' : p.root = [] := hroot
  rw [locate, if_neg (by omega), hroot']
  exact follow_ne_nameTooLong hall

theorem isDirectory_parent : w.isDirectory p.parent := by
  obtain ⟨name, dir, -, -, -, hlocate, hdir, -, -⟩ := placeFor_eq_ok_iff.mp h.placeFor
  rw [isDirectory, hlocate]
  simp [hdir]

end HoldsFile

/-! ### Directories -/

/-- A directory that is there is kept. -/
theorem makeDirectories_of_isDirectory {w : Workspace} {p : Path}
    (himpossible : p.isImpossible = false)
    (hdir : w.isDirectory p) : w.makeDirectories p = .ok w := by
  have hpath : ∀ reversed, p.names.reverse = reversed → w.makeDirectoriesFrom p.root reversed = .ok w := by
    intro reversed hreversed
    cases reversed with
    | nil => rfl
    | cons name up =>
      have hp : (⟨p.root, (name :: up).reverse⟩ : Path) = p := by
        rw [← hreversed, List.reverse_reverse]
      have hmake : w.makeDirectory p = .error .alreadyThere := by
        unfold isDirectory at hdir
        unfold makeDirectory
        split at hdir
        · rw [‹w.locate p = _›]
        · cases hdir
      rw [makeDirectoriesFrom]
      simp only [hp, hmake, hdir, if_true]
  rw [makeDirectories, himpossible]
  exact hpath _ rfl

theorem isImpossible_parent {p : Path} (h : p.isImpossible = false) :
    p.parent.isImpossible = false := by
  rw [Path.isImpossible, List.any_eq_false] at h ⊢
  exact fun name hname => h name (List.dropLast_subset _ hname)

/-- The directories above a file that can be put are there. -/
theorem HoldsFile.makeDirectories_eq {w : Workspace} {p : Path} {place : List Text}
    (h : w.HoldsFile p place) : w.makeDirectories p.parent = .ok w :=
  makeDirectories_of_isDirectory (isImpossible_parent h.possible) h.isDirectory_parent

/-! ### The time -/

theorem clock_makeDirectory {w w' : Workspace} {p : Path} (h : w.makeDirectory p = .ok w') :
    w'.clock = w.clock := by
  unfold makeDirectory at h
  split at h
  · cases h
  · split at h
    · cases h
    · cases h
    · cases h
      rfl
  · cases h

theorem clock_makeDirectoriesFrom {root : Text} : ∀ {reversed : List Text} {w w' : Workspace},
    w.makeDirectoriesFrom root reversed = .ok w' → w'.clock = w.clock
  | [], w, w', h => by
    cases h
    rfl
  | name :: up, w, w', h => by
    rw [makeDirectoriesFrom] at h
    split at h
    · rename_i hmake
      cases h
      exact clock_makeDirectory hmake
    · obtain ⟨above, habove, h⟩ := exists_of_bind_eq_ok h
      have hclock := clock_makeDirectoriesFrom habove
      split at h
      · rename_i hmake
        cases h
        exact (clock_makeDirectory hmake).trans hclock
      · split at h
        · cases h
          exact hclock
        · cases h
    · split at h
      · cases h
        rfl
      · cases h

theorem clock_makeDirectories {w w' : Workspace} {p : Path} (h : w.makeDirectories p = .ok w') :
    w'.clock = w.clock := by
  unfold makeDirectories at h
  split at h
  · cases h
  · exact clock_makeDirectoriesFrom h

/-- The workspace at another time. -/
def withClock (w : Workspace) (now : Stamp) : Workspace := { w with clock := now }

section Clock

variable (w : Workspace) (now : Stamp) (p : Path)

theorem node?_withClock (place : List Text) : (w.withClock now).node? place = w.node? place := rfl

theorem follow_withClock : ∀ place names : List Text,
    (w.withClock now).follow place names = w.follow place names
  | place, [] => rfl
  | place, name :: names => by
    have hup := follow_withClock place.dropLast names
    have hdown := follow_withClock (place ++ [name]) names
    rw [follow, follow, hup, hdown]
    rfl

theorem locate_withClock : (w.withClock now).locate p = w.locate p := by
  rw [locate, locate, follow_withClock]

theorem placeFor_withClock : (w.withClock now).placeFor p = w.placeFor p := by
  unfold placeFor
  simp only [locate_withClock, node?_withClock]

theorem pathExists_withClock : (w.withClock now).pathExists p = w.pathExists p := by
  rw [pathExists, pathExists, locate_withClock]

theorem isDirectory_withClock : (w.withClock now).isDirectory p = w.isDirectory p := by
  unfold isDirectory
  simp only [locate_withClock, node?_withClock]

theorem readText_withClock : (w.withClock now).readText p = w.readText p := by
  unfold readText
  simp only [locate_withClock, node?_withClock]

theorem readJson_withClock : (w.withClock now).readJson p = w.readJson p := by
  rw [readJson, readJson, readText_withClock]

theorem makeDirectory_withClock :
    (w.withClock now).makeDirectory p = (w.makeDirectory p).map fun w => w.withClock now := by
  unfold makeDirectory
  rw [locate_withClock, placeFor_withClock]
  split
  · rfl
  · split <;> rfl
  · rfl

theorem makeDirectoriesFrom_withClock (root : Text) : ∀ (reversed : List Text) (w : Workspace),
    (w.withClock now).makeDirectoriesFrom root reversed =
      (w.makeDirectoriesFrom root reversed).map fun w => w.withClock now
  | [], w => rfl
  | name :: up, w => by
    have ih := makeDirectoriesFrom_withClock root up w
    rw [makeDirectoriesFrom, makeDirectoriesFrom, makeDirectory_withClock]
    simp only [ih, isDirectory_withClock]
    cases w.makeDirectory ⟨root, (name :: up).reverse⟩ with
    | ok made => rfl
    | error problem =>
      cases problem with
      | notFound =>
        cases w.makeDirectoriesFrom root up with
        | error fault => rfl
        | ok above =>
          simp only [Except.map, bind, Except.bind, makeDirectory_withClock, isDirectory_withClock]
          cases above.makeDirectory ⟨root, (name :: up).reverse⟩ with
          | ok made => rfl
          | error problem =>
            simp only
            split <;> rfl
      | _ =>
        simp only [Except.map]
        split <;> rfl

theorem makeDirectories_withClock :
    (w.withClock now).makeDirectories p = (w.makeDirectories p).map fun w => w.withClock now := by
  unfold makeDirectories
  split
  · rfl
  · exact makeDirectoriesFrom_withClock now p.root _ w

variable {w p}

theorem HoldsFile.withClock {place : List Text} (h : w.HoldsFile p place) :
    (w.withClock now).HoldsFile p place :=
  ⟨h.possible, (placeFor_withClock w now p).trans h.placeFor, h.notDirectory⟩

end Clock

end Workspace

end TwinQuery
