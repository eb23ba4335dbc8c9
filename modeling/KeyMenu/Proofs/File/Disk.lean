import KeyMenu.File.Disk
import Mathlib

/-!
# Following and writing

What is written to a path is read from it again, and whether it can be written does not depend on
the bytes. Writing makes the directories that are missing on the way; all that were there before
stay, so that the way to the file can be followed afterwards.

* `Disk.follow_cons`: one name at a time;
* `Disk.read_eq_nullCharacter_iff`: the paths that no file can have;
* `Disk.IsDirectory`, `Disk.follow_of_makeWay`: the way that has been made;
* `Disk.write_eq_ok_iff`, `Disk.read_of_write`.
-/

namespace KeyMenu

namespace Disk

variable {d : Disk} {start names : List Text} {name : Text}

/-! ### One name at a time -/

/-- One name: the directory above, or what stands under the name. A file ends the way. -/
theorem follow_cons (d : Disk) (start : List Text) (name : Text) (names : List Text) :
    d.follow start (name :: names) =
      if name = Path.above then d.follow start.dropLast names
      else if Path.nameFits name = false then .error .nameTooLong
      else
        match d.node? (start ++ [name]) with
        | none => .error .notFound
        | some (.directory _) => d.follow (start ++ [name]) names
        | some (.file bytes) =>
            if names = [] then .ok (.file bytes) else .error .notADirectory := by
  rw [follow.eq_def]
  dsimp only
  cases d.node? (start ++ [name]) with
  | none => rfl
  | some node =>
      cases node with
      | directory below => rfl
      | file bytes => cases names <;> rfl

/-- Following names never comes to a null character. -/
theorem follow_ne_nullCharacter (d : Disk) (start names : List Text) :
    d.follow start names ≠ .error .nullCharacter := by
  induction names generalizing start with
  | nil => exact nofun
  | cons name names ih =>
      rw [follow_cons]
      split
      · exact ih _
      · split
        · exact nofun
        · cases d.node? (start ++ [name]) with
          | none => exact nofun
          | some node =>
              cases node with
              | directory below => exact ih _
              | file bytes =>
                  dsimp only
                  split <;> exact nofun

theorem find_eq_nullCharacter_iff {p : Path} :
    d.find p = .error .nullCharacter ↔ '\x00' ∈ p.toText := by
  rw [find, Path.fault?]
  by_cases hnull : '\x00' ∈ p.toText
  · simp [hnull]
  · simp only [hnull, iff_false, if_false]
    by_cases hshort : (Text.toBytes p.toText).length < Path.maxBytes
    · simp only [if_pos hshort]
      exact d.follow_ne_nullCharacter _ _
    · simp only [if_neg hshort]
      exact nofun

/-- A file is not asked for exactly if there is a null character in its path. -/
theorem read_eq_nullCharacter_iff {p : Path} :
    d.read p = .error .nullCharacter ↔ '\x00' ∈ p.toText := by
  rw [← find_eq_nullCharacter_iff (d := d), read]
  cases d.find p with
  | error fault => simp
  | ok node => cases node <;> simp

/-- Only a name that is too long makes it impossible to ask for a file. -/
theorem eq_nameTooLong_of_isFile {p : Path} {fault : FileFault} (h : d.isFile p = .error fault) :
    fault = .nameTooLong := by
  rw [isFile] at h
  split at h <;> cases h
  rfl

/-! ### Making a way -/

/-- A directory stands under the names. -/
def IsDirectory (d : Disk) (names : List Text) : Prop := d.node? names = some (.directory names)

/-- A directory stands under the names exactly if no file does, and something is there. -/
theorem isDirectory_iff : d.IsDirectory names ↔
    (∀ file ∈ d.files, file.1 ≠ names) ∧
      (names = [] ∨ (∃ path ∈ d.directories, names <+: path) ∨
        ∃ file ∈ d.files, names <+: file.1) := by
  rw [IsDirectory, node?]
  cases hfile : d.files.find? (·.1 == names) with
  | some file =>
      have hmem := List.mem_of_find?_eq_some hfile
      have hname : file.1 = names := by simpa using List.find?_some hfile
      simp only [Option.some.injEq, reduceCtorEq, false_iff, not_and]
      exact fun hnone => absurd hname (hnone file hmem)
  | none =>
      have hnone : ∀ file ∈ d.files, file.1 ≠ names := by
        simpa using List.find?_eq_none.1 hfile
      rw [and_iff_right hnone]
      dsimp only
      split
      · rename_i hthere
        simpa [or_assoc] using hthere
      · rename_i hnothing
        simpa [or_assoc] using hnothing

/-- Something that is no file is the directory of its own names. -/
theorem isDirectory_of_node? {below : List Text} (h : d.node? names = some (.directory below)) :
    d.IsDirectory names := by
  rw [IsDirectory]
  rw [node?] at h ⊢
  split at h
  · cases h
  · split at h
    · rename_i hthere
      rw [if_pos hthere]
    · cases h

/-- A new directory takes away no other one, and is there if nothing else was. -/
theorem IsDirectory.makeDirectory {other : List Text} (h : d.IsDirectory names) :
    (d.makeDirectory other).IsDirectory names := by
  obtain ⟨hfiles, hthere⟩ := isDirectory_iff.1 h
  refine isDirectory_iff.2 ⟨hfiles, hthere.imp_right (Or.imp_left ?_)⟩
  rintro ⟨path, hpath, hbelow⟩
  exact ⟨path, List.mem_cons_of_mem _ hpath, hbelow⟩

theorem isDirectory_makeDirectory (h : d.node? names = none) :
    (d.makeDirectory names).IsDirectory names := by
  refine isDirectory_iff.2 ⟨fun file hfile hname => ?_, .inr (.inl ⟨names, List.mem_cons_self,
    List.prefix_rfl⟩)⟩
  have hfound : (d.files.find? (·.1 == names)).isSome = true :=
    List.find?_isSome.2 ⟨file, hfile, by simpa using hname⟩
  obtain ⟨found, hfound⟩ := Option.isSome_iff_exists.1 hfound
  rw [node?, hfound] at h
  cases h

/-- A way that is made goes on with the directories that were there. -/
theorem IsDirectory.of_makeWay {d' : Disk} {start way directory : List Text}
    (h : d.IsDirectory names) (hway : d.makeWay start way = .ok (d', directory)) :
    d'.IsDirectory names := by
  induction way generalizing d start with
  | nil =>
      cases hway
      exact h
  | cons name way ih =>
      rw [makeWay] at hway
      split at hway
      · exact ih h hway
      · split at hway
        · cases hway
        · dsimp only at hway
          split at hway
          · exact ih h.makeDirectory hway
          · exact ih h hway
          · cases hway

/-- The way that has been made can be followed, also on a disk that has more on it, as long as
nothing stands in the place of a directory. -/
theorem follow_of_makeWay {d' later : Disk} {way directory : List Text}
    (hway : d.makeWay start way = .ok (d', directory))
    (hlater : ∀ other, d'.IsDirectory other → later.IsDirectory other) (rest : List Text) :
    later.follow start (way ++ rest) = later.follow directory rest := by
  induction way generalizing d start with
  | nil =>
      cases hway
      rfl
  | cons name way ih =>
      rw [List.cons_append, follow_cons]
      rw [makeWay] at hway
      split at hway
      · rename_i habove
        rw [if_pos habove]
        exact ih hway
      · rename_i habove
        rw [if_neg habove]
        split at hway
        · cases hway
        · rename_i hfits
          rw [if_neg hfits]
          dsimp only at hway
          split at hway
          · rename_i hnode
            have hthere := (isDirectory_makeDirectory hnode).of_makeWay hway
            rw [hlater _ hthere]
            exact ih hway
          · rename_i hnode
            have hthere := (isDirectory_of_node? hnode).of_makeWay hway
            rw [hlater _ hthere]
            exact ih hway
          · cases hway

theorem here_of_makeWay {d' : Disk} {way directory : List Text}
    (hway : d.makeWay start way = .ok (d', directory)) : d'.here = d.here := by
  induction way generalizing d start with
  | nil =>
      cases hway
      rfl
  | cons name way ih =>
      rw [makeWay] at hway
      split at hway
      · exact ih hway
      · split at hway
        · cases hway
        · dsimp only at hway
          split at hway
          · exact (ih hway :)
          · exact ih hway
          · cases hway

/-! ### Writing -/

/-- Where a file is written: the way to its directory has been made, and under its name there is no
directory. -/
structure Receives (d : Disk) (p : Path) (made : Disk) (directory : List Text) (name : Text) :
    Prop where
  fits : p.fault? = none
  way : d.makeWay (d.origin p) p.parent.names = .ok (made, directory)
  last : p.names.getLast? = some name
  notAbove : name ≠ Path.above
  nameFits : Path.nameFits name = true
  free : ∀ below, made.node? (directory ++ [name]) ≠ some (.directory below)

/-- A file can be written exactly if it is received somewhere, and there it stands. -/
theorem write_eq_ok_iff {p : Path} {bytes : List UInt8} {d' : Disk} :
    d.write p bytes = .ok d' ↔ ∃ made directory name, d.Receives p made directory name ∧
      d' = { made with files := (directory ++ [name], bytes) :: made.files } := by
  constructor
  · intro h
    rw [write] at h
    cases hfits : p.fault? with
    | some fault =>
        rw [hfits] at h
        cases h
    | none =>
        cases hway : d.makeWay (d.origin p) p.parent.names with
        | error fault =>
            simp only [hfits, hway] at h
            cases h
        | ok way =>
            obtain ⟨made, directory⟩ := way
            simp only [hfits, hway, bind, Except.bind] at h
            cases hlast : p.names.getLast? with
            | none =>
                rw [hlast] at h
                cases h
            | some name =>
                simp only [hlast] at h
                split at h
                · cases h
                · rename_i habove
                  split at h
                  · cases h
                  · rename_i hname
                    split at h
                    · cases h
                    · rename_i hfree
                      cases h
                      exact ⟨made, directory, name,
                        ⟨hfits, hway, hlast, habove, by simpa using hname, hfree⟩, rfl⟩
  · rintro ⟨made, directory, name, h, rfl⟩
    rw [write, h.fits]
    simp only [h.way, bind, Except.bind, h.last, if_neg h.notAbove, h.nameFits]
    rw [if_neg (by simp)]
    split
    · rename_i below hbelow
      exact absurd hbelow (h.free below)
    · rfl

/-- Whether a file can be written does not depend on its bytes. -/
theorem exists_write {p : Path} {bytes : List UInt8} {d' : Disk} (h : d.write p bytes = .ok d')
    (other : List UInt8) : ∃ d'', d.write p other = .ok d'' := by
  obtain ⟨made, directory, name, hreceives, -⟩ := write_eq_ok_iff.1 h
  exact ⟨_, write_eq_ok_iff.2 ⟨made, directory, name, hreceives, rfl⟩⟩

/-- **What is written to a path is read from it.** -/
theorem read_of_write {p : Path} {bytes : List UInt8} {d' : Disk}
    (h : d.write p bytes = .ok d') : d'.read p = .ok bytes := by
  obtain ⟨made, directory, name, hreceives, rfl⟩ := write_eq_ok_iff.1 h
  set written : Disk := { made with files := (directory ++ [name], bytes) :: made.files }
  -- the new file does not stand in the place of a directory
  have hkept : ∀ other, made.IsDirectory other → written.IsDirectory other := by
    intro other hother
    obtain ⟨hfiles, hthere⟩ := isDirectory_iff.1 hother
    refine isDirectory_iff.2 ⟨fun file hfile => ?_, hthere.imp_right (Or.imp_right ?_)⟩
    · rcases List.mem_cons.1 hfile with rfl | hfile
      · rintro rfl
        exact hreceives.free _ hother
      · exact hfiles file hfile
    · rintro ⟨file, hfile, hbelow⟩
      exact ⟨file, List.mem_cons_of_mem _ hfile, hbelow⟩
  have hnames : p.names = p.parent.names ++ [name] :=
    (List.dropLast_append_getLast? name hreceives.last).symm
  have horigin : written.origin p = d.origin p := by
    rw [origin, origin, here_of_makeWay hreceives.way]
  have hnode : written.node? (directory ++ [name]) = some (.file bytes) := by
    rw [node?, List.find?_cons_of_pos (by simp)]
  have hfollow : written.follow (d.origin p) p.names = .ok (.file bytes) := by
    rw [hnames, follow_of_makeWay hreceives.way hkept, follow_cons, if_neg hreceives.notAbove,
      if_neg (by simp [hreceives.nameFits]), hnode]
    exact if_pos rfl
  rw [read, find, hreceives.fits]
  simp only [horigin, hfollow]

end Disk

end KeyMenu
