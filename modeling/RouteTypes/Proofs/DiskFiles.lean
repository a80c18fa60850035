import RouteTypes.Proofs.RunWrites
import Mathlib.Logic.Function.Basic

/-!
# The Files of a Disk

What a run on a disk leaves of its files.

Files are seen at their places, and a path leads to a place. Where it leads can be said
without the disk, as long as the directories on the way are there: the names of the path
are taken one after the other (`placeOf`). A disk that finds the way finds this place
(`locate_eq_ok`), so a text that is written changes the content at this place and at no
other. To create a directory changes no content, because a directory is only created
where nothing was.

So a disk is a system whose files change with nothing but what is written to it
(`host_keepsFiles`), and a run leaves all other files as they were (`run_contents`).

## Main definitions

* `Disk.placeOf`: Where a path leads.
* `Disk.Contents`: Files by place, seen from a working directory.
* `Disk.Contents.put`: The files with another one.

## Theorems

* `OrderedMap.get?_insert`: Look-up after an insertion.
* `Disk.locate_eq_ok`: A disk finds the place of a path, or nothing.
* `Disk.host_keepsFiles`: The files of a disk change with what is written.
* `Disk.run_contents`: What a run leaves on a disk.
-/

namespace RouteTypes

namespace OrderedMap

variable {κ α : Type} [DecidableEq κ]

/-- What is put under a key is found there, and other keys lead where they led. -/
theorem find?_put (k other : κ) (v : α) (es : List (κ × α)) :
    find? other (put k v es) = if k = other then some v else find? other es := by
  induction es with
  | nil => rfl
  | cons e es ih =>
      rcases e with ⟨k', v'⟩
      unfold put
      by_cases hk : k' = k
      · rw [if_pos hk, find?, find?, hk]
        by_cases hother : k = other
        · rw [if_pos hother, if_pos hother]
        · rw [if_neg hother, if_neg hother, if_neg hother]
      · rw [if_neg hk, find?, find?, ih]
        by_cases hother : k' = other
        · -- The entry in front is the one that is looked for, and not the one that is put.
          rw [if_pos hother, if_pos hother, if_neg fun h => hk (hother.trans h.symm)]
        · rw [if_neg hother, if_neg hother]

/-- An insertion changes what is found under its key, and nothing else. -/
theorem get?_insert (m : OrderedMap κ α) (k other : κ) (v : α) :
    (m.insert k v).get? other = if k = other then some v else m.get? other :=
  find?_put k other v m.entries

end OrderedMap

namespace Disk

/-- Where a name leads from a directory. -/
def goTo (place : DiskPlace) (name : List Char) : DiskPlace :=
  if name.isEmpty || name = ['.'] then place
  else if name = ['.', '.'] then place.dropLast
  else place ++ [String.ofList name]

/-- Where a path leads, seen from a working directory. -/
def placeOf (working : DiskPlace) (path : String) : DiskPlace :=
  (path.toList.splitOn '/').foldl goTo (if Path.isAbsolute path.toList then [] else working)

/-- The contents of files by place, seen from a working directory. -/
structure Contents where
  working : DiskPlace
  content? : DiskPlace → Option ByteArray

/-- The content of what is a file. -/
def DiskEntry.content? : DiskEntry → Option ByteArray
  | .file content => some content
  | .directory => none

/-- The contents of the files of a disk. -/
def contents (disk : Disk) : Contents where
  working := disk.working
  content? place := (disk.entry? place).bind DiskEntry.content?

/-- The contents of all files with that of another one, in the place where its path leads. -/
def Contents.put (contents : Contents) (file : PlannedFile) : Contents :=
  { contents with
    content? := Function.update contents.content? (placeOf contents.working file.path)
      (some file.text.toUTF8) }

variable {disk : Disk} {place : DiskPlace}

/-- A step on a disk goes where the name leads, if it goes anywhere. -/
theorem step_eq_ok {name : List Char} {next : DiskPlace} (h : disk.step place name = .ok next) :
    next = goTo place name := by
  unfold step at h
  unfold goTo
  cases hentry : disk.entry? place with
  | none =>
      rw [hentry] at h
      exact nomatch h
  | some entry =>
      rw [hentry] at h
      cases entry with
      -- Only directories have names in them.
      | file _ => exact nomatch h
      | directory =>
          dsimp only at h
          -- The same tests in the same order, and one more for long names.
          by_cases hhere : (name.isEmpty || name = ['.']) = true
          · rw [if_pos hhere] at h ⊢
            exact (Except.ok.inj h).symm
          rw [if_neg hhere] at h ⊢
          by_cases habove : name = ['.', '.']
          · rw [if_pos habove] at h ⊢
            exact (Except.ok.inj h).symm
          rw [if_neg habove] at h ⊢
          by_cases hlong : (String.ofList name).utf8ByteSize > nameLimit
          · rw [if_pos hlong] at h
            exact nomatch h
          · rw [if_neg hlong] at h
            exact (Except.ok.inj h).symm

/-- So do several steps, one after the other. -/
theorem foldlM_step_eq_ok {names : List (List Char)} {next : DiskPlace}
    (h : names.foldlM disk.step place = .ok next) : next = names.foldl goTo place := by
  induction names generalizing place with
  | nil => exact (Except.ok.inj h).symm
  | cons name names ih =>
      rw [List.foldlM_cons] at h
      cases hstep : disk.step place name with
      | error e =>
          rw [hstep] at h
          exact nomatch h
      | ok next' =>
          rw [hstep] at h
          rw [List.foldl_cons, ← step_eq_ok hstep]
          exact ih h

/-- A path leads to its place, if it leads anywhere. -/
theorem locate_eq_ok {path : String} (h : disk.locate path = .ok place) :
    place = placeOf disk.working path := by
  unfold locate at h
  unfold placeOf
  by_cases hempty : path.isEmpty = true
  · rw [if_pos hempty] at h
    exact nomatch h
  rw [if_neg hempty] at h
  by_cases hlong : path.utf8ByteSize ≥ pathLimit
  · rw [if_pos hlong] at h
    exact nomatch h
  rw [if_neg hlong] at h
  dsimp only at h
  by_cases habsolute : Path.isAbsolute path.toList = true
  · rw [if_pos habsolute] at h ⊢
    exact foldlM_step_eq_ok h
  · rw [if_neg habsolute] at h ⊢
    exact foldlM_step_eq_ok h

/-- What is set at a place is found there, and other places are as before. -/
theorem entry?_set (hplace : place ≠ []) (entry : DiskEntry) (other : DiskPlace) :
    entry? (disk.set place entry) other =
      if place = other then some entry else disk.entry? other := by
  cases other with
  | nil => exact (if_neg hplace).symm
  | cons name names => exact OrderedMap.get?_insert _ _ _ _

theorem ne_root (h : disk.entry? place ≠ some .directory) : place ≠ [] := by
  rintro rfl
  exact h rfl

/-- A file has its content in its place and changes no other. -/
theorem contents_set_file (hplace : place ≠ []) (content : ByteArray) :
    (disk.set place (.file content)).contents =
      { disk.contents with
        content? := Function.update disk.contents.content? place (some content) } := by
  have hcontent : ∀ other, (disk.set place (.file content)).contents.content? other =
      Function.update disk.contents.content? place (some content) other := by
    intro other
    unfold contents
    dsimp only
    rw [entry?_set hplace]
    -- One place has another content; at all others both disks have the same entry.
    by_cases hother : place = other
    · rw [if_pos hother, hother, Function.update_self]
      rfl
    · rw [if_neg hother, Function.update_of_ne (Ne.symm hother)]
  exact congrArg (Contents.mk disk.working) (funext hcontent)

/-- A directory where nothing was changes no content. -/
theorem contents_set_directory (h : disk.entry? place = none) :
    (disk.set place .directory).contents = disk.contents := by
  have hcontent : ∀ other, (disk.set place .directory).contents.content? other =
      disk.contents.content? other := by
    intro other
    unfold contents
    dsimp only
    rw [entry?_set (ne_root (by rw [h]; exact nofun))]
    by_cases hother : place = other
    · rw [if_pos hother, ← hother, h]
      rfl
    · rw [if_neg hother]
  exact congrArg (Contents.mk disk.working) (funext hcontent)

variable {disk' : Disk} {path text : String}

theorem exists_of_bind_eq_ok {ε α β : Type} {x : Except ε α} {f : α → Except ε β} {b : β}
    (h : x >>= f = .ok b) : ∃ a, x = .ok a ∧ f a = .ok b := by
  cases x with
  | error e => exact nomatch h
  | ok a => exact ⟨a, rfl, h⟩

/-- A text is written to the place of its path, unless a directory is there. -/
theorem write_eq_ok (h : disk.write path text = .ok disk') :
    ∃ place, disk.locate path = .ok place ∧ disk.entry? place ≠ some .directory ∧
      disk' = disk.set place (.file text.toUTF8) := by
  rcases exists_of_bind_eq_ok h with ⟨place, hplace, hset⟩
  refine ⟨place, hplace, ?_⟩
  cases hentry : disk.entry? place with
  | none =>
      rw [hentry] at hset
      exact ⟨nofun, (Except.ok.inj hset).symm⟩
  | some entry =>
      rw [hentry] at hset
      cases entry with
      | directory => exact nomatch hset
      | file _ => exact ⟨nofun, (Except.ok.inj hset).symm⟩

/-- A directory is created where nothing is. -/
theorem makeDirectory_eq_ok (h : disk.makeDirectory path = .ok disk') :
    ∃ place, disk.entry? place = none ∧ disk' = disk.set place .directory := by
  rcases exists_of_bind_eq_ok h with ⟨place, -, hset⟩
  refine ⟨place, ?_⟩
  cases hentry : disk.entry? place with
  | none =>
      rw [hentry] at hset
      exact ⟨rfl, (Except.ok.inj hset).symm⟩
  | some entry =>
      rw [hentry] at hset
      exact nomatch hset

/-- Writing a text puts it in the place of its path. -/
theorem contents_write (h : disk.write path text = .ok disk') :
    disk'.contents = disk.contents.put { path, text } := by
  rcases write_eq_ok h with ⟨place, hplace, hentry, rfl⟩
  rw [contents_set_file (ne_root hentry), locate_eq_ok hplace]
  rfl

/-- Creating a directory changes no file. -/
theorem contents_makeDirectory (h : disk.makeDirectory path = .ok disk') :
    disk'.contents = disk.contents := by
  rcases makeDirectory_eq_ok h with ⟨place, hentry, rfl⟩
  exact contents_set_directory hentry

/-- An action that changes the disk, or fails and does not. -/
theorem change_cases (act : Disk → Except FileError Disk) (session : Session) :
    (∃ disk, act session.disk = .ok disk ∧
        (Session.change act).run session = (.ok (), { session with disk })) ∨
      ∃ e, act session.disk = .error e ∧
        (Session.change act).run session = (.error e, session) := by
  cases hact : act session.disk with
  | ok disk =>
      refine Or.inl ⟨disk, rfl, ?_⟩
      change Session.change act session = _
      rw [Session.change, hact]
  | error e =>
      refine Or.inr ⟨e, rfl, ?_⟩
      change Session.change act session = _
      rw [Session.change, hact]

/-- The files of a disk are its contents: nothing but a text that is written changes them,
    and it only changes one. -/
theorem host_keepsFiles : host.KeepsFiles (fun session => session.disk.contents) Contents.put where
  read := fun _ _ => rfl
  isDirectory := fun _ _ => rfl
  report := fun _ _ => rfl
  -- Whatever becomes of the directory, the contents are the same.
  makeDirectory := fun path session => by
    change ((Session.change (·.makeDirectory path)).run session).2.disk.contents = _
    rcases change_cases (·.makeDirectory path) session with ⟨disk, hok, hrun⟩ | ⟨e, -, hrun⟩
    · rw [hrun]
      exact contents_makeDirectory hok
    · rw [hrun]
  written := fun path text session hanswer => by
    change ((Session.change (·.write path text)).run session).1 = _ at hanswer
    change ((Session.change (·.write path text)).run session).2.disk.contents = _
    rcases change_cases (·.write path text) session with ⟨disk, hok, hrun⟩ | ⟨e, -, hrun⟩
    · rw [hrun]
      exact contents_write hok
    -- A text that was not written is reported as an error, and this one was written.
    · rw [hrun] at hanswer
      exact nomatch hanswer
  not_written := fun path text session e hanswer => by
    change ((Session.change (·.write path text)).run session).1 = _ at hanswer
    change ((Session.change (·.write path text)).run session).2.disk.contents = _
    rcases change_cases (·.write path text) session with ⟨disk, -, hrun⟩ | ⟨e', -, hrun⟩
    · rw [hrun] at hanswer
      exact nomatch hanswer
    · rw [hrun]

/-- A run on a disk puts the files that it writes in their places, one after the other,
    and leaves all others as they were. -/
theorem run_contents (a : Arguments) (session : Session) :
    (((Request.run a).perform host.recording).run { system := session }).2.system.disk.contents =
      (((Request.run a).perform host.recording).run { system := session }).2.written.foldl
        Contents.put session.disk.contents :=
  perform_files host_keepsFiles a session

end Disk

end RouteTypes
