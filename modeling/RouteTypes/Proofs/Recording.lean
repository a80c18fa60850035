import RouteTypes.Run

/-!
# Recorded Runs

A run that keeps a record of the files it writes.

The actions of a host are all that a run does to the world, so what it writes can be
observed without changing it: the same host is used, and whenever it has written a file,
the file is put on a record (`Host.recording`). Nothing reads the record, so a recorded
run gives the same answers and leaves the same system (`Writes`).

That is shown along the steps of a run, and with it what becomes of the files of the
system. Which files a system has is left open: any view of it will do that changes with a
file that was written, and with nothing else (`Host.KeepsFiles`). Where it is only asked
what was written, the view with nothing in it serves.

Almost everything in a run writes nothing (`Quiet`): reading, creating directories,
reporting, and so the targets of a run and the compilation of each.

## Main definitions

* `Recorded`, `Host.recording`: A system with a record, and the host that keeps it.
* `Host.KeepsFiles`: The files of a system change only where one is written.
* `Writes`, `Quiet`: What a computation writes.
* `WritesFront`: The computation writes planned files in their order.

## Theorems

* `Writes.bind`, `Writes.exceptBind_ok`: What is written one after the other.
* `createFirst_quiet`: Creating directories writes no file.
* `compile_quiet`, `targets_quiet`: Neither does compiling, or finding the targets.
* `answer_exceptBind`, `answer_follow`: The answers of a sequence and of a compilation.
* `writeModules_writesFront`: Planned modules are written in their order, up to a failure.
-/

namespace RouteTypes

/-- A system in use, and the files that were written to it so far. -/
structure Recorded (σ : Type) where
  system : σ
  written : List PlannedFile := []

section Hosts

variable {σ α : Type}

namespace Recorded

/-- An action that writes no file. -/
def lift (action : StateM σ α) : StateM (Recorded σ) α := fun r =>
  ((action.run r.system).1, { r with system := (action.run r.system).2 })

/-- The files on the record after an attempt to write one. -/
def after (file : PlannedFile) (answer : Except FileError Unit) : List PlannedFile :=
  match answer with
  | .ok () => [file]
  | .error _ => []

/-- An attempt to write a file, which is put on the record when it succeeds. -/
def attempt (file : PlannedFile) (action : StateM σ (Except FileError Unit)) :
    StateM (Recorded σ) (Except FileError Unit) := fun r =>
  ((action.run r.system).1,
    { system := (action.run r.system).2
      written := r.written ++ after file (action.run r.system).1 })

end Recorded

namespace Host

/-- The same host, with a record of the files that are written. -/
def recording (host : Host (StateM σ)) : Host (StateM (Recorded σ)) where
  read path := Recorded.lift (host.read path)
  write path text := Recorded.attempt { path, text } (host.write path text)
  makeDirectory path := Recorded.lift (host.makeDirectory path)
  isDirectory path := Recorded.lift (host.isDirectory path)
  report event := Recorded.lift (host.report event)

/-- The view shows the files of the system: it changes with a file that is written, as
    this file is put there, and with nothing else. -/
structure KeepsFiles {φ : Type} (host : Host (StateM σ)) (files : σ → φ)
    (put : φ → PlannedFile → φ) : Prop where
  read : ∀ path s, files ((host.read path).run s).2 = files s
  makeDirectory : ∀ path s, files ((host.makeDirectory path).run s).2 = files s
  isDirectory : ∀ path s, files ((host.isDirectory path).run s).2 = files s
  report : ∀ event s, files ((host.report event).run s).2 = files s
  written : ∀ path text s, ((host.write path text).run s).1 = .ok () →
    files ((host.write path text).run s).2 = put (files s) { path, text }
  not_written : ∀ path text s e, ((host.write path text).run s).1 = .error e →
    files ((host.write path text).run s).2 = files s

/-- Of any host no files can be shown. -/
theorem keepsFiles_nothing (host : Host (StateM σ)) :
    host.KeepsFiles (fun _ => ()) fun _ _ => () where
  read := fun _ _ => rfl
  makeDirectory := fun _ _ => rfl
  isDirectory := fun _ _ => rfl
  report := fun _ _ => rfl
  written := fun _ _ _ _ => rfl
  not_written := fun _ _ _ _ _ => rfl

end Host

end Hosts

section Writing

variable {σ φ α β ε : Type} (files : σ → φ) (put : φ → PlannedFile → φ)

/-- From a state, the recorded computation does what the computation does, and puts some
    files on the record. They are what changes in view. -/
structure Writes (x : StateM σ α) (y : StateM (Recorded σ) α) (s : σ)
    (new : List PlannedFile) : Prop where
  recorded : ∀ earlier, y.run { system := s, written := earlier } =
    ((x.run s).1, { system := (x.run s).2, written := earlier ++ new })
  changed : files (x.run s).2 = new.foldl put (files s)

/-- The computation writes nothing, from any state. -/
def Quiet (x : StateM σ α) (y : StateM (Recorded σ) α) : Prop :=
  ∀ s, Writes files put x y s []

end Writing

section Rules

variable {σ φ α β ε : Type} {files : σ → φ} {put : φ → PlannedFile → φ}
  {s : σ} {new more : List PlannedFile}

theorem run_stateBind {τ : Type} (x : StateM τ α) (f : α → StateM τ β) (s : τ) :
    (x >>= f).run s = (f (x.run s).1).run (x.run s).2 := rfl

/-- What is written one after the other. -/
theorem Writes.bind {x : StateM σ α} {y : StateM (Recorded σ) α} {f : α → StateM σ β}
    {g : α → StateM (Recorded σ) β} (hx : Writes files put x y s new)
    (hf : Writes files put (f (x.run s).1) (g (x.run s).1) (x.run s).2 more) :
    Writes files put (x >>= f) (y >>= g) s (new ++ more) where
  recorded := fun earlier => by
    rw [run_stateBind, hx.recorded, hf.recorded, List.append_assoc, run_stateBind]
  changed := by
    rw [run_stateBind, hf.changed, hx.changed, List.foldl_append]

theorem Quiet.pure (a : α) : Quiet files put (Pure.pure a) (Pure.pure a) := fun s =>
  { recorded := fun earlier => by rw [List.append_nil]; rfl
    changed := rfl }

theorem Quiet.bind {x : StateM σ α} {y : StateM (Recorded σ) α} {f : α → StateM σ β}
    {g : α → StateM (Recorded σ) β} (hx : Quiet files put x y)
    (hf : ∀ a, Quiet files put (f a) (g a)) : Quiet files put (x >>= f) (y >>= g) :=
  fun s => (hx s).bind (hf _ _)

/-- An action that leaves what is in view writes nothing. -/
theorem Quiet.lift {x : StateM σ α} (h : ∀ s, files (x.run s).2 = files s) :
    Quiet files put x (Recorded.lift x) := fun s =>
  { recorded := fun earlier => by rw [List.append_nil]; rfl
    changed := h s }

section Failing

variable {x : ExceptT ε (StateM σ) α} {y : ExceptT ε (StateM (Recorded σ)) α}
  {f : α → ExceptT ε (StateM σ) β} {g : α → ExceptT ε (StateM (Recorded σ)) β}

/-- A computation that fails is not gone on with. -/
theorem Writes.exceptBind_error {e : ε} (hx : Writes files put x.run y.run s new)
    (he : (x.run.run s).1 = .error e) :
    Writes files put (x >>= f).run (y >>= g).run s new := by
  have hbind : Writes files put (x >>= f).run (y >>= g).run s (new ++ []) := by
    rw [ExceptT.run_bind, ExceptT.run_bind]
    -- What is left is to hand the error on.
    refine hx.bind ?_
    rw [he]
    exact Quiet.pure _ _
  rwa [List.append_nil] at hbind

/-- A computation that succeeds is gone on with, and both write what they write. -/
theorem Writes.exceptBind_ok {a : α} (hx : Writes files put x.run y.run s new)
    (ha : (x.run.run s).1 = .ok a)
    (hf : Writes files put (f a).run (g a).run (x.run.run s).2 more) :
    Writes files put (x >>= f).run (y >>= g).run s (new ++ more) := by
  rw [ExceptT.run_bind, ExceptT.run_bind]
  refine hx.bind ?_
  rw [ha]
  exact hf

/-- Two that write nothing do so together, even if the first fails. -/
theorem Quiet.exceptBind (hx : Quiet files put x.run y.run)
    (hf : ∀ a, Quiet files put (f a).run (g a).run) :
    Quiet files put (x >>= f).run (y >>= g).run := by
  rw [ExceptT.run_bind, ExceptT.run_bind]
  refine hx.bind fun answer => ?_
  cases answer with
  | error e =>
      -- The error is handed on, and that is all.
      exact Quiet.pure _
  | ok a => exact hf a

/-- An action writes the same as a part of a computation that can fail. -/
theorem Writes.monadLift {x : StateM σ α} {y : StateM (Recorded σ) α}
    (h : Writes files put x y s new) :
    Writes files put (liftM x : ExceptT ε (StateM σ) α).run
      (liftM y : ExceptT ε (StateM (Recorded σ)) α).run s new := by
  have hbind : Writes files put (x >>= fun a => Pure.pure (Except.ok a : Except ε α))
      (y >>= fun a => Pure.pure (Except.ok a : Except ε α)) s (new ++ []) :=
    h.bind (Quiet.pure _ _)
  rw [List.append_nil] at hbind
  exact hbind

theorem Quiet.monadLift {x : StateM σ α} {y : StateM (Recorded σ) α} (h : Quiet files put x y) :
    Quiet files put (liftM x : ExceptT ε (StateM σ) α).run
      (liftM y : ExceptT ε (StateM (Recorded σ)) α).run :=
  fun s => (h s).monadLift

end Failing

end Rules

section Reading

variable {σ φ α : Type} {files : σ → φ} {put : φ → PlannedFile → φ} {host : Host (StateM σ)}

/-- Reading a file writes none. -/
theorem readText_quiet (h : host.KeepsFiles files put) (path : String) :
    Quiet files put (host.readText path) (host.recording.readText path) := by
  unfold Host.readText
  by_cases hpath : (!Path.isPossible path) = true
  · rw [if_pos hpath, if_pos hpath]
    exact Quiet.pure _
  · rw [if_neg hpath, if_neg hpath]
    refine Quiet.bind (Quiet.lift (h.read path)) fun answer => ?_
    cases answer with
    | error e => exact Quiet.pure _
    | ok bytes =>
        dsimp only
        cases String.fromUTF8? bytes with
        | none => exact Quiet.pure _
        | some text => exact Quiet.pure _

/-- Asking for a directory writes no file. -/
theorem orDirectory_quiet (h : host.KeepsFiles files put) (path : String) (error : FileError) :
    Quiet files put (host.orDirectory path error) (host.recording.orDirectory path error) := by
  unfold Host.orDirectory
  refine Quiet.bind (Quiet.lift (h.isDirectory path)) fun isDirectory => ?_
  cases isDirectory with
  | false => exact Quiet.pure _
  | true => exact Quiet.pure _

/-- Creating directories writes no file, however many of them are missing. -/
theorem createFirst_quiet (h : host.KeepsFiles files put) (paths : List String) :
    Quiet files put (host.createFirst paths) (host.recording.createFirst paths) := by
  induction paths with
  | nil => exact Quiet.pure _
  | cons path holders ih =>
      unfold Host.createFirst
      refine Quiet.bind (Quiet.lift (h.makeDirectory path)) fun answer => ?_
      cases answer with
      | ok _ => exact Quiet.pure _
      | error e =>
          cases e with
          | system e =>
              cases e with
              | missing =>
                  -- The directories that hold it come first, then it is tried again.
                  refine Quiet.bind ih fun answer => ?_
                  cases answer with
                  | error e => exact Quiet.pure _
                  | ok _ =>
                      refine Quiet.bind (Quiet.lift (h.makeDirectory path)) fun answer => ?_
                      cases answer with
                      | ok _ => exact Quiet.pure _
                      | error e => exact orDirectory_quiet h path e
              -- For any other error it is only asked if the directory is there.
              | denied | alreadyExists | notDirectory | isDirectory | nameTooLong =>
                  exact orDirectory_quiet h path _
          | notText | nulInName | unknown => exact orDirectory_quiet h path _

/-- Neither does creating a directory with all that hold it. -/
theorem createDirectories_quiet (h : host.KeepsFiles files put) (path : String) :
    Quiet files put (host.createDirectories path) (host.recording.createDirectories path) := by
  unfold Host.createDirectories
  by_cases hpath : Path.isPossible path = true
  · rw [if_pos hpath, if_pos hpath]
    exact createFirst_quiet h _
  · rw [if_neg hpath, if_neg hpath]
    exact Quiet.pure _

theorem report_quiet (h : host.KeepsFiles files put) (event : RunEvent) :
    Quiet files put (host.report event) (host.recording.report event) :=
  Quiet.lift (h.report event)

/-- To demand the answer of an action writes what the action does. -/
theorem Writes.demand {x : StateM σ (Except FileError α)}
    {y : StateM (Recorded σ) (Except FileError α)} {s : σ} {new : List PlannedFile}
    (hx : Writes files put x y s new) (error : FileError → RunError) :
    Writes files put (Host.demand error x).run (Host.demand error y).run s new := by
  have hdemand : Writes files put (Host.demand error x).run (Host.demand error y).run s
      (new ++ []) := by
    refine hx.monadLift.exceptBind_ok (a := (x.run s).1) rfl ?_
    -- The value is taken out of the answer, or the error is given another name.
    cases (x.run s).1 with
    | ok value => exact Quiet.pure _ _
    | error e => exact Quiet.pure _ _
  rwa [List.append_nil] at hdemand

/-- An action that writes nothing does so when its answer is demanded. -/
theorem demand_quiet {x : StateM σ (Except FileError α)}
    {y : StateM (Recorded σ) (Except FileError α)} (error : FileError → RunError)
    (hx : Quiet files put x y) :
    Quiet files put (Host.demand error x).run (Host.demand error y).run :=
  fun s => (hx s).demand error

/-- Following a computation reports its events, and that is all it does. -/
theorem follow_quiet (h : host.KeepsFiles files put) {ω ε : Type} (event : ω → RunEvent)
    (error : ε → RunError) (computation : Logged ω ε α) :
    Quiet files put (host.follow event error computation).run
      (host.recording.follow event error computation).run := by
  have hevents : ∀ events : List ω,
      Quiet files put
        (events.forM fun e => liftM (host.report (event e)) : ExceptT RunError (StateM σ) Unit).run
        (events.forM fun e => liftM (host.recording.report (event e)) :
          ExceptT RunError (StateM (Recorded σ)) Unit).run := by
    intro events
    -- One report for each event, in their order.
    induction events with
    | nil => exact Quiet.pure _
    | cons e events ih =>
        exact Quiet.exceptBind (Quiet.monadLift (report_quiet h (event e))) fun _ => ih
  refine Quiet.exceptBind (hevents _) fun _ => ?_
  cases computation.outcome with
  | ok value => exact Quiet.pure _
  | error e => exact Quiet.pure _

/-- Reading and compiling a document writes no file, whether it succeeds or not. -/
theorem compile_quiet (h : host.KeepsFiles files put) (target : Target) :
    Quiet files put (target.compile host).run (target.compile host.recording).run := by
  refine Quiet.exceptBind (demand_quiet _ (readText_quiet h _)) fun text => ?_
  refine Quiet.exceptBind (Quiet.monadLift (report_quiet h _)) fun _ => ?_
  exact Quiet.exceptBind (follow_quiet h _ _ _) fun document => follow_quiet h _ _ _

/-- Neither does finding the targets. -/
theorem targets_quiet (h : host.KeepsFiles files put) (a : Arguments) :
    Quiet files put (a.targets host).run (a.targets host.recording).run := by
  unfold Arguments.targets
  cases a.inputFile with
  | some inputFile =>
      dsimp only
      cases resolveTargets [{ inputFile }] "" a.overrides with
      | ok targets => exact Quiet.pure _
      | error e => exact Quiet.pure _
  | none =>
      refine Quiet.exceptBind (demand_quiet _ (readText_quiet h _)) fun text => ?_
      cases entriesOfToml text with
      | none => exact Quiet.pure _
      | some entries =>
          dsimp only
          cases resolveTargets entries ((Path.parent? (a.config.getD defaultConfig)).getD "")
              a.overrides with
          | ok targets => exact Quiet.pure _
          | error e => exact Quiet.pure _

end Reading

section Modules

variable {σ φ α β : Type} {files : σ → φ} {put : φ → PlannedFile → φ} {host : Host (StateM σ)}
  {s : σ}

theorem run_exceptBind_ok {ε : Type} {x : ExceptT ε (StateM σ) α} {f : α → ExceptT ε (StateM σ) β}
    {a : α} (ha : (x.run.run s).1 = .ok a) :
    (x >>= f).run.run s = (f a).run.run (x.run.run s).2 := by
  rw [ExceptT.run_bind, run_stateBind, ha]

/-- A computation that fails ends the sequence. -/
theorem run_exceptBind_error {ε : Type} {x : ExceptT ε (StateM σ) α}
    {f : α → ExceptT ε (StateM σ) β} {e : ε} (he : (x.run.run s).1 = .error e) :
    (x >>= f).run.run s = (.error e, (x.run.run s).2) := by
  rw [ExceptT.run_bind, run_stateBind, he]
  rfl

/-- The answer of a sequence: that of its first part, or else that of the second from the
    state that the first one leaves. -/
theorem answer_exceptBind {ε : Type} (x : ExceptT ε (StateM σ) α) (f : α → ExceptT ε (StateM σ) β)
    (s : σ) : ((x >>= f).run.run s).1 =
      (x.run.run s).1.bind fun a => ((f a).run.run (x.run.run s).2).1 := by
  cases hanswer : (x.run.run s).1 with
  | error e => rw [run_exceptBind_error hanswer]; rfl
  | ok a => rw [run_exceptBind_ok hanswer]; rfl

/-- To rename its errors leaves an answer that is a value as it is. -/
theorem mapError_eq_ok_iff {ε ε' : Type} {answer : Except ε α} {g : ε → ε'} {a : α} :
    answer.mapError g = .ok a ↔ answer = .ok a := by
  cases answer with
  | error e => exact ⟨nofun, nofun⟩
  | ok b =>
      refine ⟨fun h => ?_, fun h => ?_⟩
      · exact congrArg Except.ok (Except.ok.inj h)
      · exact congrArg Except.ok (Except.ok.inj h)

/-- An answer whose errors are renamed is gone on with for its value only. -/
theorem mapError_bind_eq_ok_iff {ε ε' : Type} {answer : Except ε α} {g : ε → ε'}
    {f : α → Except ε' β} {b : β} :
    (answer.mapError g).bind f = .ok b ↔ ∃ a, answer = .ok a ∧ f a = .ok b := by
  cases answer with
  | error e => exact ⟨nofun, fun ⟨a, ha, _⟩ => nomatch ha⟩
  | ok a => exact ⟨fun h => ⟨a, rfl, h⟩, fun ⟨a', ha, hb⟩ => Except.ok.inj ha ▸ hb⟩

/-- From a state, the computation writes the planned files in their order: all of them
    when it succeeds, and not all when it fails. -/
def WritesFront (files : σ → φ) (put : φ → PlannedFile → φ) (x : ExceptT RunError (StateM σ) α)
    (y : ExceptT RunError (StateM (Recorded σ)) α) (s : σ) (planned : List PlannedFile) : Prop :=
  ∃ new, Writes files put x.run y.run s new ∧
    (((∃ a, (x.run.run s).1 = .ok a) ∧ new = planned) ∨
      (∃ e, (x.run.run s).1 = .error e) ∧ new <+: planned ∧ new ≠ planned)

variable {x : ExceptT RunError (StateM σ) α} {y : ExceptT RunError (StateM (Recorded σ)) α}
  {f : α → ExceptT RunError (StateM σ) β} {g : α → ExceptT RunError (StateM (Recorded σ)) β}
  {planned more : List PlannedFile}

theorem WritesFront.monadLift {x : StateM σ α} {y : StateM (Recorded σ) α}
    (h : Quiet files put x y) :
    WritesFront files put (liftM x) (liftM y) s [] :=
  ⟨[], h.monadLift s, Or.inl ⟨⟨(x.run s).1, rfl⟩, rfl⟩⟩

/-- First the one front is written and then the other, unless the first falls short. -/
theorem WritesFront.bind (hx : WritesFront files put x y s planned)
    (hf : ∀ a, (x.run.run s).1 = .ok a →
      WritesFront files put (f a) (g a) (x.run.run s).2 more) :
    WritesFront files put (x >>= f) (y >>= g) s (planned ++ more) := by
  rcases hx with ⟨new, hwrites, ⟨⟨a, ha⟩, rfl⟩ | ⟨⟨e, he⟩, hfront, hne⟩⟩
  · -- All of the first front is written, and some of the second.
    rcases hf a ha with ⟨later, hlater, hend⟩
    refine ⟨new ++ later, hwrites.exceptBind_ok ha hlater, ?_⟩
    rw [run_exceptBind_ok ha, List.prefix_append_right_inj, ne_eq, List.append_cancel_left_eq]
    exact hend.imp_left fun hok => ⟨hok.1, by rw [hok.2]⟩
  · refine ⟨new, hwrites.exceptBind_error he, Or.inr ⟨⟨e, ?_⟩, ?_, ?_⟩⟩
    · rw [run_exceptBind_error he]
    · exact hfront.trans (List.prefix_append _ _)
    · -- What falls short of the first front is shorter than both together.
      rintro rfl
      exact hne (hfront.eq_of_length_le (by rw [List.length_append]; omega))

/-- What is done before and succeeds changes nothing, if it writes nothing. -/
theorem WritesFront.after_quiet {a : α} (hx : Quiet files put x.run y.run)
    (ha : (x.run.run s).1 = .ok a)
    (hf : WritesFront files put (f a) (g a) (x.run.run s).2 planned) :
    WritesFront files put (x >>= f) (y >>= g) s planned := by
  rcases hf with ⟨new, hnew, hend⟩
  refine ⟨new, (hx s).exceptBind_ok ha hnew, ?_⟩
  rw [run_exceptBind_ok ha]
  exact hend

/-- What is reported afterwards adds nothing. -/
theorem WritesFront.reported (h : host.KeepsFiles files put) (event : RunEvent)
    (hx : WritesFront files put x y s planned) :
    WritesFront files put (x >>= fun _ => liftM (host.report event))
      (y >>= fun _ => liftM (host.recording.report event)) s planned := by
  have hboth : WritesFront files put (x >>= fun _ => liftM (host.report event))
      (y >>= fun _ => liftM (host.recording.report event)) s (planned ++ []) :=
    hx.bind fun _ _ => .monadLift (report_quiet h event)
  rwa [List.append_nil] at hboth

/-- Where something is planned, it may also fail. -/
theorem WritesFront.of_quiet (hx : Quiet files put x.run y.run) (hplanned : planned ≠ [])
    (hf : ∀ a, (x.run.run s).1 = .ok a →
      WritesFront files put (f a) (g a) (x.run.run s).2 planned) :
    WritesFront files put (x >>= f) (y >>= g) s planned := by
  cases hanswer : (x.run.run s).1 with
  -- With the first action the writing ends, so the front is empty.
  | error e =>
      refine ⟨[], (hx s).exceptBind_error hanswer, Or.inr ⟨⟨e, ?_⟩, List.nil_prefix, hplanned.symm⟩⟩
      rw [run_exceptBind_error hanswer]
  | ok a => exact .after_quiet hx hanswer (hf a hanswer)

/-- To demand an answer renames its error, and does nothing else than the action. -/
theorem run_demand {action : StateM σ (Except FileError α)} (error : FileError → RunError) :
    (Host.demand error action).run.run s =
      (((action.run s).1.mapError error), (action.run s).2) := by
  have hlift : ((liftM action : ExceptT RunError (StateM σ) (Except FileError α)).run.run s) =
      (.ok (action.run s).1, (action.run s).2) := rfl
  unfold Host.demand
  rw [run_exceptBind_ok (congrArg Prod.fst hlift)]
  cases (action.run s).1 <;> rfl

/-- To go on with a computation reports its events, which cannot fail, so the answer is its
    outcome. -/
theorem answer_follow (host : Host (StateM σ)) {ω ε : Type} (event : ω → RunEvent)
    (error : ε → RunError) (computation : Logged ω ε α) (s : σ) :
    ((host.follow event error computation).run.run s).1 = computation.outcome.mapError error := by
  have hevents : ∀ (events : List ω) (s : σ),
      ((events.forM fun e => liftM (host.report (event e)) :
        ExceptT RunError (StateM σ) Unit).run.run s).1 = .ok () := by
    intro events
    induction events with
    | nil => exact fun _ => rfl
    | cons e events ih => exact fun s => ih ((host.report (event e)).run s).2
  unfold Host.follow
  rw [answer_exceptBind, hevents]
  cases computation.outcome <;> rfl

/-- A failed write leaves the record as it is, one that succeeds adds the file. -/
theorem writeText_writes (h : host.KeepsFiles files put) (file : PlannedFile) (s : σ) :
    Writes files put (host.writeText file.path file.text)
      (host.recording.writeText file.path file.text) s
      (Recorded.after file ((host.writeText file.path file.text).run s).1) := by
  unfold Host.writeText
  by_cases hpath : Path.isPossible file.path = true
  · rw [if_pos hpath, if_pos hpath]
    -- The record is kept right here, and what is in view follows the answer of the host.
    refine ⟨fun _ => rfl, ?_⟩
    cases hanswer : ((host.write file.path file.text).run s).1 with
    | ok _ => exact h.written file.path file.text s hanswer
    | error e => exact h.not_written file.path file.text s e hanswer
  · rw [if_neg hpath, if_neg hpath]
    exact Quiet.pure _ _

/-- Writing a text writes its file or nothing, which is as much as a front of one file can be.
    -/
theorem writeText_writesFront (h : host.KeepsFiles files put) (file : PlannedFile)
    (error : FileError → RunError) :
    WritesFront files put (Host.demand error (host.writeText file.path file.text))
      (Host.demand error (host.recording.writeText file.path file.text)) s [file] := by
  have hwrites := (writeText_writes h file s).demand error
  refine ⟨_, hwrites, ?_⟩
  rw [run_demand]
  cases ((host.writeText file.path file.text).run s).1 with
  | ok _ => exact Or.inl ⟨⟨_, rfl⟩, rfl⟩
  | error e => exact Or.inr ⟨⟨_, rfl⟩, List.nil_prefix, List.cons_ne_nil _ _ ∘ Eq.symm⟩

/-- A module that is written is the only file that is, and without it there is none. -/
theorem writeModule_writesFront (h : host.KeepsFiles files put) (file : PlannedFile) :
    WritesFront files put (host.writeModule file) (host.recording.writeModule file) s [file] := by
  unfold Host.writeModule
  cases Path.parent? file.path with
  | none => exact (writeText_writesFront h file _).reported h _
  | some directory =>
      exact .of_quiet (demand_quiet _ (createDirectories_quiet h _)) (List.cons_ne_nil _ _)
        fun _ _ => (writeText_writesFront h file _).reported h _

/-- The modules of a plan are written in their order, up to the first that fails. -/
theorem writeModules_writesFront (h : host.KeepsFiles files put) (plan : List PlannedFile) :
    WritesFront files put (plan.forM host.writeModule) (plan.forM host.recording.writeModule) s
      plan := by
  -- Each module leaves a state of its own, so the statement is about all of them.
  induction plan generalizing s with
  | nil => exact ⟨[], Quiet.pure _ s, Or.inl ⟨⟨_, rfl⟩, rfl⟩⟩
  | cons file plan ih => exact (writeModule_writesFront h file).bind fun _ _ => ih

end Modules

end RouteTypes
