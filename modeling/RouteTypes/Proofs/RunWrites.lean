import Mathlib.Data.List.Infix
import RouteTypes.Files.Disk
import RouteTypes.Proofs.Recording
import RouteTypes.Proofs.TargetResolution

/-!
# What a Run Writes

The files of a run, also of one that fails.

Each target of a run has its turn, until one fails. What it compiles to is decided in its
turn, by the system as the earlier targets have left it: the document may lie in their
output. So a run is told by its turns (`turns`), and it goes on in one of three ways
(`Course`). All targets have a turn, and everything planned is written. Or a target does not
compile, which leaves nothing of it, because the first of its files is written after the
last thing that could be wrong with its document. Or a file is not written, and then what
was written before it is all there is.

The induction is along the targets, with a turn as the step. A run on the command line
adds the search for its targets, which writes nothing and fails as a whole when the
settings of one target do not resolve.

## Main definitions

* `Turn`, `turns`: The targets that have a turn, and what each compiles to.
* `planned`: The files that turns plan.
* `Course`: The ways in which a run goes on through its targets.
* `Arguments.Lists`: The entries that the targets are made of.
* `WritesAsPlanned`: What a run writes, how it ends, and what the files are then.

## Theorems

* `Target.compiledIn_eq_ok_iff`: When a target compiles in its turn.
* `generate_error`, `generate_writesFront`: The two ways of a turn.
* `generateAll_course`: The course of a run through its targets.
* `Course.front`, `Course.of_compiled_eq_error`, `Course.eq_ok_iff`: What a course says.
* `exists_resolveTargets_eq_error`: One entry that does not resolve leaves no targets.
* `perform_files`: The files after a run.
* `run_writesAsPlanned`: A run writes what is planned.
-/

namespace RouteTypes

section Turns

variable {σ : Type}

/-- What a target compiles to when its turn comes. -/
def Target.compiledIn (target : Target) (host : Host (StateM σ)) (s : σ) :
    Except RunError Compilation :=
  ((target.compile host).run.run ((host.report (.started target)).run s).2).1

/-- What that is follows from three answers: the text of the document as it is read then, the
    document in it, and what the document compiles to. The first that is an error ends it. -/
theorem Target.compiledIn_eq (target : Target) (host : Host (StateM σ)) (s : σ) :
    target.compiledIn host s =
      (((host.readText target.inputFile).run
          ((host.report (.started target)).run s).2).1.mapError
            (.unreadableDocument target.inputFile)).bind fun text =>
        ((Document.read target.format text).outcome.mapError
          (.invalidDocument target.inputFile)).bind fun document =>
        (document.compile target.options).outcome.mapError (.uncompiled target.inputFile) := by
  unfold Target.compiledIn Target.compile
  rw [answer_exceptBind, run_demand]
  -- The text is the first answer, and what follows depends on it alone.
  refine congrArg (Except.bind _) (funext fun text => ?_)
  -- The report in between has the answer that everything is well.
  rw [answer_exceptBind]
  change (((host.follow _ _ (Document.read target.format text)) >>= fun document =>
    host.follow _ _ (document.compile target.options)).run.run _).1 = _
  rw [answer_exceptBind, answer_follow]
  refine congrArg (Except.bind _) (funext fun document => ?_)
  exact answer_follow host _ _ _ _

/-- A target compiles in its turn exactly when its text is read then, a document is read from
    the text, and the document compiles with the choices of the target. -/
theorem Target.compiledIn_eq_ok_iff {target : Target} {host : Host (StateM σ)} {s : σ}
    {compilation : Compilation} :
    target.compiledIn host s = .ok compilation ↔ ∃ text document,
      ((host.readText target.inputFile).run ((host.report (.started target)).run s).2).1
          = .ok text ∧
        (Document.read target.format text).Yields document ∧
        (document.compile target.options).Yields compilation := by
  simp only [Target.compiledIn_eq, mapError_bind_eq_ok_iff, mapError_eq_ok_iff]
  exact exists_congr fun text => exists_and_left.symm

/-- A target that has its turn, and what it compiles to then. -/
structure Turn where
  target : Target
  compiled : Except RunError Compilation

/-- The files that a target plans in its turn. -/
def Turn.files (turn : Turn) : List PlannedFile :=
  match turn.compiled with
  | .ok compilation => compilation.plan turn.target.outputDirectory
  | .error _ => []

/-- The files that turns plan, one turn after the other. -/
def planned (turns : List Turn) : List PlannedFile :=
  turns.flatMap Turn.files

/-- The target compiles when its turn comes. -/
def Turn.Compiles (turn : Turn) : Prop :=
  ∃ compilation, turn.compiled = .ok compilation

/-- A target with an error does not compile. -/
theorem Turn.not_compiles {turn : Turn} {e : RunError} (h : turn.compiled = .error e) :
    ¬ turn.Compiles := by
  rintro ⟨compilation, hok⟩
  cases h.symm.trans hok

/-- The turns of some targets. The first target that fails has the last turn. -/
def turns (host : Host (StateM σ)) : List Target → σ → List Turn
  | [], _ => []
  | target :: rest, s =>
    { target, compiled := target.compiledIn host s } ::
      match ((target.generate host).run.run s).1 with
      | .ok _ => turns host rest ((target.generate host).run.run s).2
      | .error _ => []

/-- How a run goes on through its targets, given their turns and the files it writes. -/
inductive Course (turns : List Turn) (targets : List Target) (written : List PlannedFile) :
    Except RunError Unit → Prop where
  /-- Every target has a turn and compiles, and all its files are written. -/
  | done (hall : turns.map (·.target) = targets) (hcompiles : ∀ t ∈ turns, t.Compiles)
      (hwritten : written = planned turns) : Course turns targets written (.ok ())
  /-- The target with the last turn does not compile. -/
  | uncompiled (before : List Turn) {last : Turn} {e : RunError}
      (hturns : turns = before ++ [last]) (hlast : last.compiled = .error e)
      (hcompiles : ∀ t ∈ before, t.Compiles) (hwritten : written = planned before) :
      Course turns targets written (.error e)
  /-- All targets that have a turn compile, but not all their files are written. -/
  | unwritten {e : RunError} (hcompiles : ∀ t ∈ turns, t.Compiles)
      (hfront : written <+: planned turns) (hne : written ≠ planned turns) :
      Course turns targets written (.error e)

theorem planned_cons (turn : Turn) (turns : List Turn) :
    planned (turn :: turns) = turn.files ++ planned turns := List.flatMap_cons

/-- A target whose files are not all written is the last one, whatever was to follow. -/
theorem Course.of_unwritten {turn : Turn} {targets : List Target} {written : List PlannedFile}
    {e : RunError} (hturn : turn.Compiles) (hfront : written <+: turn.files)
    (hne : written ≠ turn.files) : Course [turn] targets written (.error e) := by
  -- With one turn only, nothing else is planned.
  have hplanned : planned [turn] = turn.files := by
    rw [planned_cons]
    exact List.append_nil _
  refine .unwritten (fun t ht => ?_) ?_ ?_
  · rw [List.mem_singleton.mp ht]
    exact hturn
  · rw [hplanned]
    exact hfront
  · rw [hplanned]
    exact hne

/-- A target whose files are written comes before the rest of its run. -/
theorem Course.cons {turn : Turn} {rest : List Turn} {targets : List Target}
    {written : List PlannedFile} {answer : Except RunError Unit} (hturn : turn.Compiles)
    (h : Course rest targets written answer) :
    Course (turn :: rest) (turn.target :: targets) (turn.files ++ written) answer := by
  cases h with
  | done hall hcompiles hwritten =>
      refine .done ?_ (List.forall_mem_cons.mpr ⟨hturn, hcompiles⟩) ?_
      · rw [List.map_cons, hall]
      · rw [planned_cons, hwritten]
  | uncompiled before hturns hlast hcompiles hwritten =>
      refine .uncompiled (turn :: before) ?_ hlast
        (List.forall_mem_cons.mpr ⟨hturn, hcompiles⟩) ?_
      · rw [hturns, List.cons_append]
      · rw [planned_cons, hwritten]
  | unwritten hcompiles hfront hne =>
      refine .unwritten (List.forall_mem_cons.mpr ⟨hturn, hcompiles⟩) ?_ ?_
      · rw [planned_cons]
        exact (List.prefix_append_right_inj _).mpr hfront
      · rw [planned_cons]
        exact fun heq => hne (List.append_cancel_left heq)

variable {host : Host (StateM σ)} {s : σ}

/-- The targets with a turn are the first ones. -/
theorem turns_targets (host : Host (StateM σ)) (targets : List Target) (s : σ) :
    (turns host targets s).map (·.target) <+: targets := by
  induction targets generalizing s with
  | nil => exact List.nil_prefix
  | cons target rest ih =>
      unfold turns
      rw [List.map_cons, List.prefix_cons_inj]
      cases ((target.generate host).run.run s).1 with
      | ok _ => exact ih _
      | error e => exact List.nil_prefix

/-- A target that succeeds hands over to the targets after it. -/
theorem turns_of_ok {target : Target} {rest : List Target}
    (h : ((target.generate host).run.run s).1 = .ok ()) :
    turns host (target :: rest) s = { target, compiled := target.compiledIn host s } ::
      turns host rest ((target.generate host).run.run s).2 := by
  rw [turns, h]

/-- One that fails leaves them no turn. -/
theorem turns_of_error {target : Target} {rest : List Target} {e : RunError}
    (h : ((target.generate host).run.run s).1 = .error e) :
    turns host (target :: rest) s = [{ target, compiled := target.compiledIn host s }] := by
  rw [turns, h]

variable {φ : Type} {files : σ → φ} {put : φ → PlannedFile → φ}

/-- A target that does not compile in its turn fails, and nothing is written. -/
theorem generate_error (h : host.KeepsFiles files put) {target : Target} {e : RunError}
    (he : target.compiledIn host s = .error e) :
    Writes files put (target.generate host).run (target.generate host.recording).run s [] ∧
      ((target.generate host).run.run s).1 = .error e := by
  have hstarted : Quiet files put
      (liftM (host.report (.started target)) : ExceptT RunError (StateM σ) Unit).run
      (liftM (host.recording.report (.started target)) :
        ExceptT RunError (StateM (Recorded σ)) Unit).run := (report_quiet h _).monadLift
  unfold Target.generate
  constructor
  · exact (hstarted s).exceptBind_ok rfl ((compile_quiet h target _).exceptBind_error he)
  · rw [run_exceptBind_ok (a := ()) rfl]
    exact congrArg Prod.fst (run_exceptBind_error he)

/-- One that compiles has its files written in their order, up to the first that fails. -/
theorem generate_writesFront (h : host.KeepsFiles files put) {target : Target}
    {compilation : Compilation} (hc : target.compiledIn host s = .ok compilation) :
    WritesFront files put (target.generate host) (target.generate host.recording) s
      (compilation.plan target.outputDirectory) := by
  unfold Target.generate
  -- Two steps that write nothing and succeed, then the files, then a report.
  refine .after_quiet (a := ()) (report_quiet h _).monadLift rfl ?_
  refine .after_quiet (compile_quiet h target) hc ?_
  exact (writeModules_writesFront h (compilation.plan target.outputDirectory)).reported h _

/-- The run through its targets takes one of the courses, by induction on the targets. -/
theorem generateAll_course (h : host.KeepsFiles files put) (targets : List Target) (s : σ) :
    ∃ written, Writes files put (targets.forM (·.generate host)).run
        (targets.forM (·.generate host.recording)).run s written ∧
      Course (turns host targets s) targets written
        ((targets.forM (·.generate host)).run.run s).1 := by
  induction targets generalizing s with
  | nil => exact ⟨[], Quiet.pure _ s, .done rfl (fun _ ht => absurd ht List.not_mem_nil) rfl⟩
  | cons target rest ih =>
      have hcons : (target :: rest).forM (·.generate host) =
          target.generate host >>= fun _ => rest.forM (·.generate host) := rfl
      cases hc : target.compiledIn host s with
      | error e =>
          -- The target has the last turn, and no target after it is started.
          rcases generate_error h hc with ⟨hwrites, hanswer⟩
          refine ⟨[], hwrites.exceptBind_error hanswer, ?_⟩
          rw [turns_of_error hanswer, hcons, run_exceptBind_error hanswer]
          exact .uncompiled [] rfl hc (fun _ ht => absurd ht List.not_mem_nil) rfl
      | ok compilation =>
          have hfiles : Turn.files { target, compiled := target.compiledIn host s } =
              compilation.plan target.outputDirectory := by rw [Turn.files, hc]
          rcases generate_writesFront h hc with
            ⟨new, hwrites, ⟨⟨⟨⟩, hanswer⟩, hnew⟩ | ⟨⟨e, hanswer⟩, hfront, hne⟩⟩
          · -- The other targets go on from the system that this one leaves.
            rcases ih ((target.generate host).run.run s).2 with ⟨written, hrest, hcourse⟩
            refine ⟨new ++ written, hwrites.exceptBind_ok hanswer hrest, ?_⟩
            rw [turns_of_ok hanswer, hcons, run_exceptBind_ok hanswer, hnew, ← hfiles]
            exact .cons ⟨compilation, hc⟩ hcourse
          · -- It compiles and has the last turn all the same, as a file is not written.
            refine ⟨new, hwrites.exceptBind_error hanswer, ?_⟩
            rw [turns_of_error hanswer, hcons, run_exceptBind_error hanswer]
            rw [← hfiles] at hfront hne
            exact .of_unwritten ⟨compilation, hc⟩ hfront hne

end Turns

section Courses

variable {turns : List Turn} {targets : List Target} {written : List PlannedFile}
  {answer : Except RunError Unit}

/-- What is written is a front of what is planned. -/
theorem Course.front (h : Course turns targets written answer) : written <+: planned turns := by
  cases h with
  | done _ _ hwritten => rw [hwritten]
  | uncompiled before hturns _ _ hwritten =>
      rw [hturns, hwritten, planned, planned, List.flatMap_append]
      exact List.prefix_append _ _
  | unwritten _ hfront _ => exact hfront

/-- A target that does not compile is the last one with a turn, and all before it compile
    and are written. -/
theorem Course.of_compiled_eq_error (h : Course turns targets written answer) {t : Turn}
    (ht : t ∈ turns) {e : RunError} (he : t.compiled = .error e) :
    ∃ before, turns = before ++ [t] ∧ (∀ t' ∈ before, t'.Compiles) ∧ answer = .error e ∧
      written = planned before := by
  cases h with
  | done _ hcompiles _ => exact absurd (hcompiles t ht) (Turn.not_compiles he)
  | unwritten hcompiles _ _ => exact absurd (hcompiles t ht) (Turn.not_compiles he)
  | @uncompiled before last e' hturns hlast hcompiles hwritten =>
      rw [hturns, List.mem_append, List.mem_singleton] at ht
      rcases ht with ht | rfl
      · exact absurd (hcompiles t ht) (Turn.not_compiles he)
      · cases he.symm.trans hlast
        exact ⟨before, hturns, hcompiles, rfl, hwritten⟩

/-- A run succeeds when all targets have had their turns, with nothing left unwritten. -/
theorem Course.eq_ok_iff (h : Course turns targets written answer) :
    answer = .ok () ↔ turns.map (·.target) = targets ∧ (∀ t ∈ turns, t.Compiles) ∧
      written = planned turns := by
  cases h with
  | done hall hcompiles hwritten => exact ⟨fun _ => ⟨hall, hcompiles, hwritten⟩, fun _ => rfl⟩
  | @uncompiled before last e hturns hlast _ _ =>
      refine ⟨nofun, fun hdone => ?_⟩
      -- The last turn did not compile, which is what a run that is done rules out.
      have hmem : last ∈ turns := by
        rw [hturns]
        exact List.mem_append_right _ List.mem_cons_self
      exact absurd (hdone.2.1 last hmem) (Turn.not_compiles hlast)
  | unwritten _ _ hne => exact ⟨nofun, fun hdone => absurd hdone.2.2 hne⟩

end Courses

section Runs

variable {σ : Type}

/-- The entries that the targets of a run are made of, and the directory from which their
    paths are seen: the document of the caller, or what a configuration lists. -/
inductive Arguments.Lists (a : Arguments) (host : Host (StateM σ)) (s : σ) :
    List TargetEntry → String → Prop where
  | document {inputFile : String} (hfile : a.inputFile = some inputFile) :
      Lists a host s [{ inputFile }] ""
  | configuration {text : String} {entries : List TargetEntry} (hfile : a.inputFile = none)
      (htext : ((host.readText (a.config.getD defaultConfig)).run s).1 = .ok text)
      (hentries : entriesOfToml text = some entries) :
      Lists a host s entries ((Path.parent? (a.config.getD defaultConfig)).getD "")

namespace Arguments

/-- The targets of a run that begins in a state. -/
def targetsIn (a : Arguments) (host : Host (StateM σ)) (s : σ) :
    Except RunError (List Target) :=
  ((a.targets host).run.run s).1

/-- The turns of its targets. -/
def turns (a : Arguments) (host : Host (StateM σ)) (s : σ) : List Turn :=
  match a.targetsIn host s with
  | .ok targets => RouteTypes.turns host targets ((a.targets host).run.run s).2
  | .error _ => []

/-- A run that ends in a conclusion, and in a system with a record of what was written,
    has written what was planned. -/
structure WritesAsPlanned (a : Arguments) (host : Host (StateM σ)) (s : σ)
    (conclusion : Conclusion) (final : Recorded σ) : Prop where
  /-- Without the record, the run ends in the same way. -/
  observed : ((Request.run a).perform host).run s = (conclusion, final.system)
  /-- The files are written in the order of the targets, as planned, as far as they are. -/
  front : final.written <+: planned (a.turns host s)
  /-- The turns are those of the first targets, in their order. -/
  inOrder : ∀ targets, a.targetsIn host s = .ok targets →
    (a.turns host s).map (·.target) <+: targets
  /-- Nothing is written when the targets are not found. -/
  withoutTargets : ∀ e, a.targetsIn host s = .error e →
    conclusion = .failed e ∧ final.written = []
  /-- They are not found when the settings of one of them do not resolve. -/
  unresolved : ∀ entries base, a.Lists host s entries base → ∀ entry ∈ entries, ∀ e,
    entry.resolve base a.overrides = .error e →
      (∃ e', conclusion = .failed (.unresolved e')) ∧ final.written = []
  /-- When a target does not compile, the files of those before it are all there is. -/
  uncompiled : ∀ t ∈ a.turns host s, ∀ e, t.compiled = .error e →
    ∃ before, a.turns host s = before ++ [t] ∧ (∀ t' ∈ before, t'.Compiles) ∧
      conclusion = .failed e ∧ final.written = planned before
  /-- The run succeeds exactly when all targets compile and all their files are written. -/
  code : conclusion.code = 0 ↔ ∃ targets, a.targetsIn host s = .ok targets ∧
    (a.turns host s).map (·.target) = targets ∧ (∀ t ∈ a.turns host s, t.Compiles) ∧
      final.written = planned (a.turns host s)
  /-- The files of the system are what is written makes of those it had. -/
  files : ∀ (φ : Type) (files : σ → φ) (put : φ → PlannedFile → φ),
    host.KeepsFiles files put → files final.system = final.written.foldl put (files s)

end Arguments

/-- How a run concludes. -/
def Conclusion.ofAnswer : Except RunError Unit → Conclusion
  | .ok () => .done
  | .error e => .failed e

/-- Only a run that is done has the code zero. -/
theorem Conclusion.code_ofAnswer (answer : Except RunError Unit) :
    (Conclusion.ofAnswer answer).code = 0 ↔ answer = .ok () := by
  cases answer with
  | ok _ => exact ⟨fun _ => rfl, fun _ => rfl⟩
  | error e => exact ⟨nofun, nofun⟩

/-- A configuration gives no targets when an entry gives none. -/
theorem exists_resolveTargets_eq_error {entries : List TargetEntry} {base : String}
    {overrides : Overrides} {entry : TargetEntry} (hentry : entry ∈ entries) {e : TargetError}
    (he : entry.resolve base overrides = .error e) :
    ∃ e', resolveTargets entries base overrides = .error e' := by
  cases htargets : resolveTargets entries base overrides with
  | error e' => exact ⟨e', rfl⟩
  -- With targets for all entries there would be one for this entry.
  | ok targets =>
      have hentries := mapM_eq_ok_iff.mpr (resolveTargets_eq_ok_iff.mp htargets).2
      rcases exists_mapM_eq_ok_iff.mp ⟨targets, hentries⟩ entry hentry with ⟨t, ht⟩
      cases he.symm.trans ht

variable {host : Host (StateM σ)} {s : σ} {a : Arguments}

/-- The targets are the resolved entries. -/
theorem Arguments.Lists.targetsIn {entries : List TargetEntry} {base : String}
    (h : a.Lists host s entries base) :
    a.targetsIn host s = (resolveTargets entries base a.overrides).mapError .unresolved := by
  unfold Arguments.targetsIn Arguments.targets
  cases h with
  | @document inputFile hfile =>
      rw [hfile]
      dsimp only
      cases resolveTargets [{ inputFile }] "" a.overrides <;> rfl
  | configuration hfile htext hentries =>
      rw [hfile]
      dsimp only
      rw [run_exceptBind_ok (a := _) (by rw [run_demand, htext]; rfl), hentries]
      dsimp only
      cases resolveTargets entries _ a.overrides <;> rfl

/-- Without a target for one entry there are none. -/
theorem Arguments.Lists.targetsIn_eq_error {entries : List TargetEntry} {base : String}
    (h : a.Lists host s entries base) {entry : TargetEntry} (hentry : entry ∈ entries)
    {e : TargetError} (he : entry.resolve base a.overrides = .error e) :
    ∃ e', a.targetsIn host s = .error (.unresolved e') := by
  rcases exists_resolveTargets_eq_error hentry he with ⟨e', he'⟩
  exact ⟨e', by rw [h.targetsIn, he']; rfl⟩

/-- The targets of a run have their turns in their order. -/
theorem turns_inOrder {targets : List Target} (h : a.targetsIn host s = .ok targets) :
    (a.turns host s).map (·.target) <+: targets := by
  rw [Arguments.turns, h]
  exact turns_targets host targets _

variable {φ : Type} {files : σ → φ} {put : φ → PlannedFile → φ}

/-- A run finds its targets, which writes nothing, and goes through them. -/
theorem run_course (h : host.KeepsFiles files put) (a : Arguments) (s : σ) :
    ∃ written, Writes files put (a.run host).run (a.run host.recording).run s written ∧
      ((∃ targets, a.targetsIn host s = .ok targets ∧
          Course (a.turns host s) targets written ((a.run host).run.run s).1) ∨
        ∃ e, a.targetsIn host s = .error e ∧ written = [] ∧
          ((a.run host).run.run s).1 = .error e) := by
  unfold Arguments.run
  -- Finding the targets writes nothing, so what is written is what they write.
  cases htargets : ((a.targets host).run.run s).1 with
  | error e =>
      refine ⟨[], (targets_quiet h a s).exceptBind_error htargets, Or.inr ⟨e, htargets, rfl, ?_⟩⟩
      rw [run_exceptBind_error htargets]
  | ok targets =>
      rcases generateAll_course h targets ((a.targets host).run.run s).2 with
        ⟨written, hwrites, hcourse⟩
      refine ⟨written, (targets_quiet h a s).exceptBind_ok htargets hwrites,
        Or.inl ⟨targets, htargets, ?_⟩⟩
      rw [run_exceptBind_ok htargets, Arguments.turns, Arguments.targetsIn, htargets]
      exact hcourse

/-- Concluding adds nothing to what a run writes. -/
theorem perform_writes {written : List PlannedFile}
    (h : Writes files put (a.run host).run (a.run host.recording).run s written) :
    Writes files put ((Request.run a).perform host) ((Request.run a).perform host.recording) s
      written := by
  have hbind : Writes files put ((Request.run a).perform host)
      ((Request.run a).perform host.recording) s (written ++ []) := by
    -- After the run only its conclusion is left to give.
    refine h.bind ?_
    cases ((a.run host).run.run s).1 with
    | ok _ => exact Quiet.pure _ _
    | error e => exact Quiet.pure _ _
  rwa [List.append_nil] at hbind

/-- The files of the system afterwards are the ones it had, and those written. -/
theorem perform_files (h : host.KeepsFiles files put) (a : Arguments) (s : σ) :
    files (((Request.run a).perform host.recording).run { system := s }).2.system =
      (((Request.run a).perform host.recording).run { system := s }).2.written.foldl put
        (files s) := by
  rcases run_course h a s with ⟨written, hrun, -⟩
  rw [(perform_writes hrun).recorded]
  exact (perform_writes hrun).changed

/-- A run concludes as it answers. -/
theorem perform_conclusion (host : Host (StateM σ)) (s : σ) (a : Arguments) :
    (((Request.run a).perform host).run s).1 = .ofAnswer ((a.run host).run.run s).1 := by
  unfold Request.perform
  rw [run_stateBind]
  cases ((a.run host).run.run s).1 <;> rfl

variable {answer : Except RunError Unit} {final : Recorded σ}

/-- The case of a run that goes through its targets. -/
theorem Course.writesAsPlanned {targets : List Target}
    (h : Course (a.turns host s) targets final.written answer)
    (htargets : a.targetsIn host s = .ok targets)
    (hobserved : ((Request.run a).perform host).run s = (.ofAnswer answer, final.system))
    (hfiles : ∀ (φ : Type) (files : σ → φ) (put : φ → PlannedFile → φ),
      host.KeepsFiles files put → files final.system = final.written.foldl put (files s)) :
    a.WritesAsPlanned host s (.ofAnswer answer) final where
  observed := hobserved
  files := hfiles
  front := h.front
  inOrder := fun _ htargets => turns_inOrder htargets
  withoutTargets := fun e he => by cases htargets.symm.trans he
  unresolved := fun entries base hlists entry hentry e he => by
    rcases hlists.targetsIn_eq_error hentry he with ⟨e', he'⟩
    cases htargets.symm.trans he'
  uncompiled := fun t ht e he => by
    rcases h.of_compiled_eq_error ht he with ⟨before, hturns, hbefore, rfl, hwritten⟩
    exact ⟨before, hturns, hbefore, rfl, hwritten⟩
  code := by
    rw [Conclusion.code_ofAnswer, h.eq_ok_iff]
    constructor
    · exact fun hdone => ⟨targets, htargets, hdone⟩
    · rintro ⟨targets', htargets', hdone⟩
      cases htargets.symm.trans htargets'
      exact hdone

/-- The case of a run that does not find them. -/
theorem writesAsPlanned_of_targetsIn_eq_error {e : RunError}
    (he : a.targetsIn host s = .error e) (hwritten : final.written = [])
    (hobserved : ((Request.run a).perform host).run s = (.failed e, final.system))
    (hfiles : ∀ (φ : Type) (files : σ → φ) (put : φ → PlannedFile → φ),
      host.KeepsFiles files put → files final.system = final.written.foldl put (files s)) :
    a.WritesAsPlanned host s (.failed e) final where
  observed := hobserved
  files := hfiles
  front := by
    rw [hwritten]
    exact List.nil_prefix
  inOrder := fun _ htargets => turns_inOrder htargets
  withoutTargets := fun e' he' => by
    cases he.symm.trans he'
    exact ⟨rfl, hwritten⟩
  unresolved := fun entries base hlists entry hentry e' he' => by
    rcases hlists.targetsIn_eq_error hentry he' with ⟨e'', he''⟩
    cases he.symm.trans he''
    exact ⟨⟨e'', rfl⟩, hwritten⟩
  uncompiled := fun t ht => by
    rw [Arguments.turns, he] at ht
    exact absurd ht List.not_mem_nil
  code := by
    refine ⟨nofun, ?_⟩
    rintro ⟨targets, htargets, -⟩
    cases he.symm.trans htargets

/-- Whatever a command line asks to be generated, from whatever system: what is written
    was planned, in the order of the targets, and a target that fails before its files are
    written leaves none of them. -/
theorem run_writesAsPlanned {words : List String} {a : Arguments}
    (h : Request.ofWords words = .run a) (host : Host (StateM σ)) (s : σ) :
    a.WritesAsPlanned host s
      (((Request.ofWords words).perform host.recording).run { system := s }).1
      (((Request.ofWords words).perform host.recording).run { system := s }).2 := by
  rw [h]
  have hfiles : ∀ (φ : Type) (files : σ → φ) (put : φ → PlannedFile → φ),
      host.KeepsFiles files put →
        files (((Request.run a).perform host.recording).run { system := s }).2.system =
          (((Request.run a).perform host.recording).run { system := s }).2.written.foldl put
            (files s) := fun _ _ _ hkeeps => perform_files hkeeps a s
  -- What is written does not depend on the view of the files.
  rcases run_course host.keepsFiles_nothing a s with ⟨written, hrun, hend⟩
  rw [(perform_writes hrun).recorded, List.nil_append] at hfiles ⊢
  have hobserved : ((Request.run a).perform host).run s =
      (.ofAnswer ((a.run host).run.run s).1, (((Request.run a).perform host).run s).2) :=
    Prod.ext (perform_conclusion host s a) rfl
  rw [perform_conclusion]
  rcases hend with ⟨targets, htargets, hcourse⟩ | ⟨e, he, hwritten, hanswer⟩
  · exact hcourse.writesAsPlanned htargets hobserved hfiles
  · rw [hanswer] at hobserved ⊢
    exact writesAsPlanned_of_targetsIn_eq_error he hwritten hobserved hfiles

end Runs

/-- A disk with a configuration of two targets, where the document of the second is
    missing. -/
def halfListedDisk : Disk :=
  ((⟨.empty, []⟩ : Disk).putFile ["a.json"]
    ("\x7b\"openapi\":\"3.0.0\",\"paths\":\x7b\x7d,\"components\":\x7b\"schemas\":" ++
      "\x7b\"A\":\x7b\"type\":\"string\"\x7d\x7d\x7d\x7d").toUTF8).putFile
    ["pathtypes.toml"] "openapi=[\x7binput-file='a.json'\x7d,\x7binput-file='b'\x7d]".toUTF8

/-- There, the first target is written before the second fails. -/
theorem run_writesAsPlanned_halfListed :
    Request.ofWords [] = .run {} ∧
      Arguments.WritesAsPlanned {} Disk.host { disk := halfListedDisk }
        (((Request.ofWords []).perform Disk.host.recording).run
          { system := { disk := halfListedDisk } }).1
        (((Request.ofWords []).perform Disk.host.recording).run
          { system := { disk := halfListedDisk } }).2 ∧
      (((Request.ofWords []).perform Disk.host.recording).run
        { system := { disk := halfListedDisk } }).2.written.map (·.path) =
          ["api/@types/index.ts"] :=
  ⟨rfl, run_writesAsPlanned rfl Disk.host _, by decide +kernel⟩

end RouteTypes
