import PbxTemplates.Command.Run
import PbxTemplates.Proofs.Files.Writing

/-!
# What commands leave behind

A command that fails prints nothing as its result. A request for a resolution has its output ready
before it writes: it leaves either everything that was asked for or no trace at all.

Main statement: `run_leaves_no_part`.
-/

namespace PbxTemplates

namespace Command

variable {env : Environment} {fs : FileSystem} {r : ResolveRequest}

/-! ### The steps of a resolution -/

/-- All that a request for a resolution computes before it writes. There is none if one of the steps
fails. -/
structure Preparation (env : Environment) (fs : FileSystem) (r : ResolveRequest) where
  settings : Settings
  format : DumpFormat
  text : String
  dump : Dump
  resolved : Resolution
  inForce : Settings.inForce env fs r.config = .ok settings
  named : r.format.elim (some (DumpFormat.ofPath ⟨r.input⟩)) DumpFormat.ofName? = some format
  read : fs.read ⟨r.input⟩ = .ok text
  parse : Dump.parse format text = .ok dump
  resolve : dump.resolve settings.resolver.canonicalizer = .ok resolved

def Preparation.output (q : Preparation env fs r) : String :=
  q.resolved.render q.settings.output ++ "\n"

theorem mapError_eq_ok_iff {ε ε' α : Type} {x : Except ε α} {f : ε → ε'} {a : α} :
    x.mapError f = .ok a ↔ x = .ok a := by
  cases x with
  | error e => exact ⟨nofun, nofun⟩
  | ok b => exact ⟨fun h => congrArg _ (Except.ok.inj h), fun h => congrArg _ (Except.ok.inj h)⟩

theorem map_eq_ok_iff {ε α β : Type} {x : Except ε α} {g : α → β} {b : β} :
    x.map g = .ok b ↔ ∃ a, x = .ok a ∧ g a = b := by
  cases x <;> simp [Except.map]

theorem loadDump_eq_ok_iff {p : Path} {format : Option String} {dump : Dump} :
    loadDump fs p format = .ok dump ↔
      ∃ f text, format.elim (some (DumpFormat.ofPath p)) DumpFormat.ofName? = some f ∧
        fs.read p = .ok text ∧ Dump.parse f text = .ok dump := by
  unfold loadDump
  cases format.elim (some (DumpFormat.ofPath p)) DumpFormat.ofName? with
  | none => simp
  | some f =>
    cases fs.read p with
    | error e => simp
    | ok text => simp [mapError_eq_ok_iff]

theorem resolution_eq_ok_iff {settings : OutputSettings} {resolved : Resolution} :
    resolution env fs r = .ok (settings, resolved) ↔
      ∃ s dump, Settings.inForce env fs r.config = .ok s ∧
        loadDump fs ⟨r.input⟩ r.format = .ok dump ∧
        dump.resolve s.resolver.canonicalizer = .ok resolved ∧ s.output = settings := by
  unfold resolution
  cases Settings.inForce env fs r.config with
  | error e => simp
  | ok s =>
    cases loadDump fs ⟨r.input⟩ r.format with
    | error e => simp
    | ok dump => simp [map_eq_ok_iff, mapError_eq_ok_iff]

theorem Preparation.resolution_eq (q : Preparation env fs r) :
    resolution env fs r = .ok (q.settings.output, q.resolved) := by
  have loaded : loadDump fs ⟨r.input⟩ r.format = .ok q.dump :=
    loadDump_eq_ok_iff.mpr ⟨q.format, q.text, q.named, q.read, q.parse⟩
  exact resolution_eq_ok_iff.mpr ⟨q.settings, q.dump, q.inForce, loaded, q.resolve, rfl⟩

theorem exists_preparation {settings : OutputSettings} {resolved : Resolution}
    (h : resolution env fs r = .ok (settings, resolved)) :
    ∃ q : Preparation env fs r, q.settings.output = settings ∧ q.resolved = resolved := by
  obtain ⟨s, dump, inForce, loaded, resolve, output⟩ := resolution_eq_ok_iff.mp h
  obtain ⟨f, text, named, read, parse⟩ := loadDump_eq_ok_iff.mp loaded
  exact ⟨⟨s, f, text, dump, resolved, inForce, named, read, parse, resolve⟩, output, rfl⟩

/-! ### Requests for a resolution -/

/-- Whether a file can be written where a request wants its output. -/
def Accepts (fs : FileSystem) (output : Option String) : Prop :=
  ∀ file, output = some file → ∃ l, fs.writable ⟨file⟩ = .ok l

/-- What a request for a resolution leaves behind: all that it was asked for, or no trace. -/
structure AllOrNothing (env : Environment) (fs : FileSystem) (r : ResolveRequest)
    (result : CommandResult) : Prop where
  /-- Nothing but a failed step and an output that cannot be written make it fail. -/
  succeeds_iff : result.status = 0 ↔ Nonempty (Preparation env fs r) ∧ Accepts fs r.output
  failed : result.status ≠ 0 → result.files = fs ∧ result.printed = ""
  printed : result.status = 0 → r.output = none →
    result.files = fs ∧ ∃ q : Preparation env fs r, result.printed = q.output
  written : ∀ file, result.status = 0 → r.output = some file →
    result.printed = "" ∧ ∃ q : Preparation env fs r, fs.Written ⟨file⟩ q.output result.files

namespace AllOrNothing

theorem nothing (e : CommandError)
    (h : ¬ (Nonempty (Preparation env fs r) ∧ Accepts fs r.output)) :
    AllOrNothing env fs r (.failed fs e) where
  succeeds_iff := iff_of_false Nat.one_ne_zero h
  failed _ := ⟨rfl, rfl⟩
  printed h := absurd h Nat.one_ne_zero
  written _ h := absurd h Nat.one_ne_zero

theorem onScreen (q : Preparation env fs r) (summary : String) (h : r.output = none) :
    AllOrNothing env fs r ⟨0, q.output, summary, fs⟩ where
  succeeds_iff := iff_of_true rfl ⟨⟨q⟩, by simp [Accepts, h]⟩
  failed h := absurd rfl h
  printed _ _ := ⟨rfl, q, rfl⟩
  written := by simp [h]

theorem inFile (q : Preparation env fs r) (summary : String) {file : String} {after : FileSystem}
    (h : r.output = some file) (write : fs.write ⟨file⟩ q.output = .ok after) :
    AllOrNothing env fs r ⟨0, "", summary, after⟩ := by
  obtain ⟨l, place, -⟩ := FileSystem.write_eq_ok_iff.mp write
  have only (f : String) (hf : r.output = some f) : f = file := by simpa [h] using hf.symm
  exact {
    succeeds_iff := iff_of_true rfl ⟨⟨q⟩, fun f hf => ⟨l, only f hf ▸ place⟩⟩
    failed := fun h => absurd rfl h
    printed := by simp [h]
    written := fun f _ hf => ⟨rfl, q, only f hf ▸ FileSystem.written_of_write write⟩ }

end AllOrNothing

theorem runResolve_allOrNothing (env : Environment) (fs : FileSystem) (r : ResolveRequest) :
    AllOrNothing env fs r (runResolve env fs r) := by
  cases hr : resolution env fs r with
  | error e =>
    have stuck : ¬ Nonempty (Preparation env fs r) := fun ⟨q⟩ => by
      simp [q.resolution_eq] at hr
    simpa only [runResolve, hr] using .nothing e fun h => stuck h.1
  | ok done =>
    obtain ⟨q, hs, hq⟩ := exists_preparation hr
    have text : done.2.render done.1 ++ "\n" = q.output := by rw [Preparation.output, hs, hq]
    -- only the output is left to go wrong
    cases ho : r.output with
    | none => simpa only [runResolve, hr, ho, text] using .onScreen q _ ho
    | some file =>
      cases hw : fs.write ⟨file⟩ q.output with
      | ok after => simpa only [runResolve, hr, ho, text, hw] using .inFile q _ ho hw
      | error e =>
        have refused : ¬ Accepts fs r.output := fun accepted => by
          obtain ⟨l, hl⟩ := accepted file ho
          simp [FileSystem.write_eq_ok_iff.mpr ⟨l, hl, rfl⟩] at hw
        simpa only [runResolve, hr, ho, text, hw] using .nothing _ fun h => refused h.2

/-! ### All commands -/

theorem files_ofResult (fs : FileSystem) (result : Except CommandError String) :
    (CommandResult.ofResult fs result).files = fs := by
  cases result <;> rfl

theorem files_runCheck (env : Environment) (fs : FileSystem) (p : Option String) :
    (runCheck env fs p).files = fs := by
  unfold runCheck
  split <;> rfl

theorem runInit_of_hasPath {p : Option String} (h : fs.hasPath (Settings.path env p)) :
    runInit env fs p = .failed fs (.settings (.alreadyThere (Settings.path env p))) :=
  if_pos h

/-- Whether a result prints nothing but remarks, unless it is a success. -/
def Quiet (result : CommandResult) : Prop := result.status ≠ 0 → result.printed = ""

theorem quiet_failed (fs : FileSystem) (e : CommandError) : Quiet (.failed fs e) := fun _ => rfl

theorem quiet_line (fs : FileSystem) (text : String) : Quiet (.line fs text) :=
  fun h => absurd rfl h

theorem quiet_ofResult (fs : FileSystem) (result : Except CommandError String) :
    Quiet (.ofResult fs result) := by
  cases result with
  | error e => exact quiet_failed fs e
  | ok text => exact quiet_line fs text

theorem quiet_run (env : Environment) (fs : FileSystem) (c : Command) : Quiet (run env fs c) := by
  cases c with
  | version => exact quiet_line fs _
  | initSettings p =>
    simp only [run, runInit]
    split
    · exact quiet_failed fs _
    · split
      · exact quiet_failed _ _
      · exact quiet_line _ _
  | checkSettings p =>
    simp only [run, runCheck]
    split
    · exact quiet_failed fs _
    · exact quiet_line fs _
  | showSettings p => exact quiet_ofResult fs _
  | resolve r => exact fun h => ((runResolve_allOrNothing env fs r).failed h).2
  | keys r => exact quiet_ofResult fs _

/-- No command leaves a part of its output. A request for a resolution does all or nothing; writing
settings fails where something stands, and leaves it there; a command that checks or shows changes
no file; and what fails prints nothing as a result. -/
theorem run_leaves_no_part (env : Environment) (fs : FileSystem) :
    (∀ r, AllOrNothing env fs r (run env fs (resolve r))) ∧
    (∀ p, fs.hasPath (Settings.path env p) →
      (run env fs (initSettings p)).status ≠ 0 ∧ (run env fs (initSettings p)).files = fs) ∧
    (∀ p, (run env fs (checkSettings p)).files = fs) ∧
    (∀ p, (run env fs (showSettings p)).files = fs) ∧
    (∀ r, (run env fs (keys r)).files = fs) ∧
    ∀ c, (run env fs c).status ≠ 0 → (run env fs c).printed = "" := by
  refine ⟨runResolve_allOrNothing env fs, fun p h => ?_, files_runCheck env fs,
    fun p => files_ofResult fs _, fun r => files_ofResult fs _, quiet_run env fs⟩
  rw [run, runInit_of_hasPath h]
  exact ⟨Nat.one_ne_zero, rfl⟩

end Command

end PbxTemplates
