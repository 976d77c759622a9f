import PbxTemplates.Proofs.Command.Effects
import PbxTemplates.Proofs.Settings.RoundTrip

/-!
# Settings that are saved and loaded

Settings are the same after they were saved and loaded, and so they are in the text that shows them.
Whether a file can be saved depends on the file system only: its directories must be there or be
made, and a file must be able to stand at its place.

Main statement: `load_saved`.
-/

namespace PbxTemplates

/-- A file can be written at the path, once the directories on the way are made. -/
def FileSystem.HasRoomFor (fs : FileSystem) (p : Path) : Prop :=
  ∃ made l, fs.makeParents p = (made, none) ∧ made.writable p = .ok l

namespace Settings

variable {env : Environment} {fs : FileSystem} {p : Path} {s t : Settings}

theorem read_text (s : Settings) : read s.text = .ok s := by
  have alone : read (String.ofList (s.print ++ [])) = .ok s := s.read_print_append rfl
  rwa [List.append_nil] at alone

theorem read_line (s : Settings) : read (s.text ++ "\n") = .ok s := by
  have lineFeed : read (String.ofList (s.print ++ ['\n'])) = .ok s := s.read_print_append rfl
  rwa [String.ofList_append] at lineFeed

theorem line_injective (h : s.text ++ "\n" = t.text ++ "\n") : s = t := by
  have same : read (s.text ++ "\n") = read (t.text ++ "\n") := congrArg read h
  rw [read_line, read_line] at same
  exact Except.ok.inj same

theorem load_eq_ok_iff :
    load fs p = .ok s ↔ ∃ text, fs.read p = .ok text ∧ read text = .ok s := by
  unfold load FileSystem.hasPath FileSystem.read
  cases fs.lookUp p with
  | error e => simp
  | ok there => cases there <;> simp [Command.mapError_eq_ok_iff]

theorem load_of_read (h : fs.read p = .ok s.text ∨ fs.read p = .ok (s.text ++ "\n")) :
    load fs p = .ok s := by
  rcases h with h | h
  · exact load_eq_ok_iff.mpr ⟨_, h, s.read_text⟩
  · exact load_eq_ok_iff.mpr ⟨_, h, s.read_line⟩

theorem hasPath_of_load (h : load fs p = .ok s) : fs.hasPath p = true := by
  cases found : fs.hasPath p with
  | true => rfl
  | false => simp [load, found] at h

/-- The settings in force are those of the file, or the default ones if no file is given and there
is none in the current directory. -/
theorem inForce_eq_ok_iff {given : Option String} : inForce env fs given = .ok s ↔
    load fs (path env given) = .ok s ∨
      given = none ∧ fs.hasPath (path env none) = false ∧ s = {} := by
  cases given with
  | some name => simp [inForce]
  | none =>
    cases found : fs.hasPath (path env none) with
    | true => simp [inForce, found]
    | false =>
      have unloaded : load fs (path env none) ≠ .ok s := fun h => by
        rw [hasPath_of_load h] at found
        cases found
      simp [inForce, found, unloaded, eq_comm]

theorem save_eq_iff {after : FileSystem} : s.save fs p = (after, none) ↔
    ∃ made, fs.makeParents p = (made, none) ∧ made.write p s.text = .ok after := by
  unfold save
  rcases fs.makeParents p with ⟨made, fault | fault⟩
  · cases hw : made.write p s.text with
    | error e => simp [hw]
    | ok written => simp [hw]
  · simp

theorem save_succeeds_iff : (s.save fs p).2 = none ↔ fs.HasRoomFor p := by
  constructor
  · intro h
    have outcome : s.save fs p = ((s.save fs p).1, none) := by rw [← h]
    obtain ⟨made, parents, written⟩ := save_eq_iff.mp outcome
    obtain ⟨l, place, -⟩ := FileSystem.write_eq_ok_iff.mp written
    exact ⟨made, l, parents, place⟩
  · rintro ⟨made, l, parents, place⟩
    have written : made.write p s.text = .ok (made.put l (.file s.text)) :=
      FileSystem.write_eq_ok_iff.mpr ⟨l, place, rfl⟩
    exact congrArg Prod.snd (save_eq_iff.mpr ⟨made, parents, written⟩)

theorem read_of_save {after : FileSystem} (h : s.save fs p = (after, none)) :
    after.read p = .ok s.text := by
  obtain ⟨made, -, written⟩ := save_eq_iff.mp h
  exact (FileSystem.written_of_write written).reads

/-! ### Commands -/

theorem runInit_of_save {given : Option String} {after : FileSystem}
    (fresh : fs.hasPath (path env given) = false)
    (saved : save {} fs (path env given) = (after, none)) :
    Command.runInit env fs given
      = .line after ("Configuration initialized at " ++ (path env given).quoted) := by
  rw [Command.runInit, if_neg (by simp [fresh]), saved]

theorem runInit_of_fault {given : Option String} {after : FileSystem} {e : SettingsError}
    (fresh : fs.hasPath (path env given) = false)
    (stuck : save {} fs (path env given) = (after, some e)) :
    Command.runInit env fs given = .failed after (.settings e) := by
  rw [Command.runInit, if_neg (by simp [fresh]), stuck]

theorem runInit_saves {given : Option String} (fresh : fs.hasPath (path env given) = false) :
    ((Command.runInit env fs given).status = 0 ↔ fs.HasRoomFor (path env given)) ∧
    ((Command.runInit env fs given).status = 0 →
      load (Command.runInit env fs given).files (path env given) = .ok {}) := by
  rw [← save_succeeds_iff (s := {})]
  rcases outcome : save {} fs (path env given) with ⟨after, fault | e⟩
  · rw [runInit_of_save fresh outcome]
    exact ⟨iff_of_true rfl rfl, fun _ => load_of_read (.inl (read_of_save outcome))⟩
  · rw [runInit_of_fault fresh outcome]
    exact ⟨iff_of_false Nat.one_ne_zero nofun, fun h => absurd h Nat.one_ne_zero⟩

/-- What shows the settings in force says which they are. -/
theorem runShow_iff {given : Option String} : inForce env fs given = .ok s ↔
    (Command.runShow env fs given).status = 0 ∧
      (Command.runShow env fs given).printed = s.text ++ "\n" := by
  unfold Command.runShow
  cases inForce env fs given with
  | error e => exact iff_of_false nofun fun h => absurd h.1 Nat.one_ne_zero
  | ok t =>
    constructor
    · rintro ⟨⟩
      exact ⟨rfl, rfl⟩
    · rintro ⟨-, printed⟩
      have same : t.text ++ "\n" = s.text ++ "\n" := printed
      rw [line_injective same]

/-- Settings are not lost in a file. A file with the text of settings, or with what is printed to
show them, loads as just these settings, whatever texts are in them. Saving succeeds if there is
room for a file, and then leaves such a file; a new file has the default settings. What is printed to
show settings is the text of those that the file loads as, or of the default ones where no file is
given and there is none. -/
theorem load_saved (env : Environment) (fs : FileSystem) :
    (∀ s p, fs.read p = .ok (text s) ∨ fs.read p = .ok (text s ++ "\n") → load fs p = .ok s) ∧
    (∀ s p, (save s fs p).2 = none ↔ fs.HasRoomFor p) ∧
    (∀ s p after, save s fs p = (after, none) →
      after.read p = .ok s.text ∧ load after p = .ok s) ∧
    (∀ given s, inForce env fs given = .ok s ↔
      (Command.run env fs (.showSettings given)).status = 0 ∧
        (Command.run env fs (.showSettings given)).printed = s.text ++ "\n") ∧
    (∀ given s, ((Command.run env fs (.showSettings given)).status = 0 ∧
        (Command.run env fs (.showSettings given)).printed = s.text ++ "\n") ↔
      load fs (path env given) = .ok s ∨
        given = none ∧ fs.hasPath (path env none) = false ∧ s = {}) ∧
    ∀ given, fs.hasPath (path env given) = false →
      ((Command.run env fs (.initSettings given)).status = 0 ↔
        fs.HasRoomFor (path env given)) ∧
      ((Command.run env fs (.initSettings given)).status = 0 →
        load (Command.run env fs (.initSettings given)).files (path env given) = .ok {}) :=
  ⟨fun _ _ => load_of_read, fun _ _ => save_succeeds_iff,
    fun _ _ _ h => ⟨read_of_save h, load_of_read (.inl (read_of_save h))⟩,
    fun _ _ => runShow_iff, fun _ _ => runShow_iff.symm.trans inForce_eq_ok_iff,
    fun _ => runInit_saves⟩

/-- Nothing but a home directory. -/
def newHome : FileSystem := ⟨.ofList [(["home"], .directory)], ["home"]⟩

theorem load_newHome :
    let env : Environment := ⟨"/home", false⟩
    let given : Option String := some "pbx/main.toml"
    let init := Command.run env newHome (.initSettings given)
    newHome.hasPath (path env given) = false ∧ init.status = 0 ∧
      load init.files (path env given) = .ok {} ∧
      (Command.run env init.files (.showSettings given)).status = 0 ∧
      (Command.run env init.files (.showSettings given)).printed = text {} ++ "\n" := by
  intro env given init
  have fresh : newHome.hasPath (path env given) = false := by decide
  have room : newHome.HasRoomFor (path env given) :=
    ⟨(newHome.makeParents ⟨"pbx/main.toml"⟩).1, ["home", "pbx", "main.toml"],
      Prod.ext rfl (by decide), by decide⟩
  obtain ⟨_, _, _, _, _, inits⟩ := load_saved env newHome
  have succeeded : init.status = 0 := (inits given fresh).1.mpr room
  have loaded : load init.files (path env given) = .ok {} := (inits given fresh).2 succeeded
  obtain ⟨_, _, _, _, shows, _⟩ := load_saved env init.files
  exact ⟨fresh, succeeded, loaded, (shows given {}).mpr (.inl loaded)⟩

end Settings

end PbxTemplates
