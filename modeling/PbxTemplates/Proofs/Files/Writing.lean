import PbxTemplates.Files.System

/-!
# Writing a file

A write changes the place to which its path leads and no other. No directory on the way of a path is
ever written over, so that a path leads to the same place before and after a write, and reading it
gives the text that was written.

Main statement: `written_of_write`.
-/

namespace PbxTemplates

namespace FileSystem

variable {fs : FileSystem} {l : Location}

/-! ### Ways that stay open

A new entry where no directory stands closes no way: every directory that was entered before stands
at another place. -/

theorem enter_put (free : fs.get? l ≠ some .directory) (e : FileEntry) {j m : Location}
    {name : String} (h : fs.enter j name = .ok m) : (fs.put l e).enter j name = .ok m := by
  unfold enter at h ⊢
  cases hs : step j name with
  | error f => simp [hs] at h
  | ok k =>
    simp only [hs] at h ⊢
    -- a directory stands at `k`, as it was entered
    have other : k ≠ l := by
      rintro rfl
      cases hk : fs.get? k with
      | none => simp [hk] at h
      | some there =>
        cases there with
        | file text => simp [hk] at h
        | directory => exact free hk
    rwa [get?_put_of_ne fs other]

theorem approach_put (free : fs.get? l ≠ some .directory) (e : FileEntry) {j m : Location}
    {names : List String} (h : fs.approach j names = .ok m) :
    (fs.put l e).approach j names = .ok m := by
  fun_induction approach fs j names with
  | case1 => exact h
  | case2 => exact h
  | case3 => cases h
  | case4 j name names _ k entered ih =>
    rw [approach, enter_put free e entered]
    · exact ih h
    · assumption

theorem directoryOf_put (free : fs.get? l ≠ some .directory) (e : FileEntry) {p : Path}
    {m : Location} (h : fs.directoryOf p = .ok m) : (fs.put l e).directoryOf p = .ok m := by
  unfold directoryOf at h ⊢
  split at h
  · cases h
  · split at h
    · cases h
    · next filled short =>
      simpa only [if_neg filled, if_neg short, current_put] using approach_put free e h

theorem locate_put (free : fs.get? l ≠ some .directory) (e : FileEntry) {p : Path} {m : Location}
    (h : fs.locate p = .ok m) : (fs.put l e).locate p = .ok m := by
  unfold locate at h ⊢
  cases hd : fs.directoryOf p with
  | error f => simp [hd] at h
  | ok k => rw [directoryOf_put free e hd]; rwa [hd] at h

/-! ### What a write leaves behind -/

/-- What a write of a text to a path makes of a file system. -/
structure Written (before : FileSystem) (p : Path) (text : String) (after : FileSystem) : Prop where
  reads : after.read p = .ok text
  /-- Only the place of the path has changed. -/
  elsewhere : ∃ l, before.locate p = .ok l ∧ ∀ j, j ≠ l → after.get? j = before.get? j
  current : after.current = before.current

/-- A path that can be written leads to a place without a directory, and asks for none. -/
theorem writable_eq_ok {p : Path} (h : fs.writable p = .ok l) :
    fs.locate p = .ok l ∧ fs.get? l ≠ some .directory ∧ p.endsWithSlash = false := by
  unfold writable at h
  unfold locate
  cases hd : fs.directoryOf p with
  | error e => simp [hd] at h
  | ok k =>
    simp only [hd] at h ⊢
    split at h
    · cases h
    · next slash =>
      cases ha : arrive k p with
      | error e => simp [ha] at h
      | ok m =>
        simp only [ha] at h
        split at h
        · cases h
        · next free =>
          cases h
          exact ⟨rfl, free, by simpa using slash⟩

theorem write_eq_ok_iff {p : Path} {text : String} {after : FileSystem} :
    fs.write p text = .ok after ↔ ∃ l, fs.writable p = .ok l ∧ fs.put l (.file text) = after := by
  unfold write
  cases fs.writable p with
  | error e => simp [Except.map]
  | ok l => simp [Except.map]

theorem written_of_write {p : Path} {text : String} {after : FileSystem}
    (h : fs.write p text = .ok after) : fs.Written p text after := by
  obtain ⟨l, hl, rfl⟩ := write_eq_ok_iff.mp h
  obtain ⟨place, free, slash⟩ := writable_eq_ok hl
  have inner : l ≠ [] := by
    rintro rfl
    exact free fs.get?_root
  have found : (fs.put l (.file text)).lookUp p = .ok (.file text) := by
    simp [lookUp, locate_put free _ place, get?_put_self fs inner, slash]
  exact ⟨by simp [read, found], ⟨l, place, fun j hj => get?_put_of_ne fs hj _⟩, current_put fs l _⟩

end FileSystem

end PbxTemplates
