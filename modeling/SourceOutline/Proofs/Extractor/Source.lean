import SourceOutline.Extractor

/-!
# Reading a source

A source is looked at, measured against the limit and then read.  It may fail in several
ways at once; what is told is the first of them in this order.  Before all this the file
system must be asked, which it cannot be about every text.
-/

namespace SourceOutline
namespace Extractor

/-- A path cannot be looked at or cannot be read. -/
def Unreadable (workspace : Workspace) (path : Path) : Prop :=
  (∃ fault, workspace.files.size path = .error fault) ∨
    ∃ fault, workspace.files.read path = .error fault

/-- There is a limit, and what a path leads to is larger. -/
def TooLarge (workspace : Workspace) (settings : ExtractionSettings) (path : Path) : Prop :=
  ∃ size, workspace.files.size path = .ok size ∧
    settings.maxFileSizeMb * bytesPerMb ≠ 0 ∧ settings.maxFileSizeMb * bytesPerMb < size

/-- The first fault of a source. -/
inductive SourceFault (workspace : Workspace) (settings : ExtractionSettings) (path : Path) :
    Fault → Prop
  | unseen {fault : AccessFault} (hsize : workspace.files.size path = .error fault) :
      SourceFault workspace settings path (.sourceUnreadable path.text fault.reason)
  | tooLarge {size : Nat} (hsize : workspace.files.size path = .ok size)
      (hlimit : settings.maxFileSizeMb * bytesPerMb ≠ 0)
      (hlarge : settings.maxFileSizeMb * bytesPerMb < size) :
      SourceFault workspace settings path
        (.sourceTooLarge path.text size (settings.maxFileSizeMb * bytesPerMb))
  | unread {fault : AccessFault} (hsize : ∃ size, workspace.files.size path = .ok size)
      (hfits : ¬ TooLarge workspace settings path)
      (hread : workspace.files.read path = .error fault) :
      SourceFault workspace settings path (.sourceUnreadable path.text fault.reason)

variable {workspace : Workspace} {settings : ExtractionSettings} {path : Path}

/-- A limit of zero is no limit. -/
theorem tooLarge_iff {size : Nat} (hsize : workspace.files.size path = .ok size) :
    TooLarge workspace settings path ↔
      settings.maxFileSizeMb * bytesPerMb ≠ 0 ∧ settings.maxFileSizeMb * bytesPerMb < size := by
  constructor
  · rintro ⟨other, hother, hlimit, hlarge⟩
    rw [hsize] at hother
    rw [Except.ok.inj hother]
    exact ⟨hlimit, hlarge⟩
  · rintro ⟨hlimit, hlarge⟩
    exact ⟨size, hsize, hlimit, hlarge⟩

theorem readSource_of_pathFault
    {fault : PathFault} (hpath : workspace.files.pathFault? path.text = some fault) :
    readSource workspace settings path = .error (.path fault) := by
  unfold readSource
  rw [hpath]

/-- What reading a source can give when the file system can be asked about it. -/
theorem readSource_cases
    (settings : ExtractionSettings) (hpath : workspace.files.pathFault? path.text = none) :
    (∃ fault, SourceFault workspace settings path fault ∧
        readSource workspace settings path = .error (.fault fault)) ∨
      ∃ size source, workspace.files.size path = .ok size ∧
        ¬ TooLarge workspace settings path ∧ workspace.files.read path = .ok source ∧
        readSource workspace settings path = .ok source := by
  unfold readSource
  simp only [hpath]
  cases hsize : workspace.files.size path with
  | error fault => exact .inl ⟨_, .unseen hsize, rfl⟩
  | ok size =>
      by_cases hlarge : TooLarge workspace settings path
      · have hlimit := (tooLarge_iff hsize).mp hlarge
        exact .inl ⟨_, .tooLarge hsize hlimit.1 hlimit.2, if_pos hlimit⟩
      · have hfits := mt (tooLarge_iff hsize).mpr hlarge
        cases hread : workspace.files.read path with
        | error fault => exact .inl ⟨_, .unread ⟨size, hsize⟩ hlarge hread, if_neg hfits⟩
        | ok source => exact .inr ⟨size, source, rfl, hlarge, rfl, if_neg hfits⟩

/-- A source that can be asked for fails exactly if it cannot be read or is too large. -/
theorem readSource_error_iff
    (settings : ExtractionSettings) (hpath : workspace.files.pathFault? path.text = none) :
    (∃ stop, readSource workspace settings path = .error stop) ↔
      Unreadable workspace path ∨ TooLarge workspace settings path := by
  rcases readSource_cases settings hpath with
    ⟨fault, hfault, hsource⟩ | ⟨size, source, hsize, hfits, hread, hsource⟩
  · have hfails : Unreadable workspace path ∨ TooLarge workspace settings path := by
      cases hfault with
      | unseen hsize => exact .inl (.inl ⟨_, hsize⟩)
      | tooLarge hsize hlimit hlarge => exact .inr ⟨_, hsize, hlimit, hlarge⟩
      | unread _ _ hread => exact .inl (.inr ⟨_, hread⟩)
    exact ⟨fun _ => hfails, fun _ => ⟨_, hsource⟩⟩
  · simp [hsource, Unreadable, hsize, hread, hfits]

end Extractor
end SourceOutline
