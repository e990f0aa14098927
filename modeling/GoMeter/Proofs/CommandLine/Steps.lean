import GoMeter.CommandLine.Run
import GoMeter.Proofs.FileSystem

/-!
# The steps of a run

A run is followed step by step, from one session to the next one. A step that fails ends it.

* `Program.exec`: a part of a run, from a session to the next one.
* `Program.exec_bind`, `Program.exec_attempt_bind`: one step, and what comes after it.
* `Program.exec_deliver_of_none`, `Program.exec_deliver_of_save`: a result is printed, or put into a
  file.
-/

namespace GoMeter.Program

variable {α β ε : Type}

/-- What a part of a run comes to, and the session that it leaves. -/
def exec (x : Program α) (s : Session) : Except RunFault α × Session := x.run.run s

theorem exec_bind (x : Program α) (f : α → Program β) (s : Session) :
    (x >>= f).exec s =
      match x.exec s with
      | (.ok a, s') => (f a).exec s'
      | (.error fault, s') => (.error fault, s') := by
  show ExceptT.bindCont f (x.exec s).1 (x.exec s).2 = _
  rcases x.exec s with ⟨result, s'⟩
  cases result <;> rfl

theorem exec_files_bind (f : FileSystem → Program β) (s : Session) :
    (files >>= f).exec s = (f s.files).exec s := rfl

theorem exec_say_bind (level : Level) (text : String) (f : Unit → Program β) (s : Session) :
    (say level text >>= f).exec s =
      (f ()).exec { s with messages := s.messages ++ [⟨level, .commandLine, text⟩] } := rfl

theorem exec_attempt_bind (g : ε → RunFault) (x : Attempt ε α) (f : α → Program β) (s : Session) :
    (attempt g x >>= f).exec s =
      match x.outcome.result with
      | .ok a => (f a).exec { s with messages := s.messages ++ x.outcome.messages }
      | .error fault => (.error (g fault), { s with messages := s.messages ++ x.outcome.messages }) := by
  have hattempt : (attempt g x).exec s =
      (x.outcome.result.mapError g, { s with messages := s.messages ++ x.outcome.messages }) := by
    unfold attempt
    rw [exec_bind]
    cases x.outcome.result <;> rfl
  rw [exec_bind, hattempt]
  cases x.outcome.result <;> rfl

theorem exec_attempt_bind_ok {x : Attempt ε α} {a : α} (h : x.outcome.result = .ok a)
    (g : ε → RunFault) (f : α → Program β) (s : Session) :
    (attempt g x >>= f).exec s = (f a).exec { s with messages := s.messages ++ x.outcome.messages } := by
  rw [exec_attempt_bind, h]

theorem exists_of_exec_attempt_bind {x : Attempt ε α} {g : ε → RunFault} {f : α → Program β} {b : β}
    {s final : Session} (h : (attempt g x >>= f).exec s = (.ok b, final)) :
    ∃ a, x.outcome.result = .ok a ∧
      (f a).exec { s with messages := s.messages ++ x.outcome.messages } = (.ok b, final) := by
  rw [exec_attempt_bind] at h
  cases hx : x.outcome.result with
  | ok a => exact ⟨a, rfl, by simpa only [hx] using h⟩
  | error fault => simp [hx] at h

/-- A step that needs integers to be short enough changes nothing. -/
theorem exec_requireWritable_bind (writable : Bool) (f : Unit → Program β) (s : Session) :
    (requireWritable writable >>= f).exec s =
      if writable then (f ()).exec s else (.error (.config (.setting .tooLong)), s) := by
  cases writable <;> rfl

theorem exec_resolved_bind {path : String} {place : Place} {s : Session}
    (h : Discovery.placeOf s.files (.ofText path) = .ok place) (f : Path → Program β) :
    (resolved path >>= f).exec s = (f (FileSystem.pathOf place)).exec s := by
  have hresolved : (resolved path).exec s = (.ok (FileSystem.pathOf place), s) := by
    rw [resolved, exec_files_bind, h]
    rfl
  rw [exec_bind, hresolved]

/-! ## Results -/

variable {text : String} {output : Option String} {root : Path} {s : Session}

/-- A result is printed if no file is named. -/
theorem exec_deliver_of_none (h : nonEmpty? output = none) :
    (deliver text output root).exec s = (.ok (), { s with printed := s.printed ++ ended text }) := by
  rw [deliver, h]
  rfl

theorem exec_change (f : FileSystem → Except SystemFault FileSystem) :
    (change f).exec s =
      match f s.files with
      | .ok fs => (.ok (), { s with files := fs })
      | .error fault => (.error (.system fault), s) := by
  unfold change
  rw [exec_files_bind]
  cases f s.files <;> rfl

variable {name : String} {fs : FileSystem} {fault : SystemFault}

/-- A result is put into the file that is named. -/
theorem exec_deliver_of_save (h : nonEmpty? output = some name)
    (hsave : s.files.save (root.join (.ofText name)) text.toUTF8.data = .ok fs) :
    ∃ after, (deliver text output root).exec s = (.ok (), after) ∧ after.files = fs ∧
      after.printed = s.printed := by
  obtain ⟨between, hfolders, hwrite⟩ := exists_of_bind_ok hsave
  rw [deliver, h]
  simp only [writeFile, bind_assoc]
  rw [exec_bind, exec_change, hfolders]
  dsimp only
  rw [exec_bind, exec_change, hwrite]
  exact ⟨_, rfl, rfl, rfl⟩

/-- If the file cannot be written, the run ends. -/
theorem exec_deliver_of_not_save (h : nonEmpty? output = some name)
    (hsave : s.files.save (root.join (.ofText name)) text.toUTF8.data = .error fault) :
    ∃ after, (deliver text output root).exec s = (.error (.system fault), after) := by
  rw [deliver, h]
  simp only [writeFile, bind_assoc]
  rw [exec_bind, exec_change]
  rw [FileSystem.save] at hsave
  cases hfolders : s.files.makeFolders (root.join (.ofText name)).parent with
  | error fault' =>
    rw [hfolders] at hsave
    cases hsave
    exact ⟨s, rfl⟩
  | ok between =>
    rw [hfolders] at hsave
    have hwrite : between.write (root.join (.ofText name)) text.toUTF8.data = .error fault := hsave
    dsimp only
    rw [exec_bind, exec_change, hwrite]
    exact ⟨_, rfl⟩

end GoMeter.Program
