import GoMeter.FileSystem
import GoMeter.Proofs.Outcome

/-!
# Following paths

* `FileSystem.resolve_of_find`: a path that leads to something is resolved to the same place.
* `FileSystem.find_file`, `FileSystem.find_missing`: paths of one name.
* `FileSystem.ne_of_mem_descendants`: what stands below a folder has a longer path.
* `FileSystem.SameBut`: two file systems differ in the contents of one file. Every path leads to the
  same place in both, and the bytes at its end are the same unless it leads to that file.
* `FileSystem.Saved`: a file was written, in folders that were made for it. It is read back, and nothing
  that was there is lost.
-/

namespace GoMeter.FileSystem

variable {fs fs' : FileSystem} {p : Path} {place : Place}

/-! ## Ways through existing folders -/

/-- Names that can be followed through what exists are followed to the same place by resolution. -/
theorem trace_of_walk {making : Bool} {links : Nat} {reached : Place} {names : List String}
    (h : fs.walk making links reached names = .ok place) :
    fs.trace links reached names = some place := by
  fun_induction walk fs making links reached names with
  | case1 links reached =>
    cases h
    rw [trace]
  | case2 links reached rest ih =>
    rw [trace, if_pos rfl]
    exact ih h
  | case4 | case6 | case8 => cases h
  | case3 links reached name rest hname hentry hlast =>
    cases h
    rw [List.isEmpty_iff.mp (Bool.and_eq_true_iff.mp hlast).2, trace, if_neg hname, hentry]
    exact trace.eq_1 ..
  | case5 links reached name rest hname bytes hentry hlast =>
    cases h
    rw [List.isEmpty_iff.mp hlast, trace, if_neg hname, hentry]
    exact trace.eq_1 ..
  | case7 links reached name rest hname hentry ih =>
    rw [trace, if_neg hname, hentry]
    exact ih h
  | case9 links reached name rest hname target hentry hlinks t ih =>
    rw [trace, if_neg hname, hentry]
    simp only [if_neg hlinks]
    exact ih h

theorem resolve_of_find (h : fs.find p = .ok place) : fs.resolve p = some place := by
  unfold find at h
  split at h
  · next hwalk =>
    cases h
    exact trace_of_walk hwalk
  · cases h

/-- A path to a file is resolved. -/
theorem resolve_of_isFile (h : fs.isFile p) : ∃ place, fs.resolve p = some place := by
  unfold isFile target? at h
  cases hfind : fs.find p with
  | ok place => exact ⟨place, resolve_of_find hfind⟩
  | error fault => simp [hfind] at h

theorem not_isFolder_of_isFile (h : fs.isFile p) : fs.isFolder p = false := by
  unfold isFile at h
  unfold isFolder
  cases htarget : fs.target? p with
  | none => rfl
  | some e => cases e <;> simp_all

/-- A name that stands for no link leads one step down. -/
theorem trace_cons_of_not_link {links : Nat} {reached : Place} {name : String} {rest : List String}
    (hname : name ≠ "..") (h : ∀ target, fs.entry? (reached ++ [name]) ≠ some (.link target)) :
    fs.trace links reached (name :: rest) = fs.trace links (reached ++ [name]) rest := by
  rw [trace, if_neg hname]
  split
  · next target hentry => exact absurd hentry (h target)
  · rfl

/-! ## Names in the folder that paths start from -/

section Names

variable {slashes : Nat} {name : String} {bytes : Array UInt8}

/-- A file is found under its name. -/
theorem find_file (hname : name ≠ "..")
    (h : fs.entry? (fs.base ⟨slashes, [name]⟩ ++ [name]) = some (.file bytes)) :
    fs.find ⟨slashes, [name]⟩ = .ok (fs.base ⟨slashes, [name]⟩ ++ [name]) := by
  have hwalk : fs.walk false linkLimit (fs.base ⟨slashes, [name]⟩) [name] =
      .ok (fs.base ⟨slashes, [name]⟩ ++ [name]) := by
    rw [walk, if_neg hname, h]
    rfl
  rw [find, hwalk]

theorem exists?_file (hname : name ≠ "..")
    (h : fs.entry? (fs.base ⟨slashes, [name]⟩ ++ [name]) = some (.file bytes)) :
    fs.exists? ⟨slashes, [name]⟩ = true := by
  rw [exists?, target?, find_file hname h]
  simp only [h]
  rfl

theorem isFile_file (hname : name ≠ "..")
    (h : fs.entry? (fs.base ⟨slashes, [name]⟩ ++ [name]) = some (.file bytes)) :
    fs.isFile ⟨slashes, [name]⟩ = true := by
  rw [isFile, target?, find_file hname h]
  simp only [h]

theorem read_file (hname : name ≠ "..")
    (h : fs.entry? (fs.base ⟨slashes, [name]⟩ ++ [name]) = some (.file bytes)) :
    fs.read ⟨slashes, [name]⟩ = .ok bytes := by
  rw [read, find_file hname h]
  simp only [bind, Except.bind, h]
  rfl

/-- The name of nothing leads on only if something is to be made there. -/
theorem walk_missing (making : Bool) (hname : name ≠ "..")
    (h : fs.entry? (fs.base ⟨slashes, [name]⟩ ++ [name]) = none) :
    fs.walk making linkLimit (fs.base ⟨slashes, [name]⟩) [name] =
      if making then .ok (fs.base ⟨slashes, [name]⟩ ++ [name]) else .error .missing := by
  rw [walk, if_neg hname, h]
  cases making <;> rfl

/-- Nothing is found under the name of nothing. -/
theorem find_missing (hname : name ≠ "..")
    (h : fs.entry? (fs.base ⟨slashes, [name]⟩ ++ [name]) = none) :
    fs.find ⟨slashes, [name]⟩ = .error ⟨.missing, ⟨slashes, [name]⟩⟩ := by
  rw [find, walk_missing false hname h]
  rfl

theorem exists?_missing (hname : name ≠ "..")
    (h : fs.entry? (fs.base ⟨slashes, [name]⟩ ++ [name]) = none) :
    fs.exists? ⟨slashes, [name]⟩ = false := by
  rw [exists?, target?, find_missing hname h]
  rfl

end Names

/-! ## What stands below a folder -/

/-- The path of what stands below a folder has more names than the path of the folder. -/
theorem names_of_mem_below {depth : Nat} {folder : Place} {q : Path}
    (h : q ∈ fs.below depth folder p) : p.names.length < q.names.length := by
  induction depth generalizing folder p with
  | zero => simp [below] at h
  | succ depth ih =>
    rw [below, List.mem_flatMap] at h
    obtain ⟨⟨name, e⟩, -, h⟩ := h
    have hchild : (p.child name).names.length = p.names.length + 1 := by simp [Path.child]
    rcases List.mem_cons.mp h with rfl | h
    · omega
    · split at h
      · have := ih h
        omega
      · cases h

theorem ne_of_mem_descendants {q : Path} (h : q ∈ fs.descendants p) : q ≠ p := by
  unfold descendants at h
  split at h
  · rintro rfl
    exact Nat.lt_irrefl _ (names_of_mem_below h)
  · cases h

/-! ## Other contents of one file -/

/-- Two file systems that differ at most in the contents of the file at a place. -/
structure SameBut (fs fs' : FileSystem) (place : Place) : Prop where
  here_eq : fs'.here = fs.here
  entry_eq : ∀ q, q ≠ place → fs'.entry? q = fs.entry? q
  files : ∃ old new, fs.entry? place = some (.file old) ∧ fs'.entry? place = some (.file new)

namespace SameBut

variable (h : SameBut fs fs' place)
include h

/-- What is no file is the same in both. -/
theorem entry?_eq {q : Place} (hq : ∀ bytes, fs.entry? q ≠ some (.file bytes)) :
    fs'.entry? q = fs.entry? q := by
  by_cases hplace : q = place
  · obtain ⟨old, -, hold, -⟩ := h.files
    exact absurd (hplace ▸ hold) (hq old)
  · exact h.entry_eq q hplace

/-- What is a file is one in both. -/
theorem exists_file {q : Place} {bytes : Array UInt8} (hq : fs.entry? q = some (.file bytes)) :
    ∃ bytes', fs'.entry? q = some (.file bytes') := by
  by_cases hplace : q = place
  · obtain ⟨-, new, -, hnew⟩ := h.files
    exact ⟨new, hplace ▸ hnew⟩
  · exact ⟨bytes, (h.entry_eq q hplace).trans hq⟩

theorem not_link {q : Place} (hq : ∀ target, fs.entry? q ≠ some (.link target)) (target : String) :
    fs'.entry? q ≠ some (.link target) := by
  intro hlink
  by_cases hfile : ∃ bytes, fs.entry? q = some (.file bytes)
  · obtain ⟨bytes, hbytes⟩ := hfile
    obtain ⟨bytes', hbytes'⟩ := h.exists_file hbytes
    rw [hbytes'] at hlink
    cases hlink
  · rw [h.entry?_eq (not_exists.mp hfile)] at hlink
    exact hq target hlink

theorem walk_eq (making : Bool) (links : Nat) (reached : Place) (names : List String) :
    fs'.walk making links reached names = fs.walk making links reached names := by
  fun_induction walk fs making links reached names with
  | case1 links reached => rw [walk]
  | case2 links reached rest ih =>
    rw [walk, if_pos rfl]
    exact ih
  | case3 links reached name rest hname hentry hlast =>
    rw [walk, if_neg hname, h.entry?_eq (by simp [hentry]), hentry]
    exact if_pos hlast
  | case4 links reached name rest hname hentry hlast =>
    rw [walk, if_neg hname, h.entry?_eq (by simp [hentry]), hentry]
    exact if_neg hlast
  | case5 links reached name rest hname bytes hentry hlast =>
    obtain ⟨bytes', hentry'⟩ := h.exists_file hentry
    rw [walk, if_neg hname, hentry']
    exact if_pos hlast
  | case6 links reached name rest hname bytes hentry hlast =>
    obtain ⟨bytes', hentry'⟩ := h.exists_file hentry
    rw [walk, if_neg hname, hentry']
    exact if_neg hlast
  | case7 links reached name rest hname hentry ih =>
    rw [walk, if_neg hname, h.entry?_eq (by simp [hentry]), hentry]
    exact ih
  | case8 reached name rest hname target hentry =>
    rw [walk, if_neg hname, h.entry?_eq (by simp [hentry]), hentry]
    rfl
  | case9 links reached name rest hname target hentry hlinks t ih =>
    rw [walk, if_neg hname, h.entry?_eq (by simp [hentry]), hentry]
    simp only [if_neg hlinks]
    exact ih

theorem trace_eq (links : Nat) (reached : Place) (names : List String) :
    fs'.trace links reached names = fs.trace links reached names := by
  fun_induction trace fs links reached names with
  | case1 links reached => rw [trace]
  | case2 links reached rest ih =>
    rw [trace, if_pos rfl]
    exact ih
  | case3 reached name rest hname target hentry =>
    rw [trace, if_neg hname, h.entry?_eq (by simp [hentry]), hentry]
    rfl
  | case4 links reached name rest hname target hentry hlinks t ih =>
    rw [trace, if_neg hname, h.entry?_eq (by simp [hentry]), hentry]
    simp only [if_neg hlinks]
    exact ih
  | case5 links reached name rest hname hentry ih =>
    rw [trace_cons_of_not_link hname, ih]
    exact h.not_link hentry

theorem base_eq (p : Path) : fs'.base p = fs.base p := by
  rw [base, base, h.here_eq]

theorem find_eq (p : Path) : fs'.find p = fs.find p := by
  rw [find, find, h.base_eq, h.walk_eq]

theorem resolve_eq (p : Path) : fs'.resolve p = fs.resolve p := by
  rw [resolve, resolve, h.base_eq, h.trace_eq]

/-- A path that does not lead to the file reads the same bytes, or fails for the same reason. -/
theorem read_eq (hp : fs.find p ≠ .ok place) : fs'.read p = fs.read p := by
  rw [read, read, h.find_eq]
  cases hfind : fs.find p with
  | error fault => rfl
  | ok reached =>
    have hne : reached ≠ place := by
      rintro rfl
      exact hp hfind
    simp only [bind, Except.bind, h.entry_eq reached hne]

end SameBut

/-! ## Making folders -/

theorem lookup_replace (entries : List (Place × Entry)) (place q : Place) (e : Entry) :
    (entries.map fun (r, old) => if r = place then (r, e) else (r, old)).lookup q =
      if q = place then (entries.lookup q).map fun _ => e else entries.lookup q := by
  induction entries with
  | nil => simp
  | cons entry rest ih =>
    obtain ⟨r, old⟩ := entry
    by_cases hq : q = r
    · subst hq
      by_cases hr : q = place <;> simp [hr]
    · have hkey : (q == r) = false := by simpa using hq
      have hskip (e : Entry) (rest : List (Place × Entry)) :
          ((r, e) :: rest).lookup q = rest.lookup q := by rw [List.lookup_cons, hkey]
      rw [List.map_cons, hskip, ← ih]
      dsimp only
      split <;> exact hskip _ _

/-- What is put at a place stands there, and all else stands where it stood. -/
theorem entry?_put (hplace : place ≠ []) (e : Entry) (q : Place) :
    FileSystem.entry? (fs.put place e) q = if q = place then some e else fs.entry? q := by
  by_cases hroot : q = []
  · subst hroot
    rw [if_neg hplace.symm]
    rfl
  have hentry (fs : FileSystem) : fs.entry? q = fs.entries.lookup q := by
    simp [hroot, entry?]
  rw [hentry, hentry, put]
  split
  · next hthere =>
    obtain ⟨old, hold⟩ := Option.isSome_iff_exists.mp hthere
    rw [lookup_replace]
    split
    · next hsame => simp [hsame, hold]
    · rfl
  · next hmissing =>
    have hnone : fs.entries.lookup place = none := by
      rwa [Option.not_isSome_iff_eq_none] at hmissing
    rw [List.lookup_append]
    split
    · next hsame => rw [hsame, hnone, List.lookup_cons_self, Option.none_or]
    · next hother =>
      have hkey : (q == place) = false := by simpa using hother
      simp [List.lookup_cons, hkey]

theorem here_put (place : Place) (e : Entry) : (fs.put place e).here = fs.here := by
  unfold put
  split <;> rfl

/-- Two file systems of which the second may have more folders. -/
structure MoreFolders (fs fs' : FileSystem) : Prop where
  here_eq : fs'.here = fs.here
  entry_eq : ∀ q, fs'.entry? q = fs.entry? q ∨ fs.entry? q = none ∧ fs'.entry? q = some .folder

namespace MoreFolders

theorem refl (fs : FileSystem) : MoreFolders fs fs := ⟨rfl, fun _ => .inl rfl⟩

theorem trans {fs'' : FileSystem} (h : MoreFolders fs fs') (h' : MoreFolders fs' fs'') :
    MoreFolders fs fs'' where
  here_eq := h'.here_eq.trans h.here_eq
  entry_eq := by
    intro q
    rcases h.entry_eq q with hq | ⟨hnone, hq⟩
    · rcases h'.entry_eq q with hq' | ⟨hnone, hq'⟩
      · exact .inl (hq'.trans hq)
      · exact .inr ⟨hq ▸ hnone, hq'⟩
    · rcases h'.entry_eq q with hq' | ⟨hnone', -⟩
      · exact .inr ⟨hnone, hq'.trans hq⟩
      · rw [hq] at hnone'
        cases hnone'

theorem of_makeFolder (h : fs.makeFolder p = .ok fs') : MoreFolders fs fs' := by
  unfold makeFolder at h
  split at h
  · cases h
    exact .refl fs
  · obtain ⟨parent, -, h⟩ := exists_of_bind_ok h
    dsimp only at h
    split at h
    · cases h
    · next hmissing =>
      cases h
      refine ⟨here_put _ _, fun q => ?_⟩
      rw [entry?_put (by simp)]
      split
      · next hq => exact .inr ⟨by simpa [hq] using hmissing, rfl⟩
      · exact .inl rfl

theorem of_makeFoldersFrom {depth : Nat} (h : makeFoldersFrom depth fs p = .ok fs') :
    MoreFolders fs fs' := by
  induction depth generalizing p fs' with
  | zero => exact .of_makeFolder h
  | succ depth ih =>
    rw [makeFoldersFrom] at h
    split at h
    · next hmade =>
      cases h
      exact .of_makeFolder hmade
    · split at h
      · obtain ⟨between, hbetween, h⟩ := exists_of_bind_ok h
        exact (ih hbetween).trans (.of_makeFolder h)
      · cases h

theorem of_makeFolders (h : fs.makeFolders p = .ok fs') : MoreFolders fs fs' := of_makeFoldersFrom h

end MoreFolders

/-! ## Writing files -/

/-- A file that is put at the end of a way does not stand in this way. -/
theorem walk_put {making : Bool} {links : Nat} {reached : Place} {names : List String}
    {bytes : Array UInt8} (hplace : place ≠ [])
    (hfree : ∀ e, fs.entry? place = some e → ∃ old, e = .file old)
    (h : fs.walk making links reached names = .ok place) :
    (fs.put place (.file bytes)).walk false links reached names = .ok place := by
  have hother {q : Place} {e : Entry} (hq : fs.entry? q = some e) (he : ∀ old, e ≠ .file old) :
      FileSystem.entry? (fs.put place (.file bytes)) q = some e := by
    rw [entry?_put hplace, if_neg, hq]
    rintro rfl
    obtain ⟨old, rfl⟩ := hfree e hq
    exact he old rfl
  have hhere : FileSystem.entry? (fs.put place (.file bytes)) place = some (.file bytes) := by
    rw [entry?_put hplace, if_pos rfl]
  fun_induction walk fs making links reached names with
  | case1 links reached =>
    rw [walk]
    exact h
  | case2 links reached rest ih =>
    rw [walk, if_pos rfl]
    exact ih h
  | case4 | case6 | case8 => cases h
  | case3 links reached name rest hname hentry hlast =>
    cases h
    rw [walk, if_neg hname, hhere]
    exact if_pos (Bool.and_eq_true_iff.mp hlast).2
  | case5 links reached name rest hname old hentry hlast =>
    cases h
    rw [walk, if_neg hname, hhere]
    exact if_pos hlast
  | case7 links reached name rest hname hentry ih =>
    rw [walk, if_neg hname, hother hentry (by simp)]
    exact ih h
  | case9 links reached name rest hname target hentry hlinks t ih =>
    rw [walk, if_neg hname, hother hentry (by simp)]
    simp only [if_neg hlinks]
    exact ih h

/-- A file after it was written: a path leads to it, it has certain bytes, and what stood elsewhere still
stands there, beside folders that were made. -/
structure Saved (fs fs' : FileSystem) (p : Path) (bytes : Array UInt8) : Prop where
  read_eq : fs'.read p = .ok bytes
  others : ∀ q, fs'.find p ≠ .ok q →
    fs'.entry? q = fs.entry? q ∨ fs.entry? q = none ∧ fs'.entry? q = some .folder

theorem saved_of_write {bytes : Array UInt8} (h : fs.write p bytes = .ok fs') :
    Saved fs fs' p bytes := by
  obtain ⟨place, hwhere, h⟩ := exists_of_bind_ok h
  have hfree : ∀ e, fs.entry? place = some e → ∃ old, e = .file old := by
    intro e he
    rw [he] at h
    cases e with
    | file old => exact ⟨old, rfl⟩
    | folder | link _ => cases h
  have hplace : place ≠ [] := by
    rintro rfl
    obtain ⟨old, hold⟩ := hfree .folder rfl
    cases hold
  obtain rfl : fs.put place (.file bytes) = fs' := by
    cases hentry : fs.entry? place with
    | none => simpa [hentry, pure, Except.pure] using h
    | some e =>
      obtain ⟨old, rfl⟩ := hfree e hentry
      simpa [hentry, pure, Except.pure] using h
  have hwalk : fs.walk true linkLimit (fs.base p) p.names = .ok place := by
    unfold writePlace at hwhere
    split at hwhere
    · next hwalk => rwa [Except.ok.inj hwhere] at hwalk
    · cases hwhere
  have hfind : (fs.put place (.file bytes)).find p = .ok place := by
    have hbase : (fs.put place (.file bytes)).base p = fs.base p := by
      rw [base, base, here_put]
    rw [find, hbase, walk_put hplace hfree hwalk]
  constructor
  · rw [read, hfind]
    simp only [bind, Except.bind, entry?_put hplace]
    rfl
  · intro q hq
    rw [hfind] at hq
    rw [entry?_put hplace, if_neg (by simpa [eq_comm] using hq)]
    exact .inl rfl

/-- A file is written in folders that are made for it. -/
def save (fs : FileSystem) (p : Path) (bytes : Array UInt8) : Except SystemFault FileSystem := do
  let fs ← fs.makeFolders p.parent
  fs.write p bytes

theorem saved_of_save {bytes : Array UInt8} (h : fs.save p bytes = .ok fs') :
    Saved fs fs' p bytes := by
  obtain ⟨between, hfolders, h⟩ := exists_of_bind_ok h
  have hmore := MoreFolders.of_makeFolders hfolders
  have hsaved := saved_of_write h
  refine ⟨hsaved.read_eq, fun q hq => ?_⟩
  rcases hsaved.others q hq with hsame | ⟨hnone, hmade⟩
  · rw [hsame]
    exact hmore.entry_eq q
  · rcases hmore.entry_eq q with hsame | ⟨-, hfolder⟩
    · exact .inr ⟨hsame ▸ hnone, hmade⟩
    · rw [hfolder] at hnone
      cases hnone

/-- A new file is written under its name in a folder. -/
theorem exists_save_missing {slashes : Nat} {name : String} {bytes : Array UInt8} (hname : name ≠ "..")
    (hfolder : fs.isFolder ⟨slashes, []⟩)
    (h : fs.entry? (fs.base ⟨slashes, [name]⟩ ++ [name]) = none) :
    ∃ fs', fs.save ⟨slashes, [name]⟩ bytes = .ok fs' := by
  have hfolders : fs.makeFolders (Path.parent ⟨slashes, [name]⟩) = .ok fs := by
    show fs.makeFolder ⟨slashes, []⟩ = .ok fs
    rw [makeFolder, if_pos hfolder]
  have hplace : fs.writePlace ⟨slashes, [name]⟩ = .ok (fs.base ⟨slashes, [name]⟩ ++ [name]) := by
    rw [writePlace, walk_missing true hname h]
    rfl
  refine ⟨fs.put (fs.base ⟨slashes, [name]⟩ ++ [name]) (.file bytes), ?_⟩
  rw [save, hfolders]
  show fs.write ⟨slashes, [name]⟩ bytes = _
  rw [write, hplace]
  simp only [bind, Except.bind, h]
  rfl

end GoMeter.FileSystem
