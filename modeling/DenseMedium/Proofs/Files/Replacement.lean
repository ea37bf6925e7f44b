import DenseMedium.Files.FileSystem
import DenseMedium.Proofs.Steps
import DenseMedium.Proofs.Stream.Deliveries

/-!
Replacing a file.

* `Device.fill_cases`: a new file holds everything that was written, or filling it has failed.
* `lookup?_put_same`, `lookup?_put_of_ne`, `remove_put`: the laws of entries. An entry that has been
  put where there was none can be removed again, and nothing remains of it.
* `SameDirectories`: file systems with the same directories lead every path to the same place. So
  the temporary file is in nobody's way, and a file that has been replaced is read under its own
  path.
* `replace_cases`: replacing a file fails and leaves the file system as it was, wherever the failure
  lies, or succeeds and has put the whole content in the one place that the path leads to.
-/

namespace DenseMedium

/-! ### Devices -/

namespace Device

variable {d : Device} {w : Writing}

/-- A device has written everything, or fails. -/
theorem write_cases (d : Device) (writes : List Bytes) :
    (∃ taken e, d.write writes = (taken, refuse (.io e))) ∨
      d.write writes = (writes.flatten, .ok ()) := by
  unfold write
  cases d.onWrite with
  | none => exact .inr rfl
  | some failure =>
    obtain ⟨room, e⟩ := failure
    dsimp only
    rw [deliver_eq]
    by_cases fits : writes.flatten.length ≤ room
    · rw [decide_eq_true fits, List.take_of_length_le fits]
      exact .inr rfl
    · rw [decide_eq_false fits]
      exact .inl ⟨_, e, rfl⟩

theorem sync_cases (d : Device) : (∃ e, d.sync = refuse (.io e)) ∨ d.sync = .ok () := by
  unfold sync
  cases d.onSync with
  | none => exact .inr rfl
  | some e => exact .inl ⟨e, rfl⟩

/-- A new file holds everything, or filling it has failed: for the reason of the one who writes, or
for one of the device. -/
theorem fill_cases (d : Device) (w : Writing) :
    (∃ taken x, d.fill w = (taken, .error x) ∧ (w.ending = .error x ∨ ∃ e, x = .refused (.io e))) ∨
      w.ending = .ok () ∧ d.fill w = (w.pieces.flatten, .ok ()) := by
  have everything := (Buffer.ofPieces w.pieces).flatten_flush
  rw [Buffer.written_ofPieces] at everything
  unfold fill
  dsimp only
  rcases d.write_cases (Buffer.ofPieces w.pieces).passed with ⟨taken, e, failed⟩ | passed
  · rw [failed]
    exact .inl ⟨taken, _, rfl, .inr ⟨e, rfl⟩⟩
  · rw [passed]
    cases ending : w.ending with
    | error x => exact .inl ⟨_, x, rfl, .inl rfl⟩
    | ok u =>
      dsimp only
      rcases d.write_cases (Buffer.ofPieces w.pieces).flush.passed with ⟨taken, e, failed⟩ | flushed
      · rw [failed]
        exact .inl ⟨taken, _, rfl, .inr ⟨e, rfl⟩⟩
      · rw [flushed, everything]
        rcases d.sync_cases with ⟨e, failed⟩ | synced
        · rw [failed]
          exact .inl ⟨_, _, rfl, .inr ⟨e, rfl⟩⟩
        · rw [synced]
          exact .inr ⟨rfl, rfl⟩

theorem fill_reliable (h : w.ending = .ok ()) : reliable.fill w = (w.pieces.flatten, .ok ()) := by
  have everything := (Buffer.ofPieces w.pieces).flatten_flush
  rw [Buffer.written_ofPieces] at everything
  unfold fill
  rw [h]
  change (_, _) = _
  rw [everything]
  rfl

/-- What a device reads of a file is all of it, or a source that breaks. -/
theorem read_cases {source s : Source} (h : d.read source = .ok s) :
    s = source ∨ ∃ e, s.ending = .broken e := by
  unfold read at h
  split at h
  · cases h
  · split at h
    · cases h
      exact .inr ⟨_, rfl⟩
    · cases h
      exact .inl rfl

end Device

namespace FileSystem

variable {fs fs' : FileSystem} {place q : Location} {entry : Entry} {p : FilePath}

/-! ### Entries -/

/-- Removing an entry does not touch the others. -/
theorem lookup_filter_ne (h : q ≠ place) : ∀ entries : List (Location × Entry),
    (entries.filter fun e => e.1 ≠ place).lookup q = entries.lookup q
  | [] => rfl
  | (at_, e) :: rest => by
      have ih := lookup_filter_ne h rest
      by_cases here : at_ = place
      · subst here
        have other : (q == at_) = false := beq_eq_false_iff_ne.mpr h
        rw [List.filter_cons_of_neg (by simp), ih, List.lookup_cons, other]
      · rw [List.filter_cons_of_pos (by simpa using here), List.lookup_cons, List.lookup_cons, ih]

theorem lookup?_put_same (h : place ≠ []) : (fs.put place entry).lookup? place = some entry := by
  unfold lookup? put
  rw [if_neg h, List.lookup_cons, beq_self_eq_true]

theorem lookup?_put_of_ne (h : q ≠ place) : (fs.put place entry).lookup? q = fs.lookup? q := by
  unfold lookup? put remove
  have other : (q == place) = false := beq_eq_false_iff_ne.mpr h
  rw [List.lookup_cons, other, lookup_filter_ne h]

/-- Whether no entry has a location. -/
def IsFree (fs : FileSystem) (place : Location) : Prop := ∀ e ∈ fs.entries, e.1 ≠ place

theorem IsFree.remove_eq (h : fs.IsFree place) : fs.remove place = fs := by
  have kept : fs.entries.filter (fun e => e.1 ≠ place) = fs.entries :=
    List.filter_eq_self.mpr fun e he => decide_eq_true (h e he)
  unfold remove
  rw [kept]

/-- A new entry that is removed again leaves no trace. -/
theorem IsFree.remove_put (h : fs.IsFree place) : (fs.put place entry).remove place = fs := by
  have removed : (fs.put place entry).remove place = (fs.remove place).remove place := by
    unfold put remove
    rw [List.filter_cons_of_neg (by simp)]
  rw [removed, h.remove_eq, h.remove_eq]

theorem put_put (other : Entry) : (fs.put place entry).put place other = fs.put place other := by
  have removed : (fs.put place entry).remove place = (fs.remove place).remove place := by
    unfold put remove
    rw [List.filter_cons_of_neg (by simp)]
  have twice : (fs.remove place).remove place = fs.remove place := by
    unfold remove
    simp
  change (⟨_, (place, other) :: ((fs.put place entry).remove place).entries⟩ : FileSystem) = _
  rw [removed, twice]
  rfl

theorem IsFree.lookup?_eq (h : fs.IsFree place) (root : place ≠ []) : fs.lookup? place = none := by
  unfold lookup?
  rw [if_neg root, List.lookup_eq_none_iff]
  intro e he
  exact bne_iff_ne.mpr fun same => h e he same.symm

/-! ### The name of the temporary file -/

theorem le_foldl_max : ∀ (names : List Bytes) (n : Nat),
    n ≤ names.foldl (fun n name => max n name.length) n ∧
      ∀ name ∈ names, name.length ≤ names.foldl (fun n name => max n name.length) n
  | [], n => ⟨Nat.le_refl n, nofun⟩
  | first :: rest, n => by
      obtain ⟨start, later⟩ := le_foldl_max rest (max n first.length)
      have head := Nat.le_trans (Nat.le_max_right n first.length) start
      exact ⟨Nat.le_trans (Nat.le_max_left n first.length) start,
        List.forall_mem_cons.mpr ⟨head, later⟩⟩

/-- No entry has the name of a temporary file, in whichever directory. -/
theorem isFree_fresh (fs : FileSystem) (place : Location) :
    fs.IsFree (place ++ [fs.freshName]) := by
  intro e he same
  have member : fs.freshName ∈ fs.entries.flatMap Prod.fst := by
    refine List.mem_flatMap.mpr ⟨e, he, ?_⟩
    rw [same]
    exact List.mem_append_right _ List.mem_cons_self
  have short : fs.freshName.length ≤ fs.longest := (le_foldl_max _ 0).2 _ member
  have long : fs.freshName.length = 4 + fs.longest := by
    unfold freshName
    rw [List.length_append, List.length_replicate]
    rfl
  omega

/-! ### Paths -/

/-- Whether two file systems have the same directories and paths start in the same one. -/
structure SameDirectories (fs fs' : FileSystem) : Prop where
  start : fs.workingDirectory = fs'.workingDirectory
  lookup : ∀ q, fs.lookup? q = some .directory ↔ fs'.lookup? q = some .directory

theorem SameDirectories.symm (h : SameDirectories fs fs') : SameDirectories fs' fs :=
  ⟨h.start.symm, fun q => (h.lookup q).symm⟩

/-- Putting a file where there is no directory changes no directory. -/
theorem sameDirectories_put {content : Bytes} (h : fs.lookup? place ≠ some .directory) :
    SameDirectories fs (fs.put place (.file content)) where
  start := rfl
  lookup q := by
    by_cases here : q = place
    · subst here
      have root : q ≠ [] := by
        rintro rfl
        exact h rfl
      rw [lookup?_put_same root]
      exact ⟨fun found => absurd found h, nofun⟩
    · rw [lookup?_put_of_ne here]

theorem child?_eq_ok {directory : Location} {name : Bytes} {e : Option Entry} :
    fs.child? directory name = .ok e ↔
      name.length ≤ longestName ∧ fs.lookup? (directory ++ [name]) = e := by
  unfold child?
  by_cases long : longestName < name.length
  · rw [if_pos long]
    exact ⟨nofun, fun h => absurd h.1 (Nat.not_le.mpr long)⟩
  · rw [if_neg long, Except.ok.injEq]
    exact (and_iff_right (Nat.not_lt.mp long)).symm

theorem SameDirectories.child? {directory : Location} {name : Bytes} (h : SameDirectories fs fs')
    (found : fs.child? directory name = .ok (some .directory)) :
    fs'.child? directory name = .ok (some .directory) := by
  rw [child?_eq_ok] at found ⊢
  exact ⟨found.1, (h.lookup _).mp found.2⟩

/-- A walk asks for directories only. -/
theorem SameDirectories.walk (h : SameDirectories fs fs') :
    ∀ {segments : List Bytes} {place last : Location}, fs.walk place segments = .ok last →
      fs'.walk place segments = .ok last
  | [], _, _, walked => walked
  | segment :: rest, place, last, walked => by
      unfold FileSystem.walk at walked ⊢
      by_cases trivial : FilePath.isTrivial segment = true
      · rw [if_pos trivial] at walked ⊢
        exact h.walk walked
      · rw [if_neg trivial] at walked ⊢
        by_cases above : segment = FilePath.above
        · rw [if_pos above] at walked ⊢
          exact h.walk walked
        · rw [if_neg above] at walked ⊢
          split at walked
          · cases walked
          · cases walked
          · cases walked
          · rename_i found
            rw [h.child? found]
            exact h.walk walked

/-- A chain that is left early under a condition. -/
theorem guard_eq_ok {ε α : Type} {c : Prop} [Decidable c] {e : ε} {rest : Except ε α} {a : α} :
    (if c then (throw e >>= fun _ : PUnit => rest) else rest) = .ok a ↔ ¬ c ∧ rest = .ok a := by
  by_cases h : c
  · rw [if_pos h]
    exact ⟨nofun, fun stays => absurd h stays.1⟩
  · rw [if_neg h]
    exact (and_iff_right h).symm

/-- Whether a path leads to a name in a directory that a file can take. -/
structure LeadsTo (fs : FileSystem) (p : FilePath) (place : Location) (name : Bytes) : Prop where
  zeroFree : holdsZero p = false
  short : isTooLong p = false
  nonempty : p.isEmpty = false
  bare : (p.reverse.dropWhile (· = Ascii.slash)).reverse = p
  last : p.segments.getLastD [] = name
  walk : fs.walk (fs.start p) p.segments.dropLast = .ok place
  proper : ¬ (FilePath.isTrivial name ∨ name = FilePath.above)
  fits : name.length ≤ longestName
  vacant : fs.lookup? (place ++ [name]) ≠ some .directory

theorem destination_eq_ok {r : Location} :
    fs.destination p = .ok r ↔ ∃ place name, fs.LeadsTo p place name ∧ r = place ++ [name] := by
  unfold destination
  simp only [guard_eq_ok, bind_eq_ok, child?_eq_ok, pure_eq_ok, Except.ok.injEq, Bool.not_eq_true,
    ne_eq, Decidable.not_not]
  constructor
  · rintro ⟨zeroFree, short, nonempty, place, walk, proper, _, ⟨fits, rfl⟩, bare, vacant, rfl⟩
    rw [bare] at walk proper fits vacant ⊢
    exact ⟨place, _, ⟨zeroFree, short, nonempty, bare, rfl, walk, proper, fits, vacant⟩, rfl⟩
  · rintro ⟨place, name, h, rfl⟩
    obtain ⟨zeroFree, short, nonempty, bare, rfl, walk, proper, fits, vacant⟩ := h
    rw [bare]
    exact ⟨zeroFree, short, nonempty, place, walk, proper, _, ⟨fits, rfl⟩, rfl, vacant, rfl⟩

theorem SameDirectories.leadsTo {name : Bytes} (same : SameDirectories fs fs')
    (h : fs.LeadsTo p place name) : fs'.LeadsTo p place name where
  zeroFree := h.zeroFree
  short := h.short
  nonempty := h.nonempty
  bare := h.bare
  last := h.last
  walk := by
    have start : fs'.start p = fs.start p := by
      unfold FileSystem.start
      rw [same.start]
    rw [start]
    exact same.walk h.walk
  proper := h.proper
  fits := h.fits
  vacant found := h.vacant ((same.lookup _).mpr found)

theorem SameDirectories.destination_eq_ok {r : Location} (same : SameDirectories fs fs') :
    fs.destination p = .ok r ↔ fs'.destination p = .ok r := by
  rw [FileSystem.destination_eq_ok, FileSystem.destination_eq_ok]
  constructor
  · rintro ⟨place, name, h, rfl⟩
    exact ⟨place, name, same.leadsTo h, rfl⟩
  · rintro ⟨place, name, h, rfl⟩
    exact ⟨place, name, same.symm.leadsTo h, rfl⟩

/-- A file is read under the path that leads to it. -/
theorem LeadsTo.read_eq_ok {name content : Bytes} (h : fs.LeadsTo p place name)
    (found : fs.lookup? (place ++ [name]) = some (.file content)) :
    fs.read p = .ok ⟨[content], .complete⟩ := by
  have entry : fs.entry p = .ok (.file content) := by
    unfold FileSystem.entry
    simp only [guard_eq_ok, bind_eq_ok]
    refine ⟨?_, ?_, place, h.walk, ?_⟩
    · rw [h.short]
      exact Bool.false_ne_true
    · rw [h.nonempty]
      exact Bool.false_ne_true
    · rw [h.last, if_neg h.proper, child?_eq_ok.mpr ⟨h.fits, found⟩]
      rfl
  unfold read
  rw [h.zeroFree, if_neg Bool.false_ne_true, entry]

/-! ### Replacing -/

variable {d : Device} {w : Writing}

/-- What replacing a file comes to, for every device: a failure after which everything is as it was,
or everything that was written in the place that the path leads to. -/
theorem replace_cases (fs : FileSystem) (d : Device) (p : FilePath) (w : Writing) :
    (∃ x, fs.replace d p w = (.error x, fs) ∧
      (w.ending = .error x ∨ ∃ e, x = .refused (.io e))) ∨
    ∃ place, w.ending = .ok () ∧ fs.destination p = .ok place ∧
      fs.replace d p w = (.ok (), fs.put place (.file w.pieces.flatten)) := by
  unfold replace
  cases fs.directory temporaryLength p.directory with
  | error e => exact .inl ⟨_, rfl, .inr ⟨e, rfl⟩⟩
  | ok directory =>
    cases d.onCreate with
    | some e => exact .inl ⟨_, rfl, .inr ⟨e, rfl⟩⟩
    | none =>
      have free := fs.isFree_fresh directory
      have root : directory ++ [fs.freshName] ≠ [] := by simp
      dsimp only
      rw [put_put]
      rcases d.fill_cases w with ⟨taken, x, failed, cause⟩ | ⟨ending, filled⟩
      · rw [failed]
        dsimp only
        rw [free.remove_put]
        exact .inl ⟨x, rfl, cause⟩
      · rw [filled]
        dsimp only
        rw [free.remove_put]
        cases d.onRename with
        | some e => exact .inl ⟨_, rfl, .inr ⟨e, rfl⟩⟩
        | none =>
          have same : SameDirectories fs
              (fs.put (directory ++ [fs.freshName]) (.file w.pieces.flatten)) :=
            sameDirectories_put (by rw [free.lookup?_eq root]; exact nofun)
          unfold rename
          rw [free.remove_put]
          cases target : (fs.put (directory ++ [fs.freshName])
              (.file w.pieces.flatten)).destination p with
          | error e => exact .inl ⟨_, rfl, .inr ⟨_, rfl⟩⟩
          | ok place => exact .inr ⟨place, ending, same.destination_eq_ok.mpr target, rfl⟩

/-- On a device that does not fail a file is replaced if its directory is there and a file can take
the place that the path leads to. -/
theorem replace_reliable {directory : Location} (ending : w.ending = .ok ())
    (parent : fs.directory temporaryLength p.directory = .ok directory)
    (target : fs.destination p = .ok place) :
    fs.replace .reliable p w = (.ok (), fs.put place (.file w.pieces.flatten)) := by
  have free := fs.isFree_fresh directory
  have root : directory ++ [fs.freshName] ≠ [] := by simp
  have same : SameDirectories fs
      (fs.put (directory ++ [fs.freshName]) (.file w.pieces.flatten)) :=
    sameDirectories_put (by rw [free.lookup?_eq root]; exact nofun)
  have created : Device.reliable.onCreate = none := rfl
  have renamed : Device.reliable.onRename = none := rfl
  unfold replace
  rw [parent, created]
  dsimp only
  rw [put_put, Device.fill_reliable ending, renamed]
  unfold rename
  dsimp only
  rw [free.remove_put, same.destination_eq_ok.mp target]
  rfl

end FileSystem

end DenseMedium
