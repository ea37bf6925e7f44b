import DenseMedium.Files.Conversion
import DenseMedium.Proofs.Files.Replacement
import DenseMedium.Proofs.Structured.Safety

/-!
Conversions change one file or none.

A conversion runs on a file system and a device that may fail at any step. It reads and decodes all
of its input before it touches anything, and the one thing that it does to files is to replace its
output.

* `perform`: a job, run on a device and a file system. `agrees_conversions`: on a device that never
  fails the conversions do what they do on a file system by itself.
* `readStructured_cases`: reading a structured file ends with a refusal, or with the grid that the
  file holds. A device that breaks while it is read from never passes for a shorter file.
* `AllOrNothing`: what a job may do that makes a file. `allOrNothing_replace` derives it from
  `FileSystem.replace_cases`, for whatever is written, and `allOrNothing_readStructured` for what
  reads a structured file first.
* `conversions_all_or_nothing`: the three conversions, on every device, from every input.
-/

namespace DenseMedium

/-! ### What is written -/

namespace Structured

variable {g : VoxelGrid} {l : Json.Layout} {b : Bytes} {x : Failure}

/-- Whether bytes are the document of a grid. A sink with room takes them, and the encoder answers with
them if memory holds them. -/
structure IsDocument (l : Json.Layout) (g : VoxelGrid) (b : Bytes) : Prop where
  written : ∀ room, b.length ≤ room → write room l g = .ok ⟨b, .ok ()⟩
  encodes : Encodes l g b

/-- What has been written when the writing ends well is a document. -/
theorem isDocument_of_ending (h : (writing l g).ending = .ok ()) :
    IsDocument l g (writing l g).pieces.flatten := by
  obtain ⟨document, fits⟩ := hasDocument_of_ending h
  rw [document.writing_eq fits]
  refine ⟨fun room long => ?_, document.encodes l⟩
  rw [document.write_eq, if_pos fits, Written.ofPieces_of_fits long]

theorem IsDocument.ending (h : IsDocument l g b) : (writing l g).ending = .ok () :=
  Writing.ending_of_into (h.written b.length (Nat.le_refl _))

/-- A grid with a document has finite coefficients. -/
theorem IsDocument.finite (h : IsDocument l g b) (size : g.values.size = g.extent.volume) :
    ∀ v ∈ g.values, v.isFinite = true :=
  ((firstNonFinite?_eq_none size).mp (hasDocument_of_ending h.ending).1.finite).2

/-- Writing a complete grid fails with a refusal only, if memory holds the spaces of one level. -/
theorem refused_of_ending (complete : g.Complete) (fits : l.Fits)
    (h : (writing l g).ending = .error x) : ∃ e, x = .refused e := by
  rcases firstNonFinite?_cases complete.bounded with ⟨p, found⟩ | finite
  · rw [writing_of_refused found] at h
    cases h
    exact ⟨_, rfl⟩
  · have document : HasDocument g := ⟨finite, isCuttable_of_positive complete.positive⟩
    rw [document.writing_eq fits] at h
    cases h

end Structured

namespace FileSystem

/-- What the file system reads under a path is a whole file, or it breaks. -/
theorem read_cases {fs : FileSystem} {p : FilePath} {source : Source} (h : fs.read p = .ok source) :
    (∃ content, source = ⟨[content], .complete⟩) ∨ ∃ e, source.ending = .broken e := by
  unfold read at h
  split at h
  · cases h
  · split at h
    · cases h
    · cases h
      exact .inr ⟨_, rfl⟩
    · cases h
      exact .inl ⟨_, rfl⟩

end FileSystem

namespace Conversion

variable {α β : Type} {d : Device} {fs : FileSystem} {p : FilePath}

/-! ### Jobs -/

/-- Something to be done with the files of a device. -/
abbrev Job (α : Type) := ExceptT Failure (ReaderT Device (StateM FileSystem)) α

/-- Runs a job. -/
def perform (job : Job α) (d : Device) (fs : FileSystem) : Outcome α × FileSystem :=
  job.run.run d fs

theorem perform_bind (job : Job α) (next : α → Job β) : perform (job >>= next) d fs =
    match perform job d fs with
    | (.ok a, fs') => perform (next a) d fs'
    | (.error x, fs') => (.error x, fs') := by
  change (match perform job d fs with
    | (r, fs') => (ExceptT.bindCont next r : ReaderT Device (StateM FileSystem) _) d fs') = _
  cases perform job d fs with
  | mk r fs' =>
    cases r with
    | ok a => rfl
    | error x => rfl

theorem perform_settled (x : Outcome α) : perform (settled x) d fs = (x, fs) := rfl

theorem perform_read :
    perform (liftM (Storage.read p : ReaderT Device (StateM FileSystem) _)) d fs =
      (.ok (fs.read p >>= d.read), fs) := rfl

theorem perform_replace (w : Writing) : perform (replace p w) d fs = fs.replace d p w := rfl

/-- A job may end with the empty answer. -/
theorem perform_eq_bind_pure (job : Job Unit) :
    perform job d fs = perform (job >>= fun _ => pure ()) d fs := by
  rw [perform_bind]
  cases perform job d fs with
  | mk r fs' =>
    cases r with
    | ok u => rfl
    | error x => rfl

/-- A job for files of which no device is known does what it does on a device that never fails. -/
def Agrees (job : ExceptT Failure (StateM FileSystem) α) (job' : Job α) : Prop :=
  ∀ fs, job.run fs = perform job' .reliable fs

theorem Agrees.bind {job : ExceptT Failure (StateM FileSystem) α} {job' : Job α}
    {next : α → ExceptT Failure (StateM FileSystem) β} {next' : α → Job β} (h : Agrees job job')
    (h' : ∀ a, Agrees (next a) (next' a)) : Agrees (job >>= next) (job' >>= next') := by
  intro fs
  rw [perform_bind, ← h fs]
  change (match job.run fs with
    | (r, fs') => (ExceptT.bindCont next r : StateM FileSystem _) fs') = _
  cases job.run fs with
  | mk r fs' =>
    cases r with
    | ok a => exact h' a fs'
    | error x => rfl

theorem agrees_readStructured (p : FilePath) :
    Agrees (readStructured p) (readStructured p) := by
  refine Agrees.bind (fun _ => rfl) fun _ => Agrees.bind (fun _ => rfl) fun r => ?_
  cases r with
  | ok source => exact fun _ => rfl
  | error e => exact fun _ => rfl

/-- The conversions of a file system by itself are those on a device that never fails. -/
theorem agrees_conversions :
    (∀ input output, Agrees (toBinary input output) (toBinary input output)) ∧
    (∀ input output blockSize,
      Agrees (toMajorant input output blockSize) (toMajorant input output blockSize)) ∧
    ∀ g p l, Agrees (writeStructured g p l) (writeStructured g p l) := by
  refine ⟨fun input output => ?_, fun input output blockSize => ?_, fun g p l => ?_⟩
  · exact (agrees_readStructured input).bind fun _ => Agrees.bind (fun _ => rfl) fun _ _ => rfl
  · exact (agrees_readStructured input).bind fun _ => Agrees.bind (fun _ => rfl) fun _ =>
      Agrees.bind (fun _ => rfl) fun _ _ => rfl
  · exact Agrees.bind (fun _ => rfl) fun _ _ => rfl

/-! ### Reading -/

def HasExtension (p : FilePath) : Prop := p.extension? = some (Ascii.encode structuredExtension)

instance (p : FilePath) : Decidable (HasExtension p) := inferInstanceAs (Decidable (_ = _))

theorem checkExtension_eq (p : FilePath) : checkExtension p =
    if HasExtension p then .ok () else refuse (.unsupportedExtension p structuredExtension) := rfl

/-- Whether a structured file holds a grid. -/
structure Holds (fs : FileSystem) (p : FilePath) (g : VoxelGrid) : Prop where
  extension : HasExtension p
  decodes : ∃ content, fs.read p = .ok ⟨[content], .complete⟩ ∧
    Structured.read ⟨[content], .complete⟩ = .ok g

theorem perform_readStructured (d : Device) (fs : FileSystem) (p : FilePath) :
    perform (readStructured p) d fs =
      (checkExtension p >>= fun _ =>
        match fs.read p >>= d.read with
        | .error e => refuse (.io e)
        | .ok source => Structured.read source, fs) := by
  unfold readStructured
  rw [perform_bind, perform_settled]
  cases checkExtension p with
  | error x => rfl
  | ok u =>
    dsimp only
    rw [perform_bind, perform_read]
    dsimp only
    cases fs.read p >>= d.read with
    | error e => rfl
    | ok source => rfl

/-- Reading a structured file touches nothing. It ends with a refusal or with the grid of the file.
-/
theorem readStructured_cases (d : Device) (fs : FileSystem) (p : FilePath) :
    (∃ x, perform (readStructured p) d fs = (refuse x, fs)) ∨
      ∃ g, perform (readStructured p) d fs = (.ok g, fs) ∧ Holds fs p g := by
  rw [perform_readStructured, checkExtension_eq]
  by_cases extension : HasExtension p
  · rw [if_pos extension, ok_bind]
    cases opened : fs.read p >>= d.read with
    | error e => exact .inl ⟨_, rfl⟩
    | ok source =>
      dsimp only
      rcases Structured.read_cases source with ⟨x, refused⟩ | ⟨g, made, -⟩
      · exact .inl ⟨x, congrArg (·, fs) refused⟩
      · refine .inr ⟨g, congrArg (·, fs) made, extension, ?_⟩
        -- A source that breaks is not decoded, so neither the file system nor the device broke it.
        have unbroken : ∀ e, source.ending ≠ .broken e := by
          intro e broken
          exact Structured.read_of_broken broken made
        obtain ⟨whole, found, read⟩ := bind_eq_ok.mp opened
        rcases Device.read_cases read with rfl | ⟨e, broken⟩
        · rcases FileSystem.read_cases found with ⟨content, rfl⟩ | ⟨e, broken⟩
          · exact ⟨content, found, made⟩
          · exact absurd broken (unbroken e)
        · exact absurd broken (unbroken e)
  · rw [if_neg extension]
    exact .inl ⟨_, rfl⟩

theorem readStructured_reliable {g : VoxelGrid} (h : Holds fs p g) :
    perform (readStructured p) .reliable fs = (.ok g, fs) := by
  obtain ⟨extension, content, found, made⟩ := h
  rw [perform_readStructured, checkExtension_eq, if_pos extension, ok_bind, found, ok_bind]
  exact congrArg (·, fs) made

/-! ### All or nothing -/

/-- Whether a file system differs from another by the content of the file of a path only. -/
structure Replaced (fs fs' : FileSystem) (p : FilePath) (content : Bytes) : Prop where
  start : fs'.workingDirectory = fs.workingDirectory
  place : ∃ place, fs.destination p = .ok place ∧ fs'.lookup? place = some (.file content) ∧
    ∀ q, q ≠ place → fs'.lookup? q = fs.lookup? q
  read : fs'.read p = .ok ⟨[content], .complete⟩

theorem replaced_put {place : Location} {content : Bytes} (target : fs.destination p = .ok place) :
    Replaced fs (fs.put place (.file content)) p content := by
  obtain ⟨directory, name, leads, rfl⟩ := FileSystem.destination_eq_ok.mp target
  have root : directory ++ [name] ≠ [] := by simp
  have found : (fs.put (directory ++ [name]) (.file content)).lookup? (directory ++ [name]) =
      some (.file content) := FileSystem.lookup?_put_same root
  have same : FileSystem.SameDirectories fs (fs.put (directory ++ [name]) (.file content)) :=
    FileSystem.sameDirectories_put leads.vacant
  exact ⟨rfl, ⟨_, target, found, fun q other => FileSystem.lookup?_put_of_ne other⟩,
    (same.leadsTo leads).read_eq_ok found⟩

/-- Whether a file can be replaced as far as paths go. -/
def Writable (fs : FileSystem) (p : FilePath) : Prop :=
  (∃ directory, fs.directory FileSystem.temporaryLength p.directory = .ok directory) ∧
    ∃ place, fs.destination p = .ok place

/-- What a job may do that makes the file of a path, for an answer in the end. `Makes content` says
that there is such a content to be made, and `Faulty` that a fault may come in between. -/
structure AllOrNothing (d : Device) (fs : FileSystem) (p : FilePath) (answer : α)
    (Makes : Bytes → Prop) (Faulty : Prop) (ran : Outcome α × FileSystem) : Prop where
  /-- The job fails and leaves the file system as it was, or it replaces one file. -/
  settled : (∃ x, ran = (.error x, fs) ∧ ((∃ e, x = .refused e) ∨ Faulty)) ∨
    ∃ content, Makes content ∧ ran.1 = .ok answer ∧ Replaced fs ran.2 p content
  /-- It does not fail for other reasons than those of the input, the paths and the device. -/
  reliable : d = .reliable → (∃ content, Makes content) → Writable fs p → ran.1 = .ok answer

section Jobs

variable {Makes : Bytes → Prop} {Faulty : Prop} {answer : α} {w : Writing}

/-- A job that fails before it has touched anything. -/
theorem AllOrNothing.failed {x : Failure} (cause : (∃ e, x = .refused e) ∨ Faulty)
    (never : d = .reliable → ¬ ∃ content, Makes content) :
    AllOrNothing d fs p answer Makes Faulty (.error x, fs) where
  settled := .inl ⟨x, rfl, cause⟩
  reliable h made := absurd made (never h)

/-- A job that ends with replacing a file. -/
theorem allOrNothing_replace (makes : w.ending = .ok () → Makes w.pieces.flatten)
    (cause : ∀ x, w.ending = .error x → (∃ e, x = .refused e) ∨ Faulty)
    (ends : (∃ content, Makes content) → w.ending = .ok ()) :
    AllOrNothing d fs p answer Makes Faulty
      (perform (replace p w >>= fun _ => pure answer) d fs) := by
  rw [perform_bind, perform_replace]
  constructor
  · rcases fs.replace_cases d p w with ⟨x, failed, why⟩ | ⟨place, ending, target, replaced⟩
    · rw [failed]
      refine .inl ⟨x, rfl, ?_⟩
      rcases why with own | ⟨e, rfl⟩
      · exact cause x own
      · exact .inl ⟨_, rfl⟩
    · rw [replaced]
      exact .inr ⟨_, makes ending, rfl, replaced_put target⟩
  · rintro rfl made ⟨⟨directory, parent⟩, ⟨place, target⟩⟩
    rw [FileSystem.replace_reliable (ends made) parent target]
    rfl

/-- A job that reads a structured file before it does anything else. -/
theorem allOrNothing_readStructured {input : FilePath} {next : VoxelGrid → Job α}
    (held : (∃ content, Makes content) → ∃ g, Holds fs input g)
    (after : ∀ g, Holds fs input g →
      AllOrNothing d fs p answer Makes Faulty (perform (next g) d fs)) :
    AllOrNothing d fs p answer Makes Faulty (perform (readStructured input >>= next) d fs) := by
  rw [perform_bind]
  rcases readStructured_cases d fs input with ⟨x, refused⟩ | ⟨g, read, holds⟩
  · rw [refused]
    refine .failed (.inl ⟨x, rfl⟩) ?_
    rintro rfl made
    obtain ⟨g, holds⟩ := held made
    rw [readStructured_reliable holds] at refused
    cases congrArg Prod.fst refused
  · rw [read]
    exact after g holds

end Jobs

/-! ### The conversions -/

/-- Whether bytes are the stream of a grid. The encoder answers with them if memory holds them. -/
structure IsStream [Record α] (g : Grid α) (content : Bytes) : Prop where
  written : content = (Binary.pieces g).flatten
  encoded : Header.size + Record.size α * g.values.size ≤ Size.maxBytes →
    Binary.encode g = .ok content

theorem isStream_pieces [Record α] (g : Grid α) : IsStream g (Binary.pieces g).flatten where
  written := rfl
  encoded fits := by
    rw [Binary.encode_eq_ok fits, Binary.flatten_pieces]

def MakesBinary (fs : FileSystem) (input : FilePath) (content : Bytes) : Prop :=
  ∃ g, Holds fs input g ∧ IsStream g content

def MakesMajorants (fs : FileSystem) (input : FilePath) (blockSize : UInt32) (content : Bytes) :
    Prop :=
  ∃ g sv, Holds fs input g ∧ Majorant.build g blockSize = .ok sv ∧ IsStream sv.majorants content

def MakesDocument (g : VoxelGrid) (p : FilePath) (l : Json.Layout) (content : Bytes) : Prop :=
  HasExtension p ∧ Structured.IsDocument l g content

/-- A file of more bytes than any memory has. -/
def Overlong (fs : FileSystem) (p : FilePath) : Prop :=
  ∃ content, fs.read p = .ok ⟨[content], .complete⟩ ∧ 2 ^ 63 ≤ content.length

theorem Holds.unique {g g' : VoxelGrid} (h : Holds fs p g) (h' : Holds fs p g') : g = g' := by
  obtain ⟨content, found, made⟩ := h.decodes
  obtain ⟨content', found', made'⟩ := h'.decodes
  cases found.symm.trans found'
  exact Except.ok.inj (made.symm.trans made')

theorem allOrNothing_toBinary (d : Device) (fs : FileSystem) (input : FilePath)
    (output : Option FilePath) :
    AllOrNothing d fs (outputPath .voxelGrid input output) (outputPath .voxelGrid input output)
      (MakesBinary fs input) False (perform (toBinary input output) d fs) := by
  unfold toBinary
  refine allOrNothing_readStructured ?_ fun g holds => ?_
  · rintro ⟨content, g, holds, -⟩
    exact ⟨g, holds⟩
  · refine allOrNothing_replace (fun _ => ?_) (fun x failed => ?_) fun _ => rfl
    · exact ⟨g, holds, isStream_pieces g⟩
    · cases failed

/-- The builder of majorants refuses a grid from a file, unless there are more voxels than memory
holds. -/
theorem build_refused {g : VoxelGrid} {blockSize : UInt32} {x : Failure} (holds : Holds fs p g)
    (failed : Majorant.build g blockSize = .error x) : (∃ e, x = .refused e) ∨ Overlong fs p := by
  obtain ⟨content, found, made⟩ := holds.decodes
  by_cases long : 2 ^ 63 ≤ content.length
  · exact .inr ⟨content, found, long⟩
  · rcases Structured.read_cases ⟨[content], .complete⟩ with
      ⟨x, refused⟩ | ⟨g', made', sound, size⟩
    · cases made.symm.trans refused
    · cases made.symm.trans made'
      have bytes : Source.bytes ⟨[content], .complete⟩ = content := List.append_nil content
      have fits : Cell.width Rgb * g.extent.volume ≤ Size.maxBytes := by
        rw [← sound.complete.size_eq]
        rw [bytes] at size
        change 12 * _ ≤ 9223372036854775807
        omega
      rcases Majorant.build_total sound.complete sound.origin fits blockSize with
        ⟨sv, built⟩ | ⟨axis, refused⟩
      · cases failed.symm.trans built
      · cases failed.symm.trans refused
        exact .inl ⟨_, rfl⟩

theorem allOrNothing_toMajorant (d : Device) (fs : FileSystem) (input : FilePath)
    (output : Option FilePath) (blockSize : UInt32) :
    AllOrNothing d fs (outputPath .majorant input output) (outputPath .majorant input output)
      (MakesMajorants fs input blockSize) (Overlong fs input)
      (perform (toMajorant input output blockSize) d fs) := by
  unfold toMajorant
  refine allOrNothing_readStructured ?_ fun g holds => ?_
  · rintro ⟨content, g, sv, holds, -⟩
    exact ⟨g, holds⟩
  · rw [perform_bind, perform_settled]
    cases built : Majorant.build g blockSize with
    | error x =>
      refine .failed (build_refused holds built) ?_
      rintro - ⟨content, g', sv, holds', built', -⟩
      cases holds.unique holds'
      cases built.symm.trans built'
    | ok sv =>
      refine allOrNothing_replace (fun _ => ?_) (fun x failed => ?_) fun _ => rfl
      · exact ⟨g, sv, holds, built, isStream_pieces sv.majorants⟩
      · cases failed

theorem allOrNothing_writeStructured (d : Device) (fs : FileSystem) (g : VoxelGrid) (p : FilePath)
    (l : Json.Layout) :
    AllOrNothing d fs p () (MakesDocument g p l) (¬ g.Complete ∨ ¬ l.Fits)
      (perform (writeStructured g p l) d fs) := by
  unfold writeStructured
  rw [perform_bind, perform_settled, checkExtension_eq]
  by_cases extension : HasExtension p
  · rw [if_pos extension]
    dsimp only
    rw [perform_eq_bind_pure]
    refine allOrNothing_replace (fun ending => ?_) (fun x failed => ?_) ?_
    · exact ⟨extension, Structured.isDocument_of_ending ending⟩
    · by_cases complete : g.Complete
      · by_cases fits : l.Fits
        · exact .inl (Structured.refused_of_ending complete fits failed)
        · exact .inr (.inr fits)
      · exact .inr (.inl complete)
    · rintro ⟨content, -, document⟩
      exact document.ending
  · rw [if_neg extension]
    refine .failed (.inl ⟨_, rfl⟩) ?_
    rintro - ⟨content, extension', -⟩
    exact extension extension'

/-- Whatever the device and the files are: a conversion fails and leaves every file as it was, or it
answers with its output path and has changed that file only, which then holds the whole stream of
the grid in the input file, or of its majorants. Writing a structured file obeys the same law with
the document of the grid. It may meet a fault where the grid is not complete or memory cannot hold the
spaces of one level, and then leaves every file as it was. It changes nothing if the path has another
extension or a coefficient is not finite. -/
theorem conversions_all_or_nothing (d : Device) (fs : FileSystem) :
    (∀ input output, AllOrNothing d fs (outputPath .voxelGrid input output)
      (outputPath .voxelGrid input output) (MakesBinary fs input) False
      (perform (toBinary input output) d fs)) ∧
    (∀ input output blockSize, AllOrNothing d fs (outputPath .majorant input output)
      (outputPath .majorant input output) (MakesMajorants fs input blockSize) (Overlong fs input)
      (perform (toMajorant input output blockSize) d fs)) ∧
    (∀ g p l, AllOrNothing d fs p () (MakesDocument g p l) (¬ g.Complete ∨ ¬ l.Fits)
      (perform (writeStructured g p l) d fs)) ∧
    ∀ g p l, ¬ HasExtension p ∨
        (g.values.size = g.extent.volume ∧ ∃ v ∈ g.values, v.isFinite = false) →
      ∃ x, perform (writeStructured g p l) d fs = (.error x, fs) := by
  refine ⟨allOrNothing_toBinary d fs, allOrNothing_toMajorant d fs,
    allOrNothing_writeStructured d fs, ?_⟩
  intro g p l unwritable
  rcases (allOrNothing_writeStructured d fs g p l).settled with
    ⟨x, failed, -⟩ | ⟨content, ⟨extension, document⟩, -⟩
  · exact ⟨x, failed⟩
  · rcases unwritable with other | ⟨size, v, hv, infinite⟩
    · exact absurd extension other
    · rw [document.finite size v hv] at infinite
      cases infinite

/-- A file system with one structured file. -/
def oneFile : FileSystem :=
  ⟨[], [([Ascii.encode "a.json"],
    .file (Utf8.bytes (Ascii.decode Structured.plain.text)))]⟩

theorem oneFile_holds : ∃ g, Holds oneFile (Ascii.encode "a.json") g := by
  obtain ⟨g, decoded⟩ := Structured.plain_decodes
  refine ⟨g, by decide +kernel, _, rfl, ?_⟩
  have bytes (b : Bytes) : Source.bytes ⟨[b], .complete⟩ = b := List.append_nil b
  rw [Structured.read_eq, bytes]
  exact decoded

/-- The file is converted beside itself, and no grid is written to a path of another extension. -/
theorem conversions_all_or_nothing_oneFile :
    (∃ content fs', perform (toBinary (Ascii.encode "a.json") none) .reliable oneFile =
        (.ok (Ascii.encode "a.bin"), fs') ∧ MakesBinary oneFile (Ascii.encode "a.json") content ∧
      fs'.read (Ascii.encode "a.bin") = .ok ⟨[content], .complete⟩ ∧
      fs'.lookup? [Ascii.encode "a.json"] = oneFile.lookup? [Ascii.encode "a.json"]) ∧
    ∀ (d : Device) (g : VoxelGrid) (l : Json.Layout), ∃ x,
      perform (writeStructured g (Ascii.encode "a.bin") l) d oneFile = (.error x, oneFile) := by
  obtain ⟨g, holds⟩ := oneFile_holds
  have output : outputPath .voxelGrid (Ascii.encode "a.json") none = Ascii.encode "a.bin" := by
    decide +kernel
  have target : oneFile.destination (Ascii.encode "a.bin") = .ok [Ascii.encode "a.bin"] := by
    decide +kernel
  have writable : Writable oneFile (Ascii.encode "a.bin") :=
    ⟨⟨[], by decide +kernel⟩, _, target⟩
  constructor
  · have law := (conversions_all_or_nothing .reliable oneFile).1 (Ascii.encode "a.json") none
    rw [output] at law
    have done := law.reliable rfl ⟨_, g, holds, isStream_pieces g⟩ writable
    rcases law.settled with ⟨x, failed, -⟩ | ⟨content, makes, -, replaced⟩
    · rw [failed] at done
      cases done
    · obtain ⟨place, found, -, others⟩ := replaced.place
      cases target.symm.trans found
      refine ⟨content, _, Prod.ext done rfl, makes, replaced.read, others _ ?_⟩
      decide +kernel
  · intro d g l
    exact (conversions_all_or_nothing d oneFile).2.2.2 g _ l (.inl (by decide +kernel))

/-- At an indentation that memory cannot hold, a grid is neither written nor refused. Nothing has
changed. -/
theorem conversions_all_or_nothing_overwide : Structured.nearMidpoint.Complete ∧
    ∃ ran : Outcome Unit × FileSystem,
      perform (writeStructured Structured.nearMidpoint (Ascii.encode "a.json") .overwide) .reliable
        oneFile = ran ∧
      ran.1 ≠ .ok () ∧ (∀ e, ran.1 ≠ refuse e) ∧ ran.2 = oneFile := by
  exact ⟨Structured.sound_nearMidpoint.complete,
    (.error (.fault .capacityOverflow), oneFile), by decide +kernel, nofun, nofun, rfl⟩

end Conversion

end DenseMedium
