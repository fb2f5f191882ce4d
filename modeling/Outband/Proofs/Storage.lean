import Outband.Gallery
import Outband.Http.Route
import Outband.Proofs.FileNames
import Outband.Proofs.Places
/-! Where a gallery puts the screenshots it is given. All that is written is one file. It is right
below the directory of the gallery just when its name goes down again by the names of the levels that
it climbed, and by one more: a name made of texts without a slash does not climb. -/

namespace Outband

namespace Gallery

variable {g : Gallery} {name : String} {payload : Bytes} {files : Files}

/-- How many levels above the directory a name starts to go down: all of them if it is a path from
the root, else as many as it climbs. -/
def levels (home : Place) (name : String) : Nat :=
  if Path.isAbsolute name then home.length else (Path.course (Path.pieces name)).1

/-- The name goes down by the names of the levels it climbed, and by one more. -/
def ComesBack (home : Place) (name : String) : Prop :=
  ∃ last, (Path.course (Path.pieces name)).2 = home.drop (home.length - levels home name) ++ [last]

theorem child_iff_comesBack (g : Gallery) (name : String) (files : Files) :
    (∃ last, files.placeOf (g.path name) = files.placeOf g.directory ++ [last]) ↔
      ComesBack (files.placeOf g.directory) name := by
  rw [path, Files.placeOf_join, ComesBack, levels]
  by_cases habsolute : Path.isAbsolute name
  · rw [if_pos habsolute, if_pos habsolute, Nat.sub_self, List.drop_zero, Path.lead_eq_along]
    simp [Path.along]
  · rw [if_neg habsolute, if_neg habsolute]
    exact Path.lead_child_iff

/-- The directory of the gallery is there. -/
def IsOpen (g : Gallery) (files : Files) : Prop :=
  g.directory ≠ "" → files.find g.directory = .ok (files.placeOf g.directory, .directory)

theorem IsOpen.walks (h : g.IsOpen files) :
    files.Walks (files.start g.directory) (Path.pieces g.directory)
      (.entry (files.placeOf g.directory) .directory) := by
  by_cases hempty : g.directory = ""
  · rw [Files.placeOf, hempty]
    exact .here _
  · exact Files.walks_of_find (h hempty)

theorem IsOpen.zero_notMem (h : g.IsOpen files) : '\x00' ∉ g.directory.toList := by
  by_cases hempty : g.directory = ""
  · simp [hempty]
  · exact (Files.checkPath_eq_ok_iff.mp (Files.find_eq_ok_iff.mp (h hempty)).1).1

theorem isAbsolute_plain (hslash : '/' ∉ name.toList) : Path.isAbsolute name = false := by
  rw [Path.isAbsolute, beq_eq_false_iff_ne]
  intro hhead
  exact hslash (List.mem_of_mem_head? hhead)

/-- A name that is one piece, and none that is read as a way, is that of a file in the directory. -/
theorem placeOf_path_plain (hslash : '/' ∉ name.toList) (hempty : name ≠ "") (hstay : name ≠ ".")
    (hup : name ≠ "..") : files.placeOf (g.path name) = files.placeOf g.directory ++ [name] := by
  rw [path, Files.placeOf_join, isAbsolute_plain hslash, Path.pieces_name hslash hempty]
  simp [Path.lead, Path.step, hstay, hup]

/-- What comes of storing a screenshot. The directories that were missing are made first; what fails
leaves nothing else behind, and otherwise one file is put where its path leads. -/
theorem persist_cases (g : Gallery) (name : String) (payload : Bytes) (files : Files) :
    ((∃ fault, (g.persist name payload files).1 = .error (.write (g.path name) fault)) ∧
      Files.Grown (files.start g.directory) (Path.pieces g.directory) files
        (g.persist name payload files).2) ∨
    (g.persist name payload files).1 = .ok (g.reference name) ∧
      ∃ made executable,
        Files.Grown (files.start g.directory) (Path.pieces g.directory) files made ∧
        (g.directory ≠ "" →
          made.find g.directory = .ok (files.placeOf g.directory, .directory)) ∧
        made.entry? (files.placeOf (g.path name)) ≠ some .directory ∧
        (g.persist name payload files).2 =
          made.put (files.placeOf (g.path name)) (.file payload executable) ∧
        (g.persist name payload files).2.find (g.path name) =
          .ok (files.placeOf (g.path name), .file payload executable) := by
  obtain ⟨hgrown, hgood⟩ := files.createDirectory_grown g.directory
  unfold persist
  cases hmade : files.createDirectory g.directory with
  | mk outcome made =>
    rw [hmade] at hgrown hgood
    cases outcome with
    | error fault => exact Or.inl ⟨⟨_, rfl⟩, hgrown⟩
    | ok _ =>
      dsimp only
      cases hwrite : made.write (g.path name) payload with
      | error fault => exact Or.inl ⟨⟨_, rfl⟩, hgrown⟩
      | ok after =>
        obtain ⟨executable, hother, hafter, hfind⟩ := Files.write_ok hwrite
        have hplace : made.placeOf (g.path name) = files.placeOf (g.path name) := by
          rw [Files.placeOf, Files.placeOf, hgrown.start_eq]
        rw [hplace] at hother hafter hfind
        exact Or.inr ⟨rfl, made, executable, hgrown, hgood rfl, hother, hafter, hfind⟩

theorem persist_here (g : Gallery) (name : String) (payload : Bytes) (files : Files) :
    (g.persist name payload files).2.here = files.here := by
  rcases g.persist_cases name payload files with
    ⟨-, hgrown⟩ | ⟨-, made, executable, hgrown, -, -, hafter, -⟩
  · exact hgrown.here
  · rw [hafter]
    exact hgrown.here

theorem persist_keeps (g : Gallery) (name : String) (payload : Bytes) (files : Files) :
    files.Keeps (g.persist name payload files).2 := by
  rcases g.persist_cases name payload files with
    ⟨-, hgrown⟩ | ⟨-, made, executable, hgrown, -, hother, hafter, -⟩
  · exact hgrown.keeps
  · rw [hafter]
    exact hgrown.keeps.trans (Files.keeps_put hother)

/-- Storing changes the file that the path leads to, if it succeeds. Else it only adds directories on
the way to that of the gallery. -/
theorem persist_changes {p : Place}
    (hp : Files.entry? (g.persist name payload files).2 p ≠ files.entry? p) :
    p = files.placeOf (g.path name) ∧
        (g.persist name payload files).1 = .ok (g.reference name) ∨
      files.entry? p = none ∧ Files.entry? (g.persist name payload files).2 p = some .directory ∧
        ∃ way, way <+: Path.pieces g.directory ∧ p = Path.lead (files.start g.directory) way := by
  rcases g.persist_cases name payload files with
    ⟨-, hgrown⟩ | ⟨hok, made, executable, hgrown, -, hother, hafter, -⟩
  · rcases hgrown.entry p with hsame | ⟨hway, hnone, hnew⟩
    · exact absurd hsame hp
    · exact Or.inr ⟨hnone, hnew, hway⟩
  · have hput := Files.entry?_put made (.file payload executable) (Files.ne_root hother) p
    rw [← hafter] at hput
    by_cases hspot : p = files.placeOf (g.path name)
    · exact Or.inl ⟨hspot, hok⟩
    · rw [if_neg hspot] at hput
      rcases hgrown.entry p with hsame | ⟨hway, hnone, hnew⟩
      · exact absurd (hput.trans hsame) hp
      · exact Or.inr ⟨hnone, hput.trans hnew, hway⟩

/-- Where storing succeeds, the path leads to a file with what was stored, and the directory of the
gallery exists. -/
theorem persist_stores {reference : String}
    (hok : (g.persist name payload files).1 = .ok reference) :
    reference = g.reference name ∧
      (∃ executable,
        Files.entry? (g.persist name payload files).2 (files.placeOf (g.path name)) =
          some (.file payload executable) ∧
        (g.persist name payload files).2.find (g.path name) =
          .ok (files.placeOf (g.path name), .file payload executable)) ∧
      (g.directory ≠ "" →
        (g.persist name payload files).2.find g.directory =
          .ok (files.placeOf g.directory, .directory)) := by
  rcases g.persist_cases name payload files with
    ⟨⟨fault, hfault⟩, -⟩ | ⟨hanswer, made, executable, hgrown, hhome, hother, hafter, hfind⟩
  · rw [hok] at hfault
    cases hfault
  · rw [hok] at hanswer
    cases hanswer
    have hput := Files.entry?_put made (.file payload executable) (Files.ne_root hother)
      (files.placeOf (g.path name))
    rw [if_pos rfl, ← hafter] at hput
    refine ⟨rfl, ⟨executable, hput, hfind⟩, fun hdirectory => ?_⟩
    rw [hafter]
    refine Files.find_directory_keeps ?_ (Files.keeps_put hother) (hhome hdirectory)
    rfl

/-- The gallery can store under a name: one piece of a path that can be the name of an entry, and that
no directory has. -/
structure Accepts (g : Gallery) (files : Files) (name : String) : Prop where
  slash : '/' ∉ name.toList
  zero : '\x00' ∉ name.toList
  nonempty : name ≠ ""
  isName : Files.IsName name
  vacant : files.entry? (files.placeOf g.directory ++ [name]) ≠ some .directory

/-- A file where no directory is leaves the gallery open. -/
theorem IsOpen.put {p : Place} {content : Bytes} {executable : Bool} (h : g.IsOpen files)
    (hother : files.entry? p ≠ some .directory) :
    g.IsOpen (files.put p (.file content executable)) := by
  intro hdirectory
  have hhere : (files.put p (.file content executable)).here = files.here := rfl
  exact Files.find_directory_keeps hhere (Files.keeps_put hother) (h hdirectory)

theorem Accepts.put {p : Place} {content : Bytes} {executable : Bool} (h : g.Accepts files name)
    (hp : p ≠ []) : g.Accepts (files.put p (.file content executable)) name where
  slash := h.slash
  zero := h.zero
  nonempty := h.nonempty
  isName := h.isName
  vacant := by
    show Files.entry? (files.put p (.file content executable))
      (files.placeOf g.directory ++ [name]) ≠ some .directory
    rw [Files.entry?_put _ _ hp]
    split
    · simp
    · exact h.vacant

/-- The path of a name that is accepted is one that can be asked for, of a file. -/
theorem Accepts.path_ok (h : g.Accepts files name) (hopen : g.IsOpen files) :
    Files.checkPath (g.path name) = .ok () ∧ Path.endsInSlash (g.path name) = false := by
  obtain ⟨front, hfront, hjoin⟩ :=
    Path.exists_toList_join g.directory (isAbsolute_plain h.slash)
  have hne : name.toList ≠ [] := fun hnil => h.nonempty (String.toList_eq_nil_iff.mp hnil)
  have hzero : '\x00' ∉ (g.path name).toList := by
    rw [path, hjoin]
    intro hzero
    rcases List.mem_append.mp hzero with hzero | hzero
    · rcases hfront _ hzero with hzero | hzero
      · exact hopen.zero_notMem hzero
      · cases hzero
    · exact h.zero hzero
  have hnonempty : g.path name ≠ "" := by
    intro hnil
    rw [path] at hnil
    rw [hnil] at hjoin
    exact hne (List.append_eq_nil_iff.mp hjoin.symm).2
  refine ⟨Files.checkPath_eq_ok_iff.mpr ⟨hzero, hnonempty⟩, ?_⟩
  rw [Path.endsInSlash, path, hjoin, List.getLast?_append_of_ne_nil _ hne, beq_eq_false_iff_ne]
  intro hlast
  exact h.slash (List.mem_of_getLast? hlast)

theorem Accepts.walk (h : g.Accepts files name) (hopen : g.IsOpen files) :
    files.walk (files.start (g.path name)) (Path.pieces (g.path name)) =
      .ok (files.look (files.placeOf g.directory ++ [name])) := by
  rw [path, Path.pieces_join, Files.start, Path.isAbsolute_join, isAbsolute_plain h.slash,
    Bool.false_or, if_neg Bool.false_ne_true, Path.pieces_name h.slash h.nonempty]
  exact (hopen.walks.append (.last h.isName)).walk

/-- Where the directory is there, what is stored under a name that it accepts is stored. -/
theorem persist_succeeds (hopen : g.IsOpen files) (h : g.Accepts files name) (payload : Bytes) :
    ∃ executable, g.persist name payload files =
      (.ok (g.reference name),
        files.put (files.placeOf g.directory ++ [name]) (.file payload executable)) := by
  obtain ⟨hpath, hslash⟩ := h.path_ok hopen
  obtain ⟨executable, hwrite⟩ : ∃ executable, files.write (g.path name) payload =
      .ok (files.put (files.placeOf g.directory ++ [name]) (.file payload executable)) :=
    Files.write_look hpath hslash (h.walk hopen) h.vacant
  refine ⟨executable, ?_⟩
  unfold persist
  rw [Files.createDirectory_exists hopen]
  simp only [hwrite]

/-- A screenshot is stored in one file and nowhere else, and that file is right below the directory of
the gallery just when its name comes back from where it climbs. A name made of texts without a slash
does not climb, and the system takes it, up to a length, where the directory is there. -/
theorem persist_inside_iff (g : Gallery) (host hardware extension : String) (seconds : Int)
    (payload : Bytes) (files : Files) :
    let name := Screenshot.fileName host hardware extension seconds
    let home := files.placeOf g.directory
    let spot := files.placeOf (g.path name)
    let answer := (g.persist name payload files).1
    let after := (g.persist name payload files).2
    (∀ p, after.entry? p ≠ files.entry? p →
      p = spot ∧ answer = .ok (g.reference name) ∨
        files.entry? p = none ∧ after.entry? p = some .directory ∧
          ∃ way, way <+: Path.pieces g.directory ∧ p = Path.lead (files.start g.directory) way) ∧
    (∀ reference, answer = .ok reference →
      (∃ executable, after.entry? spot = some (.file payload executable) ∧
        after.find (g.path name) = .ok (spot, .file payload executable)) ∧
      (g.directory ≠ "" → after.find g.directory = .ok (home, .directory))) ∧
    ((∃ last, spot = home ++ [last]) ↔ ComesBack home name) ∧
    ('/' ∉ host.toList → '/' ∉ hardware.toList → '/' ∉ extension.toList →
      spot = home ++ [name] ∧
        ('\x00' ∉ name.toList → name.utf8ByteSize ≤ Files.maxName → g.IsOpen files →
          files.entry? spot ≠ some .directory → answer = .ok (g.reference name))) := by
  intro name home spot answer after
  refine ⟨fun p hp => persist_changes hp, fun reference hok => (persist_stores hok).2,
    g.child_iff_comesBack name files, fun hhost hhardware hextension => ?_⟩
  have hslash : '/' ∉ name.toList :=
    Screenshot.slash_notMem_fileName hhost hhardware hextension
  have hempty : name ≠ "" := Screenshot.fileName_ne (by decide)
  have hstay : name ≠ "." := Screenshot.fileName_ne (by decide)
  have hup : name ≠ ".." := Screenshot.fileName_ne (by decide)
  have hspot : spot = home ++ [name] := placeOf_path_plain hslash hempty hstay hup
  refine ⟨hspot, fun hzero hlength hopen hother => ?_⟩
  obtain ⟨executable, hpersist⟩ :=
    persist_succeeds hopen ⟨hslash, hzero, hempty, ⟨hstay, hup, hlength⟩, hspot ▸ hother⟩ payload
  exact congrArg Prod.fst hpersist

open Http (Route Device) in
/-- A slash comes encoded in the path of a request, and the host that it is part of is good for a
target. The screenshot of that host is stored beside the directory. -/
theorem persist_climbs :
    let g : Gallery := { directory := "shots", urlPrefix := "/screenshot" }
    let name := Screenshot.fileName "../evil" "idrac9" "png" 1
    let after := (g.persist name [0] {}).2
    Route.ofPath g.mountPath "/host/..%2Fevil" = .device (.host "..%2Fevil") ∧
      (Device.host "..%2Fevil").decode = .ok (.host "../evil") ∧
      (Device.host "../evil").check = .ok () ∧
      Target.ofParams .host (Device.host "../evil").params = .ok (some (.host "../evil")) ∧
      (g.persist name [0] {}).1 = .ok "/screenshot/../evil-idrac9-1.png" ∧
      after.find "shots" = .ok (["shots"], .directory) ∧
      after.entries = [(["shots"], .directory), (["evil-idrac9-1.png"], .file [0] false)] ∧
      after.find (g.path name) = .ok (["evil-idrac9-1.png"], .file [0] false) ∧
      ¬ ["shots"] <+: ["evil-idrac9-1.png"] := by
  decide +kernel

end Gallery

end Outband
