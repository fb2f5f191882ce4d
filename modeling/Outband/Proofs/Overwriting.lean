import Outband.Proofs.Storage
import Outband.Proofs.Trials
import Outband.Proofs.Upkeep
/-! Screenshots stored one after the other. A reference goes on leading to the last screenshot that was
stored in its file, and whether two share a file is told by their names. -/

namespace Outband

/-- A screenshot of a host, taken at an instant in nanoseconds of Unix time. -/
structure Picture where
  host : String
  shot : Screenshot
  instant : Int
  deriving DecidableEq, Repr

namespace Picture

def second (t : Picture) : Int := t.instant.fdiv 1000000000

def hardware (t : Picture) : String := t.shot.hardware

def extension (t : Picture) : String := t.shot.capture.extension

def name (t : Picture) : String :=
  Screenshot.fileName t.host t.hardware t.extension t.second

/-- What is stored of it, and under which name. -/
def written (t : Picture) : String × Bytes := (t.name, t.shot.capture.payload)

/-- None of its texts has a slash. -/
def IsPlain (t : Picture) : Prop :=
  '/' ∉ t.host.toList ∧ '/' ∉ t.hardware.toList ∧ '/' ∉ t.extension.toList

/-- They are of one host and one kind, within a second. -/
def Agrees (a b : Picture) : Prop :=
  a.host = b.host ∧ a.hardware = b.hardware ∧ a.extension = b.extension ∧ a.second = b.second

/-- They are of one kind and on the same side of the origin of time, or the names of both are
legible. -/
def Comparable (a b : Picture) : Prop :=
  (a.hardware = b.hardware ∧ a.extension = b.extension ∧ (a.instant < 0 ↔ b.instant < 0)) ∨
    Screenshot.IsLegible a.hardware a.extension ∧ Screenshot.IsLegible b.hardware b.extension

/-- They differ in what a name is made of, and their names tell. -/
def Apart (a b : Picture) : Prop := a.IsPlain ∧ b.IsPlain ∧ a.Comparable b ∧ ¬ a.Agrees b

variable {a b : Picture}

theorem second_neg_iff (t : Picture) : t.second < 0 ↔ t.instant < 0 := by
  rw [second, Int.fdiv_eq_ediv_of_nonneg _ (by decide)]
  omega

theorem name_eq_iff (h : a.Comparable b) : a.name = b.name ↔ a.Agrees b := by
  constructor
  · intro hname
    rcases h with ⟨hhardware, hextension, hsign⟩ | ⟨ha, hb⟩
    · rw [← second_neg_iff, ← second_neg_iff] at hsign
      rw [name, name, hhardware, hextension] at hname
      obtain ⟨hhost, hsecond⟩ := Screenshot.fileName_inj_of_same hsign hname
      exact ⟨hhost, hhardware, hextension, hsecond⟩
    · exact Screenshot.fileName_inj ha hb hname
  · rintro ⟨hhost, hhardware, hextension, hsecond⟩
    rw [name, name, hhost, hhardware, hextension, hsecond]

end Picture

namespace Gallery

/-- Stores screenshots one after the other. -/
def persistAll (g : Gallery) : List (String × Bytes) → Files → List (Except StoreError String) × Files
  | [], files => ([], files)
  | (name, payload) :: rest, files =>
    let (answer, files) := g.persist name payload files
    let (answers, files) := g.persistAll rest files
    (answer :: answers, files)

/-- Nothing was stored at a place. -/
def NoneAt (g : Gallery) (files : Files) (writes : List (String × Bytes))
    (answers : List (Except StoreError String)) (p : Place) : Prop :=
  ∀ (k : Nat) name other reference, writes[k]? = some (name, other) →
    files.placeOf (g.path name) = p → answers[k]? ≠ some (.ok reference)

/-- What was stored last at a place, and when in the order. -/
structure LastAt (g : Gallery) (files : Files) (writes : List (String × Bytes))
    (answers : List (Except StoreError String)) (p : Place) (j : Nat) (payload : Bytes) : Prop where
  step : ∃ name, writes[j]? = some (name, payload) ∧ files.placeOf (g.path name) = p
  stored : ∃ reference, answers[j]? = some (.ok reference)
  last : ∀ k name other reference, j < k → writes[k]? = some (name, other) →
    files.placeOf (g.path name) = p → answers[k]? ≠ some (.ok reference)

variable {g : Gallery} {files : Files} {writes : List (String × Bytes)}
  {answers : List (Except StoreError String)} {p : Place} {name : String}
  {content payload : Bytes}

theorem persistAll_cons (g : Gallery) (name : String) (payload : Bytes)
    (rest : List (String × Bytes)) (files : Files) :
    g.persistAll ((name, payload) :: rest) files =
      ((g.persist name payload files).1 :: (g.persistAll rest (g.persist name payload files).2).1,
        (g.persistAll rest (g.persist name payload files).2).2) := rfl

theorem persistAll_here (g : Gallery) (writes : List (String × Bytes)) (files : Files) :
    (g.persistAll writes files).2.here = files.here := by
  induction writes generalizing files with
  | nil => rfl
  | cons first rest ih => exact (ih _).trans (g.persist_here first.1 first.2 files)

theorem persistAll_keeps (g : Gallery) (writes : List (String × Bytes)) (files : Files) :
    files.Keeps (g.persistAll writes files).2 := by
  induction writes generalizing files with
  | nil => exact Files.Keeps.refl files
  | cons first rest ih => exact (g.persist_keeps first.1 first.2 files).trans (ih _)

/-- What an open gallery accepts is stored. -/
theorem persistAll_succeeds (hopen : g.IsOpen files)
    (haccepts : ∀ write ∈ writes, g.Accepts files write.1) :
    (g.persistAll writes files).1 = writes.map fun write => .ok (g.reference write.1) := by
  induction writes generalizing files with
  | nil => rfl
  | cons first rest ih =>
    obtain ⟨name, payload⟩ := first
    have hfirst := haccepts (name, payload) List.mem_cons_self
    obtain ⟨executable, hpersist⟩ := persist_succeeds hopen hfirst payload
    rw [persistAll_cons, hpersist, List.map_cons]
    refine congrArg (_ :: ·) (ih (hopen.put hfirst.vacant) fun write hmem => ?_)
    exact (haccepts write (List.mem_cons_of_mem _ hmem)).put (by simp)

theorem placeOf_persist (g : Gallery) (name : String) (payload : Bytes) (files : Files)
    (path : String) :
    (g.persist name payload files).2.placeOf path = files.placeOf path := by
  rw [Files.placeOf, Files.placeOf, Files.start, Files.start, g.persist_here]

/-- A file that nothing is stored in stays as it is. -/
theorem persist_other {executable : Bool}
    (hfile : files.entry? p = some (.file content executable))
    (hother : ¬ (files.placeOf (g.path name) = p ∧
      (g.persist name payload files).1 = .ok (g.reference name))) :
    Files.entry? (g.persist name payload files).2 p = some (.file content executable) := by
  by_contra hchanged
  rw [← hfile] at hchanged
  rcases persist_changes hchanged with ⟨hspot, hok⟩ | ⟨hnone, -⟩
  · exact hother ⟨hspot.symm, hok⟩
  · rw [hfile] at hnone
    cases hnone

theorem LastAt.succ {j : Nat} {answer : Except StoreError String} {other : Bytes}
    (h : g.LastAt (g.persist name other files).2 writes answers p j payload) :
    g.LastAt files ((name, other) :: writes) (answer :: answers) p (j + 1) payload := by
  obtain ⟨⟨last, hlast, hplace⟩, hstored, hnone⟩ := h
  rw [placeOf_persist] at hplace
  refine ⟨⟨last, hlast, hplace⟩, hstored, fun k name more reference hk hmore hspot => ?_⟩
  cases k with
  | zero => omega
  | succ k =>
    exact hnone k name more reference (by omega) hmore (by rw [placeOf_persist, hspot])

/-- What was stored first was stored last, if nothing came after it. -/
theorem NoneAt.lastAt {reference : String}
    (h : g.NoneAt (g.persist name payload files).2 writes answers p)
    (hplace : files.placeOf (g.path name) = p)
    (hok : (g.persist name payload files).1 = .ok reference) :
    g.LastAt files ((name, payload) :: writes) ((g.persist name payload files).1 :: answers) p 0
      payload := by
  refine ⟨⟨name, rfl, hplace⟩, ⟨reference, congrArg some hok⟩, ?_⟩
  intro k name' other reference hk hstep hspot
  cases k with
  | zero => omega
  | succ k => exact h k name' other reference hstep (by rw [placeOf_persist, hspot])

/-- A file has in the end what was stored in it last, if anything was. -/
theorem persistAll_file {executable : Bool}
    (hfile : files.entry? p = some (.file content executable)) :
    (∃ executable', Files.entry? (g.persistAll writes files).2 p = some (.file content executable')) ∧
        g.NoneAt files writes (g.persistAll writes files).1 p ∨
      ∃ j payload executable', g.LastAt files writes (g.persistAll writes files).1 p j payload ∧
        Files.entry? (g.persistAll writes files).2 p = some (.file payload executable') := by
  induction writes generalizing files content executable with
  | nil => exact Or.inl ⟨⟨executable, hfile⟩, fun k name other reference hstep => by cases hstep⟩
  | cons first rest ih =>
    obtain ⟨name, payload⟩ := first
    rw [persistAll_cons]
    by_cases hhere : files.placeOf (g.path name) = p ∧
        (g.persist name payload files).1 = .ok (g.reference name)
    · obtain ⟨hplace, hok⟩ := hhere
      obtain ⟨-, ⟨executable', hstored, -⟩, -⟩ := persist_stores hok
      rw [hplace] at hstored
      rcases ih hstored with ⟨hsame, hnone⟩ | ⟨j, last, executable'', hlast, hend⟩
      · obtain ⟨executable'', hsame⟩ := hsame
        exact Or.inr ⟨0, payload, executable'', hnone.lastAt hplace hok, hsame⟩
      · exact Or.inr ⟨j + 1, last, executable'', hlast.succ, hend⟩
    · rcases ih (persist_other hfile hhere) with ⟨hsame, hnone⟩ | ⟨j, last, executable', hlast, hend⟩
      · refine Or.inl ⟨hsame, fun k name' other reference hstep hspot hok => ?_⟩
        cases k with
        | zero =>
          cases hstep
          have hok : (g.persist name payload files).1 = .ok reference := Option.some.inj hok
          rw [(persist_stores hok).1] at hok
          exact hhere ⟨hspot, hok⟩
        | succ k => exact hnone k name' other reference hstep (by rw [placeOf_persist, hspot]) hok
      · exact Or.inr ⟨j + 1, last, executable', hlast.succ, hend⟩

/-- What was referred to leads in the end to what was stored last in the same file. -/
theorem persistAll_find {i : Nat} {reference : String} (hstep : writes[i]? = some (name, payload))
    (hok : (g.persistAll writes files).1[i]? = some (.ok reference)) :
    reference = g.reference name ∧
      ∃ j last executable, i ≤ j ∧
        g.LastAt files writes (g.persistAll writes files).1 (files.placeOf (g.path name)) j last ∧
        (g.persistAll writes files).2.find (g.path name) =
          .ok (files.placeOf (g.path name), .file last executable) := by
  induction writes generalizing files i with
  | nil => cases hstep
  | cons first rest ih =>
    cases i with
    | zero =>
      cases hstep
      rw [persistAll_cons] at hok ⊢
      have hok : (g.persist name payload files).1 = .ok reference := Option.some.inj hok
      obtain ⟨hreference, ⟨executable, hstored, hfind⟩, -⟩ := persist_stores hok
      have hkeeps := g.persistAll_keeps rest (g.persist name payload files).2
      have hhere := g.persistAll_here rest (g.persist name payload files).2
      refine ⟨hreference, ?_⟩
      rcases persistAll_file hstored with ⟨⟨executable', hsame⟩, hnone⟩ |
        ⟨j, last, executable', hlast, hend⟩
      · exact ⟨0, payload, executable', Nat.zero_le _, hnone.lastAt rfl hok,
          Files.find_file_keeps hhere hkeeps hfind hsame⟩
      · exact ⟨j + 1, last, executable', Nat.zero_le _, hlast.succ,
          Files.find_file_keeps hhere hkeeps hfind hend⟩
    | succ i =>
      obtain ⟨name', other⟩ := first
      rw [persistAll_cons] at hok ⊢
      obtain ⟨hreference, j, last, executable, hle, hlast, hfind⟩ := ih hstep hok
      rw [placeOf_persist] at hlast hfind
      exact ⟨hreference, j + 1, last, executable, by omega, hlast.succ, hfind⟩

theorem placeOf_path_plain_iff (files : Files) {a b : Picture} (ha : a.IsPlain) (hb : b.IsPlain) :
    files.placeOf (g.path a.name) = files.placeOf (g.path b.name) ↔ a.name = b.name := by
  have hplace {t : Picture} (ht : t.IsPlain) :
      files.placeOf (g.path t.name) = files.placeOf g.directory ++ [t.name] :=
    placeOf_path_plain (Screenshot.slash_notMem_fileName ht.1 ht.2.1 ht.2.2)
      (Screenshot.fileName_ne (by decide)) (Screenshot.fileName_ne (by decide))
      (Screenshot.fileName_ne (by decide))
  rw [hplace ha, hplace hb]
  simp

theorem persistAll_reads {i : Nat} {reference : String}
    (hstep : writes[i]? = some (name, payload))
    (hok : (g.persistAll writes files).1[i]? = some (.ok reference)) :
    reference = g.reference name ∧
      ∃ j last, i ≤ j ∧
        g.LastAt files writes (g.persistAll writes files).1 (files.placeOf (g.path name)) j last ∧
        (g.persistAll writes files).2.read (g.path name) = .ok last := by
  obtain ⟨hreference, j, last, executable, hle, hlast, hfind⟩ := persistAll_find hstep hok
  exact ⟨hreference, j, last, hle, hlast, Files.read_of_find hfind⟩

/-- Of screenshots that are apart none takes the place of another. -/
theorem persistAll_reads_own {shots : List Picture} (hapart : shots.Pairwise Picture.Apart) {i : Nat}
    {shot : Picture} {reference : String} (hshot : shots[i]? = some shot)
    (hok : (g.persistAll (shots.map Picture.written) files).1[i]? = some (.ok reference)) :
    (g.persistAll (shots.map Picture.written) files).2.read (g.path shot.name) =
      .ok shot.shot.capture.payload := by
  have hstep : (shots.map Picture.written)[i]? = some (shot.name, shot.shot.capture.payload) := by
    simp [hshot, Picture.written]
  obtain ⟨-, j, last, hle, hlast, hread⟩ := persistAll_reads hstep hok
  obtain ⟨name, hwritten, hplace⟩ := hlast.step
  rw [List.getElem?_map, Option.map_eq_some_iff] at hwritten
  obtain ⟨other, hother, hwritten⟩ := hwritten
  cases hwritten
  rcases Nat.eq_or_lt_of_le hle with hsame | hlater
  · rw [hsame, hother] at hshot
    cases hshot
    exact hread
  · obtain ⟨hi, hshot⟩ := List.getElem?_eq_some_iff.mp hshot
    obtain ⟨hj, hother⟩ := List.getElem?_eq_some_iff.mp hother
    have hboth := List.pairwise_iff_getElem.mp hapart i j hi hj hlater
    rw [hshot, hother] at hboth
    obtain ⟨hplain, hplain', hcomparable, hdiffer⟩ := hboth
    have hname := (placeOf_path_plain_iff files hplain hplain').mp hplace.symm
    exact absurd ((Picture.name_eq_iff hcomparable).mp hname) hdiffer

end Gallery

/-! Runs of plans in a world that stores screenshots in a gallery. -/

/-- The screenshots that a scene has handed over to be stored, in order. -/
def Scene.stores (s : Scene σ) : List (String × Bytes) :=
  s.calls.filterMap fun
    | .store name payload => some (name, payload)
    | _ => none

namespace Gallery

/-- The world stores screenshots in the gallery, and nothing else that it does changes its files. -/
structure Serves (g : Gallery) (world : World σ) (files : σ → Files) : Prop where
  store : ∀ (name : String) (payload : Bytes) (s : σ),
    (world (.store name payload) s).1.outcome = .returns (g.persist name payload (files s)).1 ∧
      files (world (.store name payload) s).2 = (g.persist name payload (files s)).2
  other : ∀ (call : Call) (s : σ), call.isStore = false → files (world call s).2 = files s

variable {g : Gallery} {world : World σ} {files : σ → Files}

/-- The tool leaves the files alone. -/
theorem serves_ipmi (settings : Ipmi.Settings) (g : Gallery) (tool : Ipmi.Tool τ) :
    g.Serves (Ipmi.world settings g tool) (·.files) where
  store _ _ _ := ⟨rfl, rfl⟩
  other call m hother := by
    cases call with
    | server session op =>
      simp only [Ipmi.world, Ipmi.answer]
      cases hfound : Ipmi.connect settings m.files session.endpoint with
      | ok s =>
        obtain ⟨trials, htried, -⟩ := Ipmi.operate_accounted hfound op
        exact htried.files
      | error cause => rfl
    | store name payload => cases hother
    | _ => rfl

theorem persistAll_concat (g : Gallery) (writes : List (String × Bytes)) (name : String)
    (payload : Bytes) (first : Files) :
    (g.persistAll (writes ++ [(name, payload)]) first).2 =
      (g.persist name payload (g.persistAll writes first).2).2 := by
  induction writes generalizing first with
  | nil => rfl
  | cons write rest ih => exact ih (g.persist write.1 write.2 first).2

/-- Since the scene was this one its files have changed only by the screenshots that were stored, all
of these hosts. -/
def Has (g : Gallery) (files : σ → Files) (hosts : String → Prop) (base s : Scene σ) : Prop :=
  ∃ shots : List Picture, (∀ t ∈ shots, hosts t.host) ∧
    s.stores = base.stores ++ shots.map Picture.written ∧
    files s.world = (g.persistAll (shots.map Picture.written) (files base.world)).2

variable {hosts : String → Prop}

/-- What is stored is a screenshot of one of these hosts, if anything is. -/
def StoresPictures (hosts : String → Prop) (call : Call) : Prop :=
  ∀ name payload, call = .store name payload → ∃ t : Picture, hosts t.host ∧
    t.written = (name, payload)

theorem Serves.upheld (h : g.Serves world files) (base : Scene σ) :
    Scene.Upheld (StoresPictures hosts) world (g.Has files hosts base) where
  ask {s} call hpictures hhas := by
    obtain ⟨shots, hshots, hstores, hfiles⟩ := hhas
    have hcalls : (s.ask world call).2.calls = s.calls ++ [call] := by
      simp [Scene.ask, Scene.note, Scene.calls]
    by_cases hstore : call.isStore = false
    · refine ⟨shots, hshots, ?_, (h.other call s.world hstore).trans hfiles⟩
      rw [← hstores, Scene.stores, Scene.stores, hcalls]
      cases call <;> simp_all [Call.isStore]
    · cases call with
      | store name payload =>
        obtain ⟨t, hhost, hwritten⟩ := hpictures name payload rfl
        refine ⟨shots ++ [t], ?_, ?_, ?_⟩
        · intro t' hmem
          rcases List.mem_append.mp hmem with hold | hnew
          · exact hshots t' hold
          · rw [List.mem_singleton.mp hnew]
            exact hhost
        · rw [List.map_append, ← List.append_assoc, ← hstores, Scene.stores, Scene.stores, hcalls]
          simp [hwritten]
        · rw [List.map_append, List.map_singleton, hwritten, persistAll_concat, ← hfiles]
          exact (h.store name payload s.world).2
      | _ => exact absurd rfl hstore
  moveTo due hhas := hhas
  ended outcome _ hhas := by
    obtain ⟨shots, hshots, hstores, hfiles⟩ := hhas
    refine ⟨shots, hshots, ?_, hfiles⟩
    rw [← hstores, Scene.stores, Scene.stores]
    simp [Scene.note, Scene.calls]

theorem plan_only_storesPictures {plan : Plan}
    (hhosts : ∀ address steps, plan = .server address steps → hosts address) :
    plan.Only (StoresPictures hosts) := by
  refine ⟨fun call hstore name payload heq => ?_,
    fun address steps hplan hardware extension seconds payload => ?_⟩
  · subst heq
    cases hstore
  · rintro name content ⟨⟩
    let picture : Picture := ⟨address, ⟨⟨payload, extension⟩, hardware⟩, seconds * 1000000000⟩
    have hsecond : picture.second = seconds := by
      show (seconds * 1000000000).fdiv 1000000000 = seconds
      rw [Int.fdiv_eq_ediv_of_nonneg _ (by decide), Int.mul_ediv_cancel _ (by decide)]
    refine ⟨picture, hhosts address steps hplan, ?_⟩
    rw [Picture.written, Picture.name, hsecond]
    rfl

/-- Whatever plans are run one after the other, what they store are screenshots of their servers, and
the files are what comes of storing these in order. -/
theorem Serves.runs (h : g.Serves world files) (runs : List (Plan × Credentials × Limit))
    (hhosts : ∀ run ∈ runs, ∀ address steps, run.1 = .server address steps → hosts address)
    {base s : Scene σ} (hhas : g.Has files hosts base s) :
    g.Has files hosts base
      (runs.foldl (fun s run => (run.1.run world run.2.1 run.2.2 s).2) s) := by
  induction runs generalizing s with
  | nil => exact hhas
  | cons run rest ih =>
    have hplan : run.1.Only (StoresPictures hosts) :=
      plan_only_storesPictures (hhosts run List.mem_cons_self)
    refine ih (fun other hmem => hhosts other (List.mem_cons_of_mem _ hmem)) ?_
    exact Plan.run_upheld (h.upheld base) hplan run.2.1 run.2.2 hhas

/-- Every reference leads in the end to what was stored last in its file. Screenshots whose texts have
no slash share a file just when they have the same name, and comparable ones have the same name just
when they agree in host, kind and second, so that those that do not never take the place of one
another. All under names that an open gallery accepts are stored. What a sequence of runs stores is
such a sequence of screenshots. -/
theorem persistAll_reads_last (g : Gallery) :
    (∀ (writes : List (String × Bytes)) (files : Files) (i : Nat) (name : String) (payload : Bytes)
        (reference : String), writes[i]? = some (name, payload) →
      (g.persistAll writes files).1[i]? = some (.ok reference) →
        reference = g.reference name ∧
        ∃ j last, i ≤ j ∧
          g.LastAt files writes (g.persistAll writes files).1 (files.placeOf (g.path name)) j last ∧
          (g.persistAll writes files).2.read (g.path name) = .ok last) ∧
    (∀ (files : Files) (a b : Picture), a.IsPlain → b.IsPlain →
      (files.placeOf (g.path a.name) = files.placeOf (g.path b.name) ↔ a.name = b.name)) ∧
    (∀ a b : Picture, a.Comparable b → (a.name = b.name ↔ a.Agrees b)) ∧
    (∀ (shots : List Picture) (files : Files), shots.Pairwise Picture.Apart →
      ∀ (i : Nat) (shot : Picture) (reference : String), shots[i]? = some shot →
        (g.persistAll (shots.map Picture.written) files).1[i]? = some (.ok reference) →
          (g.persistAll (shots.map Picture.written) files).2.read (g.path shot.name) =
            .ok shot.shot.capture.payload) ∧
    (∀ (shots : List Picture) (files : Files), g.IsOpen files →
      (∀ shot ∈ shots, g.Accepts files shot.name) →
        (g.persistAll (shots.map Picture.written) files).1 =
          shots.map fun shot => .ok (g.reference shot.name)) ∧
    (∀ (σ : Type) (world : World σ) (files : σ → Files), g.Serves world files →
      ∀ (runs : List (Plan × Credentials × Limit)) (scene : Scene σ),
        g.Has files (fun host => ∃ run ∈ runs, ∃ steps, run.1 = .server host steps) scene
          (runs.foldl (fun s run => (run.1.run world run.2.1 run.2.2 s).2) scene)) := by
  refine ⟨fun writes files i name payload reference => persistAll_reads,
    fun files a b => placeOf_path_plain_iff files, fun a b => Picture.name_eq_iff,
    fun shots files hapart i shot reference => persistAll_reads_own hapart,
    fun shots files hopen haccepts => ?_,
    fun σ world files h runs scene => h.runs runs ?_ ⟨[], by simp, by simp, rfl⟩⟩
  · have hwritten : ∀ write ∈ shots.map Picture.written, g.Accepts files write.1 := by
      intro write hmem
      obtain ⟨shot, hshot, rfl⟩ := List.mem_map.mp hmem
      exact haccepts shot hshot
    rw [persistAll_succeeds hopen hwritten, List.map_map]
    rfl
  · intro run hrun address steps hplan
    exact ⟨run, hrun, steps, hplan⟩

/-- Half a second later the same host has a screenshot of the same name, and so has another host at
the same moment if its hardware is named to fit. -/
theorem persistAll_overwrites :
    let g : Gallery := { directory := "shots", urlPrefix := "/screenshot" }
    let early : Picture := ⟨"10.0.0.1", ⟨⟨[1], "png"⟩, "mock"⟩, 1700000000000000000⟩
    let late : Picture := ⟨"10.0.0.1", ⟨⟨[2], "png"⟩, "mock"⟩, 1700000000500000000⟩
    let one : Picture := ⟨"10.0.0.1", ⟨⟨[1], "png"⟩, "2-mock"⟩, 1700000000000000000⟩
    let other : Picture := ⟨"10.0.0.1-2", ⟨⟨[2], "png"⟩, "mock"⟩, 1700000000000000000⟩
    (early.instant ≠ late.instant ∧
      (g.persistAll [early.written, late.written] {}).1 =
        [.ok "/screenshot/10.0.0.1-mock-1700000000.png",
          .ok "/screenshot/10.0.0.1-mock-1700000000.png"] ∧
      (g.persistAll [early.written, late.written] {}).2.read (g.path early.name) = .ok [2]) ∧
    (one.host ≠ other.host ∧
      (g.persistAll [one.written, other.written] {}).1 =
        [.ok "/screenshot/10.0.0.1-2-mock-1700000000.png",
          .ok "/screenshot/10.0.0.1-2-mock-1700000000.png"] ∧
      (g.persistAll [one.written, other.written] {}).2.read (g.path one.name) = .ok [2]) := by
  decide +kernel

end Gallery

end Outband
