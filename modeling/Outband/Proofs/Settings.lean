import Outband.Proofs.Fields
import Outband.Proofs.JsonTrees
import Outband.Proofs.TomlTrees
import Outband.Proofs.YamlTrees
import Mathlib.Data.List.Basic
/-! The settings from files. Each field comes from the environment, or else from the strongest file
that sets it, or else is as it is by itself, whatever the other fields are. -/

namespace Outband.Config

variable {formats : Formats} {files : Files} {env : Environment} {base cover : Json}

/-! One tree over another. -/

theorem opens_overlay {heading : String} (hcover : cover.Tidy) (hobject : cover.isObject)
    (h : base.opens heading) (hopens : cover.opens heading) :
    (base.overlay cover).opens heading := by
  rw [Json.opens] at *
  rw [Json.member?_overlay hcover hobject]
  cases hunder : base.member? heading with
  | none => rwa [Option.merge_none_left]
  | some old =>
    cases hover : cover.member? heading with
    | none => rwa [Option.merge_none_right, ← hunder]
    | some new =>
      rw [hover] at hopens
      exact Json.isObject_overlay hopens

theorem isSectioned_overlay (hcover : cover.Tidy) (h : isSectioned base)
    (hsectioned : isSectioned cover) : isSectioned (base.overlay cover) := by
  obtain ⟨hobject, hopens⟩ := Bool.and_eq_true_iff.mp hsectioned
  refine Bool.and_eq_true_iff.mpr ⟨Json.isObject_overlay hobject, ?_⟩
  rw [List.all_eq_true] at *
  exact fun heading hmem => opens_overlay hcover hobject
    (List.all_eq_true.mp (Bool.and_eq_true_iff.mp h).2 heading hmem) (hopens heading hmem)

theorem inTree?_eq (f : Field) (tree : Json) :
    f.inTree? tree = (tree.member? f.heading).bind (·.member? f.key) := by
  rw [Field.inTree?, Json.at?_cons]
  refine congrArg _ (funext fun inner => ?_)
  rw [Json.at?_cons]
  exact Option.bind_fun_some _

/-- Each field is laid over what was there by itself. -/
theorem inTree?_overlay {f : Field} (hf : f ∈ fields) (hcover : cover.Tidy)
    (hsectioned : isSectioned cover) :
    f.inTree? (base.overlay cover) =
      Option.merge Json.overlay (f.inTree? base) (f.inTree? cover) := by
  obtain ⟨hobject, hopens⟩ := Bool.and_eq_true_iff.mp hsectioned
  have hopen := List.all_eq_true.mp hopens f.heading (heading_mem_headings f hf)
  rw [Json.opens] at hopen
  rw [inTree?_eq, inTree?_eq, inTree?_eq, Json.member?_overlay hcover hobject]
  cases hover : cover.member? f.heading with
  | none => rw [Option.merge_none_right, Option.bind_none, Option.merge_none_right]
  | some new =>
    rw [hover] at hopen
    cases base.member? f.heading with
    | none => rw [Option.merge_none_left, Option.bind_none, Option.merge_none_left]
    | some old => exact Json.member?_overlay (hcover.member? hover) hopen

/-! The files. -/

/-- The trees that the parsers read are tidy: their tables have the keys in order, and each once. -/
structure Formats.Tidy (formats : Formats) : Prop where
  json : ∀ {content tree}, formats.json content = some tree → tree.Tidy
  toml : ∀ {content tree}, formats.toml content = some tree → tree.Tidy
  yaml : ∀ {content tree}, formats.yaml content = some tree → tree.Tidy

theorem Formats.plain_tidy : plain.Tidy where
  json := Json.tidy_of_parse?
  toml := Toml.tidy_of_parse?
  yaml := Yaml.tidy_of_parse?

/-- Whatever the format of a file, the tree that it is read as is tidy. -/
theorem Formats.Tidy.of_parseFile (ht : formats.Tidy) {path content : String} {tree : Json}
    (h : parseFile formats path content = .ok tree) : tree.Tidy := by
  unfold parseFile at h
  extract_lets orElse at h
  have horElse : ∀ fault read, orElse fault read = .ok tree → read = some tree := by
    intro fault read h
    cases read with
    | none => cases h
    | some other => cases h; rfl
  split at h
  · exact ht.yaml (horElse _ _ h)
  · exact ht.yaml (horElse _ _ h)
  · exact ht.json (horElse _ _ h)
  · exact ht.toml (horElse _ _ h)
  · rcases Option.or_eq_some_iff.mp (horElse _ _ h) with htoml | ⟨-, hyaml⟩
    · exact ht.toml htoml
    · exact ht.yaml hyaml

theorem Formats.Tidy.of_readFile (ht : formats.Tidy) {path : String} {tree : Json}
    (h : readFile formats files path = .ok tree) : tree.Tidy := by
  unfold readFile at h
  split at h
  · exact ht.of_parseFile h
  · cases h

/-- What a file says of the field. One that does not exist says nothing. -/
def Field.inFile? (f : Field) (formats : Formats) (files : Files) (path : String) : Option Json :=
  if files.exists? path then (readFile formats files path).toOption.bind f.inTree? else none

/-- If the file exists it can be read, and nothing but tables stands where a section may be. -/
def isLegible (formats : Formats) (files : Files) (path : String) : Bool :=
  !files.exists? path || (readFile formats files path).toOption.any isSectioned

/-- What the files say together, each laid over the ones before it. -/
def Field.inFiles? (f : Field) (formats : Formats) (files : Files) (below : Option Json)
    (paths : List String) : Option Json :=
  paths.foldl (fun below path => Option.merge Json.overlay below (f.inFile? formats files path))
    below

theorem exists_of_isLegible {path : String} (h : isLegible formats files path)
    (hexists : files.exists? path) :
    ∃ tree, readFile formats files path = .ok tree ∧ isSectioned tree := by
  rw [isLegible, hexists, Bool.not_true, Bool.false_or] at h
  cases htree : readFile formats files path with
  | error fault =>
    rw [htree] at h
    cases h
  | ok tree =>
    rw [htree] at h
    exact ⟨tree, rfl, h⟩

/-- Files are laid over a tree field by field. -/
theorem exists_layFiles (ht : formats.Tidy) {paths : List String}
    (h : ∀ path ∈ paths, isLegible formats files path) (hbase : isSectioned base) :
    ∃ tree, layFiles formats files base paths = .ok tree ∧ isSectioned tree ∧
      ∀ f ∈ fields, f.inTree? tree = f.inFiles? formats files (f.inTree? base) paths := by
  induction paths generalizing base with
  | nil => exact ⟨base, rfl, hbase, fun _ _ => rfl⟩
  | cons path rest ih =>
    obtain ⟨hpath, hrest⟩ := List.forall_mem_cons.mp h
    rw [layFiles]
    by_cases hexists : files.exists? path
    · rw [if_pos hexists]
      obtain ⟨cover, hread, hcover⟩ := exists_of_isLegible hpath hexists
      have htidy := ht.of_readFile hread
      obtain ⟨tree, htree, hsectioned, hfields⟩ := ih hrest (isSectioned_overlay htidy hbase hcover)
      refine ⟨tree, by rw [hread]; exact htree, hsectioned, fun f hf => ?_⟩
      have hown : f.inFile? formats files path = f.inTree? cover := by
        rw [Field.inFile?, if_pos hexists, hread]
        rfl
      rw [hfields f hf, inTree?_overlay hf htidy hcover, Field.inFiles?, Field.inFiles?,
        List.foldl_cons, hown]
    · rw [if_neg hexists]
      obtain ⟨tree, htree, hsectioned, hfields⟩ := ih hrest hbase
      refine ⟨tree, htree, hsectioned, fun f hf => ?_⟩
      have hown : f.inFile? formats files path = none := if_neg hexists
      rw [hfields f hf, Field.inFiles?, Field.inFiles?, List.foldl_cons, hown,
        Option.merge_none_right]

theorem settles_ofFiles (ht : formats.Tidy) {paths : List String}
    (h : ∀ path ∈ paths, isLegible formats files path) :
    Settles (ofFiles formats files env paths) env (·.inFiles? formats files none paths) := by
  have hempty : isSectioned (.object []) := rfl
  obtain ⟨tree, htree, hsectioned, hfields⟩ := exists_layFiles ht h hempty
  have houtcome : ofFiles formats files env paths = ofTree env tree := by
    rw [ofFiles, htree]
    rfl
  rw [houtcome]
  exact (settles_ofTree hsectioned).congr hfields

/-- What the file in the home directory says, if there is one. -/
def Field.inHome? (f : Field) (formats : Formats) (files : Files) (env : Environment)
    (onRecord : Option String) : Option Json :=
  (homeDirectory env onRecord).bind fun home => f.inFile? formats files (Path.join home homeFile)

/-- The value in the stronger of two files, or else the one in the weaker. If both are tables the
stronger one only covers the weaker. -/
def stronger? : Option Json → Option Json → Option Json
  | some (.object below), some (.object above) => some ((Json.object below).overlay (.object above))
  | _, some above => some above
  | below, none => below

/-- Below a section nothing but two tables is laid over each other. -/
theorem merge_overlay (below above : Option Json) :
    Option.merge Json.overlay below above = stronger? below above := by
  unfold stronger?
  split
  · rfl
  · rename_i value hobjects
    cases below with
    | none => rfl
    | some base =>
      have hcovered : base.overlay value = value := by
        unfold Json.overlay
        split
        · exact (hobjects _ _ rfl rfl).elim
        · rfl
      exact congrArg some hcovered
  · exact Option.merge_none_right

/-- Loading is settled field by field, whatever documents the parsers of the formats read. What the
environment sets comes first, then what the project's file says, then what the home directory's file
says. A file that is given takes the place of both. -/
theorem load_settles_fields (ht : formats.Tidy) (files : Files) (env : Environment)
    (onRecord : Option String) :
    (files.exists? systemFile = false → env.lookup fileVariable = none →
      (∀ home, homeDirectory env onRecord = some home →
        isLegible formats files (Path.join home homeFile)) →
      isLegible formats files projectFile →
      Settles (load formats files env onRecord none) env fun f =>
        stronger? (f.inHome? formats files env onRecord) (f.inFile? formats files projectFile)) ∧
    (∀ path, files.exists? path → isLegible formats files path →
      Settles (load formats files env onRecord (some path)) env (·.inFile? formats files path) ∧
      (env.lookup fileVariable = some path →
        Settles (load formats files env onRecord none) env (·.inFile? formats files path))) := by
  have hone : ∀ path, isLegible formats files path →
      Settles (ofFiles formats files env [path]) env (·.inFile? formats files path) :=
    fun path hpath =>
      (settles_ofFiles ht (List.forall_mem_singleton.mpr hpath)).congr fun f _ =>
        Option.merge_none_left
  refine ⟨fun hsystem hvariable hhome hproject => ?_,
    fun path hexists hpath => ⟨?_, fun hvariable => ?_⟩⟩
  · rw [load, standardFiles, hvariable]
    have hlegible : ∀ path ∈ [systemFile] ++
        ((homeDirectory env onRecord).map (Path.join · homeFile)).toList ++ [projectFile],
        isLegible formats files path := by
      intro path hpath
      rcases List.mem_append.mp hpath with hpath | hpath
      · rcases List.mem_append.mp hpath with hpath | hpath
        · rw [List.mem_singleton.mp hpath, isLegible, hsystem]
          rfl
        · obtain ⟨home, hdirectory, rfl⟩ := Option.map_eq_some_iff.mp (Option.mem_toList.mp hpath)
          exact hhome home hdirectory
      · rw [List.mem_singleton.mp hpath]
        exact hproject
    refine (settles_ofFiles ht hlegible).congr fun f _ => ?_
    have hmissing : f.inFile? formats files systemFile = none :=
      if_neg (by rw [hsystem]; exact Bool.false_ne_true)
    rw [← merge_overlay, Field.inHome?, Field.inFiles?]
    cases homeDirectory env onRecord <;> simp [hmissing]
  · rw [load, if_pos hexists]
    exact hone path hpath
  · rw [load, standardFiles, hvariable]
    exact hone path hpath

/-- A section that both files have, the weaker one in a home directory that is only on record, a key
that no setting has, and a file that takes the place of both. -/
theorem load_settles_fields_of_sections :
    let home := "[bmc]\nusername = \"root\"\npassword = \"calvin\"\n"
    let project := "[bmc]\nusername = \"admin\"\nrack = 7\n"
    let lab := "server:\n  bind_to: 0.0.0.0:80\n"
    let files : Files := { entries :=
      [(["home"], .directory), (["home", homeFile], .file (Text.bytesOf home) false),
        ([projectFile], .file (Text.bytesOf project) false),
        (["lab.yaml"], .file (Text.bytesOf lab) false)] }
    let env : Environment := [("BMC_ACTOR_S3_ENABLED", "YES")]
    let onRecord := some "/home"
    let named := (fileVariable, "lab.yaml") :: env
    (files.exists? systemFile = false ∧ env.lookup fileVariable = none ∧
      homeDirectory env onRecord = some "/home" ∧
      isLegible .plain files (Path.join "/home" homeFile) ∧ isLegible .plain files projectFile ∧
      Settles (load .plain files env onRecord none) env (fun f =>
        stronger? (f.inHome? .plain files env onRecord) (f.inFile? .plain files projectFile)) ∧
      load .plain files env onRecord none = .ok
        { bmc := { username := "admin", password := "calvin" }, s3 := { enabled := true } }) ∧
    files.exists? "lab.yaml" ∧ isLegible .plain files "lab.yaml" ∧
      named.lookup fileVariable = some "lab.yaml" ∧
      Settles (load .plain files env onRecord (some "lab.yaml")) env
        (·.inFile? .plain files "lab.yaml") ∧
      Settles (load .plain files named onRecord none) named (·.inFile? .plain files "lab.yaml") ∧
      load .plain files named onRecord none = .ok
        { server := { bindTo := "0.0.0.0:80" }, s3 := { enabled := true } } := by
  intro home project lab files env onRecord named
  have hsystem : files.exists? systemFile = false := by decide +kernel
  have hvariable : env.lookup fileVariable = none := by decide
  have hdirectory : homeDirectory env onRecord = some "/home" := by decide
  have hhome : isLegible .plain files (Path.join "/home" homeFile) := by decide +kernel
  have hproject : isLegible .plain files projectFile := by decide +kernel
  have hexists : files.exists? "lab.yaml" := by decide +kernel
  have hlab : isLegible .plain files "lab.yaml" := by decide +kernel
  have hfiles := (load_settles_fields Formats.plain_tidy files env onRecord).1 hsystem hvariable
    (fun path hpath => by
      obtain rfl : "/home" = path := Option.some.inj (hdirectory.symm.trans hpath)
      exact hhome) hproject
  have hgiven :=
    ((load_settles_fields Formats.plain_tidy files env onRecord).2 "lab.yaml" hexists hlab).1
  have hnamed :=
    ((load_settles_fields Formats.plain_tidy files named onRecord).2 "lab.yaml" hexists hlab).2 rfl
  have hvalues : load .plain files env onRecord none = .ok
      { bmc := { username := "admin", password := "calvin" }, s3 := { enabled := true } } := by
    decide +kernel
  have hlabValues : load .plain files named onRecord none = .ok
      { server := { bindTo := "0.0.0.0:80" }, s3 := { enabled := true } } := by
    decide +kernel
  exact ⟨⟨hsystem, hvariable, hdirectory, hhome, hproject, hfiles, hvalues⟩, hexists, hlab, rfl,
    hgiven, hnamed, hlabValues⟩

/-- The project's file has a table where a format should stand, and no format in it. Over the table
in the home directory's file it changes nothing, and that one passes for a format. -/
theorem load_merges_tables :
    let files : Files := { entries :=
      [(["home"], .directory),
        (["home", homeFile], .file (Text.bytesOf "[logging.format]\njson = nan\n") false),
        ([projectFile], .file (Text.bytesOf "[logging.format]\n") false)] }
    let env : Environment := [("HOME", "/home")]
    files.exists? systemFile = false ∧ env.lookup fileVariable = none ∧
      isLegible .plain files (Path.join "/home" homeFile) ∧ isLegible .plain files projectFile ∧
      (∃ f ∈ fields, (f.inFile? .plain files projectFile).any fun value =>
        (f.read value).isNone) ∧
      load .plain files env none none = .ok { logging := { format := .json } } := by
  intro files env
  refine ⟨by decide +kernel, by decide, by decide +kernel, by decide +kernel, ?_, by decide +kernel⟩
  exact List.any_eq_true.mp (by decide +kernel : fields.any fun f =>
    (f.inFile? .plain files projectFile).any fun value => (f.read value).isNone)

/-! A file by name. -/

theorem withEnvironment_cons (path : String) (env : Environment) (c : Config) :
    c.withEnvironment ((fileVariable, path) :: env) = c.withEnvironment env := by
  have hother : ∀ entry ∈ overrides, entry.1 ≠ fileVariable := by
    simp [overrides, fileVariable]
  rw [withEnvironment_eq, withEnvironment_eq]
  refine List.foldl_ext _ _ _ fun c entry hentry => ?_
  rw [override, override, List.lookup_cons, beq_eq_false_iff_ne.mpr (hother entry hentry)]

theorem ofFiles_cons (formats : Formats) (files : Files) (path : String) (env : Environment)
    (paths : List String) :
    ofFiles formats files ((fileVariable, path) :: env) paths =
      ofFiles formats files env paths := by
  unfold ofFiles
  simp only [withEnvironment_cons]

/-- A file that the variable names is loaded like one that is given just if it exists. One that does
not is passed over, and what is loaded are the defaults. -/
theorem load_named_iff (formats : Formats) (files : Files) (env : Environment)
    (onRecord : Option String) (path : String) :
    ((load formats files env onRecord (some path)).toOption =
      (load formats files ((fileVariable, path) :: env) onRecord none).toOption ↔
        files.exists? path) ∧
    load formats files ((fileVariable, path) :: env) onRecord none =
      if files.exists? path then load formats files env onRecord (some path)
      else .ok (({} : Config).withEnvironment env) := by
  have hvariable : load formats files ((fileVariable, path) :: env) onRecord none =
      ofFiles formats files env [path] := by
    rw [load, standardFiles, List.lookup_cons_self]
    exact ofFiles_cons formats files path env [path]
  by_cases hexists : files.exists? path
  · have hgiven : load formats files env onRecord (some path) = ofFiles formats files env [path] :=
      if_pos hexists
    rw [if_pos hexists, hvariable, hgiven]
    exact ⟨iff_of_true rfl hexists, rfl⟩
  · have hgiven : load formats files env onRecord (some path) = .error (.notFound path) :=
      if_neg hexists
    have hdefault : ofFiles formats files env [path] =
        .ok (({} : Config).withEnvironment env) := by
      rw [ofFiles, layFiles, if_neg hexists]
      rfl
    rw [if_neg hexists, hvariable, hgiven, hdefault]
    exact ⟨iff_of_false nofun hexists, rfl⟩

/-- The file that is asked for is not there, and the defaults are loaded in its place. -/
theorem load_passes_over_named :
    load .plain {} [] none (some "gone.toml") = .error (.notFound "gone.toml") ∧
      load .plain {} [(fileVariable, "gone.toml")] none none = .ok {} := by
  decide +kernel

end Outband.Config
