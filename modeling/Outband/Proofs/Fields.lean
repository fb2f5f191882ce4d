import Outband.Config.Load
import Outband.Proofs.Overlay
/-! The settings as fields. A tree fits if each field can be read by itself, and the environment
sets each field by a variable of its own. -/

namespace Outband

/-- The name stands for nothing in the tree, or for an object. -/
def Json.opens (tree : Json) (name : String) : Bool := (tree.member? name).all (·.isObject)

namespace Config

/-- A single setting. -/
structure Field where
  Value : Type
  /-- The section and the key that it has in a file. -/
  heading : String
  key : String
  /-- The values that it can have in a file. -/
  read : Json → Option Value
  get : Config → Value
  /-- The variable that takes its place, and what the text of that stands for. -/
  setBy : Option (String × (String → Value)) := none

def fields : List Field :=
  [{ Value := String, heading := "server", key := "bind_to", read := Json.text?
     get := (·.server.bindTo), setBy := some ("BMC_ACTOR_BIND_TO", id) },
   { Value := String, heading := "bmc", key := "username", read := Json.text?
     get := (·.bmc.username), setBy := some ("BMC_ACTOR_BMC_USER", id) },
   { Value := String, heading := "bmc", key := "password", read := Json.text?
     get := (·.bmc.password), setBy := some ("BMC_ACTOR_BMC_PASS", id) },
   { Value := Option String, heading := "ipmi", key := "binary", read := optionalText?
     get := (·.ipmi.binary) },
   { Value := String, heading := "ipmi", key := "interface", read := Json.text?
     get := (·.ipmi.interface) },
   { Value := String, heading := "screenshot", key := "storage", read := Json.text?
     get := (·.screenshot.storage), setBy := some ("BMC_ACTOR_SCREENSHOT_STORAGE", id) },
   { Value := String, heading := "screenshot", key := "url_prefix", read := Json.text?
     get := (·.screenshot.urlPrefix) },
   { Value := Bool, heading := "s3", key := "enabled", read := Json.bool?
     get := (·.s3.enabled)
     setBy := some ("BMC_ACTOR_S3_ENABLED",
       fun value => decide (Text.lowerCase value ∈ ["1", "true", "yes"])) },
   { Value := String, heading := "s3", key := "bucket", read := Json.text?, get := (·.s3.bucket) },
   { Value := String, heading := "s3", key := "folder", read := Json.text?, get := (·.s3.folder) },
   { Value := String, heading := "s3", key := "endpoint", read := Json.text?
     get := (·.s3.endpoint) },
   { Value := String, heading := "s3", key := "region", read := Json.text?, get := (·.s3.region) },
   { Value := String, heading := "s3", key := "access_key_id", read := Json.text?
     get := (·.s3.accessKeyId) },
   { Value := String, heading := "s3", key := "secret_access_key", read := Json.text?
     get := (·.s3.secretAccessKey) },
   { Value := String, heading := "s3", key := "acl", read := Json.text?, get := (·.s3.acl) },
   { Value := String, heading := "logging", key := "level", read := Json.text?
     get := (·.logging.level), setBy := some ("BMC_ACTOR_LOG_LEVEL", id) },
   { Value := LogFormat, heading := "logging", key := "format", read := logFormat?
     get := (·.logging.format) }]

namespace Field

/-- What the field is by what files say of it, or `none` if that has the wrong type. -/
def own? (f : Field) (said : Option Json) : Option f.Value := said.elim (some (f.get {})) f.read

/-- What a variable with this text makes of it, if it is the field's own. -/
def setTo? (f : Field) (name value : String) : Option f.Value :=
  f.setBy.bind fun (own, read) => if own = name then some (read value) else none

/-- What the environment puts in its place. -/
def override? (f : Field) (env : Environment) : Option f.Value :=
  f.setBy.bind fun (name, read) => (env.lookup name).map read

/-- What the field is in the end. A value of the wrong type counts even where the environment
overrides it. -/
def settle? (f : Field) (env : Environment) (said : Option Json) : Option f.Value :=
  (f.own? said).map (f.override? env).getD

/-- What the tree says of the field. -/
def inTree? (f : Field) (tree : Json) : Option Json := tree.at? [f.heading, f.key]

end Field

variable {env : Environment} {tree : Json} {c d : Config} {said : Field → Option Json}

/-! The fields make up the settings. -/

theorem eq_of_fields (h : ∀ f ∈ fields, f.get c = f.get d) : c = d := by
  obtain ⟨⟨_⟩, ⟨_, _⟩, ⟨_, _⟩, ⟨_, _⟩, ⟨_, _, _, _, _, _, _, _⟩, ⟨_, _⟩⟩ := c
  obtain ⟨⟨_⟩, ⟨_, _⟩, ⟨_, _⟩, ⟨_, _⟩, ⟨_, _, _, _, _, _, _, _⟩, ⟨_, _⟩⟩ := d
  simp only [fields, List.forall_mem_cons] at h
  simp [h]

/-- Each field can have any value, whatever the others have. -/
theorem exists_of_fields {value : ∀ f : Field, Option f.Value}
    (h : ∀ f ∈ fields, (value f).isSome) : ∃ c, ∀ f ∈ fields, value f = some (f.get c) := by
  simp only [fields, List.forall_mem_cons, Option.isSome_iff_exists] at h ⊢
  obtain ⟨⟨bindTo, h₁⟩, ⟨username, h₂⟩, ⟨password, h₃⟩, ⟨binary, h₄⟩, ⟨interface, h₅⟩,
    ⟨storage, h₆⟩, ⟨urlPrefix, h₇⟩, ⟨enabled, h₈⟩, ⟨bucket, h₉⟩, ⟨folder, h₁₀⟩,
    ⟨endpoint, h₁₁⟩, ⟨region, h₁₂⟩, ⟨accessKeyId, h₁₃⟩, ⟨secretAccessKey, h₁₄⟩, ⟨acl, h₁₅⟩,
    ⟨level, h₁₆⟩, ⟨format, h₁₇⟩, -⟩ := h
  exact ⟨⟨⟨bindTo⟩, ⟨username, password⟩, ⟨binary, interface⟩, ⟨storage, urlPrefix⟩,
    ⟨enabled, bucket, folder, endpoint, region, accessKeyId, secretAccessKey, acl⟩,
    ⟨level, format⟩⟩, h₁, h₂, h₃, h₄, h₅, h₆, h₇, h₈, h₉, h₁₀, h₁₁, h₁₂, h₁₃, h₁₄, h₁₅, h₁₆, h₁₇,
    nofun⟩

/-! The environment. -/

/-- One variable taking the place of what it sets. -/
def override (env : Environment) (c : Config) (entry : String × (String → Config → Config)) :
    Config :=
  match env.lookup entry.1 with
  | some value => entry.2 value c
  | none => c

theorem withEnvironment_eq (env : Environment) (c : Config) :
    c.withEnvironment env = overrides.foldl (override env) c := rfl

/-- A variable reaches its own field and no other. -/
theorem get_set : ∀ f ∈ fields, ∀ entry ∈ overrides, ∀ value c,
    f.get (entry.2 value c) = (f.setTo? entry.1 value).getD (f.get c) := by
  simp [fields, overrides, Field.setTo?, isOn]

theorem setBy_mem_overrides :
    ∀ f ∈ fields, ∀ own ∈ f.setBy, own.1 ∈ overrides.map (·.1) := by
  simp [fields, overrides]

theorem get_override {f : Field} {entry : String × (String → Config → Config)}
    (h : ∀ value c, f.get (entry.2 value c) = (f.setTo? entry.1 value).getD (f.get c)) :
    f.get (override env c entry) =
      ((env.lookup entry.1).bind (f.setTo? entry.1)).getD (f.get c) := by
  rw [override]
  cases env.lookup entry.1 with
  | none => rfl
  | some value => exact h value c

/-- Only a variable of its own counts for the field. -/
theorem bind_setTo? (f : Field) (env : Environment) (name : String) :
    (env.lookup name).bind (f.setTo? name) =
      f.setBy.bind fun (own, read) => if own = name then (env.lookup own).map read else none := by
  unfold Field.setTo?
  cases f.setBy with
  | none => cases env.lookup name <;> rfl
  | some own =>
    by_cases hown : own.1 = name
    · subst hown
      cases hvalue : env.lookup own.1 <;> simp [hvalue]
    · cases env.lookup name <;> simp [hown]

/-- Of variables with different names, only its own counts for a field. -/
theorem get_foldl_override {f : Field} {entries : List (String × (String → Config → Config))}
    (h : ∀ entry ∈ entries, ∀ value c,
      f.get (entry.2 value c) = (f.setTo? entry.1 value).getD (f.get c))
    (hnames : (entries.map (·.1)).Nodup) :
    f.get (entries.foldl (override env) c) =
      (f.setBy.bind fun (own, read) =>
        if own ∈ entries.map (·.1) then (env.lookup own).map read else none).getD (f.get c) := by
  induction entries generalizing c with
  | nil => cases f.setBy <;> rfl
  | cons entry rest ih =>
    obtain ⟨hentry, hrest⟩ := List.forall_mem_cons.mp h
    obtain ⟨hname, hnames⟩ := List.nodup_cons.mp hnames
    rw [List.foldl_cons, ih hrest hnames, get_override hentry, bind_setTo?, List.map_cons]
    cases f.setBy with
    | none => rfl
    | some own =>
      -- The variable of the field comes now and not again, or later, or not at all.
      by_cases howns : own.1 = entry.1
      · simp [howns, hname]
      · by_cases hlater : own.1 ∈ rest.map (·.1) <;> simp [hlater, howns]

/-- The environment sets each field by its own variable. -/
theorem get_withEnvironment {f : Field} (hf : f ∈ fields) :
    f.get (c.withEnvironment env) = (f.override? env).getD (f.get c) := by
  have hnames : (overrides.map (·.1)).Nodup := by decide
  rw [withEnvironment_eq, get_foldl_override (get_set f hf) hnames, Field.override?]
  cases hsetBy : f.setBy with
  | none => rfl
  | some own =>
    simp only [Option.bind_some, if_pos (setBy_mem_overrides f hf own hsetBy)]

/-! A tree, of which nothing but objects stands where a section may be. -/

def headings : List String := ["server", "bmc", "ipmi", "screenshot", "s3", "logging"]

theorem heading_mem_headings : ∀ f ∈ fields, f.heading ∈ headings := by
  simp [fields, headings]

def isSectioned (tree : Json) : Bool := tree.isObject && headings.all tree.opens

/-- The members of a section. -/
def sectionOf (tree : Json) (heading : String) : List (String × Json) :=
  match tree.member? heading with
  | some (.object inner) => inner
  | _ => []

section Sections

variable {heading key : String} {members : List (String × Json)}

theorem lookup_sectionOf (h : tree.opens heading) :
    (sectionOf tree heading).lookup key = tree.at? [heading, key] := by
  rw [Json.opens] at h
  rw [sectionOf, Json.at?_cons]
  cases hinner : tree.member? heading with
  | none => rfl
  | some inner =>
    rw [hinner] at h
    cases inner with
    | object members =>
      show members.lookup key = (members.lookup key).bind some
      rw [Option.bind_fun_some]
    | _ => cases h

theorem field?_eq {α : Type} (key : String) (read : Json → Option α) (default : α) :
    field? members key read default = (members.lookup key).elim (some default) read := by
  rw [field?]
  cases members.lookup key <;> rfl

/-- A section that is missing is read like an empty one. -/
theorem field?_section {α : Type} {read : Json → Option α} {default : α}
    (h : (Json.object members).opens heading) (hempty : read (.object []) = some default) :
    field? members heading read default = read (.object (sectionOf (.object members) heading)) := by
  rw [field?_eq, sectionOf, Json.member?]
  rw [Json.opens, Json.member?] at h
  cases hinner : members.lookup heading with
  | none => exact hempty.symm
  | some inner =>
    rw [hinner] at h
    cases inner with
    | object => rfl
    | _ => cases h

theorem server_ofJson?_iff : Server.ofJson? (.object members) = some c.server ↔
    ∀ f ∈ fields, f.heading = "server" → f.own? (members.lookup f.key) = some (f.get c) := by
  obtain ⟨⟨_⟩, _, _, _, _, _⟩ := c
  simp [Server.ofJson?, fieldsOf?, fields, Field.own?, field?_eq, Option.bind_eq_some_iff]

theorem bmc_ofJson?_iff : Bmc.ofJson? (.object members) = some c.bmc ↔
    ∀ f ∈ fields, f.heading = "bmc" → f.own? (members.lookup f.key) = some (f.get c) := by
  obtain ⟨_, ⟨_, _⟩, _, _, _, _⟩ := c
  simp [Bmc.ofJson?, fieldsOf?, fields, Field.own?, field?_eq, Option.bind_eq_some_iff]

theorem ipmi_ofJson?_iff : Ipmi.ofJson? (.object members) = some c.ipmi ↔
    ∀ f ∈ fields, f.heading = "ipmi" → f.own? (members.lookup f.key) = some (f.get c) := by
  obtain ⟨_, _, ⟨_, _⟩, _, _, _⟩ := c
  simp [Ipmi.ofJson?, fieldsOf?, fields, Field.own?, field?_eq, Option.bind_eq_some_iff]

theorem screenshot_ofJson?_iff : Screenshot.ofJson? (.object members) = some c.screenshot ↔
    ∀ f ∈ fields, f.heading = "screenshot" → f.own? (members.lookup f.key) = some (f.get c) := by
  obtain ⟨_, _, _, ⟨_, _⟩, _, _⟩ := c
  simp [Screenshot.ofJson?, fieldsOf?, fields, Field.own?, field?_eq, Option.bind_eq_some_iff]

theorem s3_ofJson?_iff : S3.ofJson? (.object members) = some c.s3 ↔
    ∀ f ∈ fields, f.heading = "s3" → f.own? (members.lookup f.key) = some (f.get c) := by
  obtain ⟨_, _, _, _, ⟨_, _, _, _, _, _, _, _⟩, _⟩ := c
  simp [-Bool.exists_bool, S3.ofJson?, fieldsOf?, fields, Field.own?, field?_eq,
    Option.bind_eq_some_iff]

theorem logging_ofJson?_iff : Logging.ofJson? (.object members) = some c.logging ↔
    ∀ f ∈ fields, f.heading = "logging" → f.own? (members.lookup f.key) = some (f.get c) := by
  obtain ⟨_, _, _, _, _, ⟨_, _⟩⟩ := c
  simp [Logging.ofJson?, fieldsOf?, fields, Field.own?, field?_eq, Option.bind_eq_some_iff]

/-- A section is read as its fields are. -/
theorem section_iff {α : Type} {read : Json → Option α} {default value : α}
    (hopens : (Json.object members).opens heading)
    (hread : ∀ inner, read (.object inner) = some value ↔
      ∀ f ∈ fields, f.heading = heading → f.own? (inner.lookup f.key) = some (f.get c))
    (hempty : read (.object []) = some default) :
    field? members heading read default = some value ↔
      ∀ f ∈ fields, f.heading = heading →
        f.own? (f.inTree? (.object members)) = some (f.get c) := by
  rw [field?_section hopens hempty, hread]
  refine forall₂_congr fun f _ => forall_congr' fun hf => ?_
  subst hf
  rw [lookup_sectionOf hopens, Field.inTree?]

/-- A tree is read field by field. -/
theorem ofJson?_eq_some_iff (h : isSectioned tree) :
    ofJson? tree = some c ↔ ∀ f ∈ fields, f.own? (f.inTree? tree) = some (f.get c) := by
  obtain ⟨hobject, hopens⟩ := Bool.and_eq_true_iff.mp h
  cases tree with
  | object members =>
    simp only [headings, List.all_cons, List.all_nil, Bool.and_eq_true, and_true] at hopens
    obtain ⟨hserver, hbmc, hipmi, hscreenshot, hs3, hlogging⟩ := hopens
    have hsections : ofJson? (.object members) = some c ↔
        field? members "server" Server.ofJson? {} = some c.server ∧
        field? members "bmc" Bmc.ofJson? {} = some c.bmc ∧
        field? members "ipmi" Ipmi.ofJson? {} = some c.ipmi ∧
        field? members "screenshot" Screenshot.ofJson? {} = some c.screenshot ∧
        field? members "s3" S3.ofJson? {} = some c.s3 ∧
        field? members "logging" Logging.ofJson? {} = some c.logging := by
      obtain ⟨_, _, _, _, _, _⟩ := c
      simp [ofJson?, fieldsOf?, Option.bind_eq_some_iff]
    rw [hsections, section_iff hserver (fun _ => server_ofJson?_iff) rfl,
      section_iff hbmc (fun _ => bmc_ofJson?_iff) rfl,
      section_iff hipmi (fun _ => ipmi_ofJson?_iff) rfl,
      section_iff hscreenshot (fun _ => screenshot_ofJson?_iff) rfl,
      section_iff hs3 (fun _ => s3_ofJson?_iff) rfl,
      section_iff hlogging (fun _ => logging_ofJson?_iff) rfl]
    constructor
    · rintro ⟨hserver, hbmc, hipmi, hscreenshot, hs3, hlogging⟩ f hf
      have hheading := heading_mem_headings f hf
      simp only [headings, List.mem_cons, List.not_mem_nil, or_false] at hheading
      rcases hheading with heq | heq | heq | heq | heq | heq
      · exact hserver f hf heq
      · exact hbmc f hf heq
      · exact hipmi f hf heq
      · exact hscreenshot f hf heq
      · exact hs3 f hf heq
      · exact hlogging f hf heq
    · intro hall
      exact ⟨fun f hf _ => hall f hf, fun f hf _ => hall f hf, fun f hf _ => hall f hf,
        fun f hf _ => hall f hf, fun f hf _ => hall f hf, fun f hf _ => hall f hf⟩
  | _ => cases hobject

end Sections

/-- The settings that a tree gives, or else that it does not fit. -/
def ofTree (env : Environment) (tree : Json) : Except LoadError Config :=
  match ofJson? tree with
  | some c => .ok (c.withEnvironment env)
  | none => .error .layout

/-- The outcome is settled field by field: settings in which each field is what it comes to by
itself, or an error if one of them has a value of the wrong type. -/
structure Settles (outcome : Except LoadError Config) (env : Environment)
    (said : Field → Option Json) : Prop where
  ok_iff : ∀ c, outcome = .ok c ↔ ∀ f ∈ fields, f.settle? env (said f) = some (f.get c)
  error_iff : outcome = .error .layout ↔
    ∃ f ∈ fields, ∃ value, said f = some value ∧ f.read value = none

theorem own?_eq_none_iff {f : Field} {said : Option Json} :
    f.own? said = none ↔ ∃ value, said = some value ∧ f.read value = none := by
  cases said <;> simp [Field.own?]

theorem ofJson?_eq_none_iff (h : isSectioned tree) :
    ofJson? tree = none ↔ ∃ f ∈ fields, f.own? (f.inTree? tree) = none := by
  constructor
  · intro hnone
    by_contra hall
    have hsome : ∀ f ∈ fields, (f.own? (f.inTree? tree)).isSome := fun f hf =>
      Option.isSome_iff_ne_none.mpr fun hown => hall ⟨f, hf, hown⟩
    obtain ⟨c, hc⟩ := exists_of_fields hsome
    rw [(ofJson?_eq_some_iff h).mpr hc] at hnone
    cases hnone
  · rintro ⟨f, hf, hown⟩
    cases htree : ofJson? tree with
    | none => rfl
    | some c =>
      rw [(ofJson?_eq_some_iff h).mp htree f hf] at hown
      cases hown

theorem settles_ofTree (h : isSectioned tree) : Settles (ofTree env tree) env (·.inTree? tree) where
  ok_iff c := by
    constructor
    · intro hok f hf
      cases htree : ofJson? tree with
      | none =>
        rw [ofTree, htree] at hok
        cases hok
      | some own =>
        rw [ofTree, htree] at hok
        cases hok
        rw [Field.settle?, (ofJson?_eq_some_iff h).mp htree f hf, Option.map_some,
          get_withEnvironment hf]
    · intro hall
      have hsome : ∀ f ∈ fields, (f.own? (f.inTree? tree)).isSome := by
        intro f hf
        have hsettle := hall f hf
        obtain ⟨own, hown, -⟩ := Option.map_eq_some_iff.mp hsettle
        rw [hown]
        rfl
      obtain ⟨own, hown⟩ := exists_of_fields hsome
      rw [ofTree, (ofJson?_eq_some_iff h).mpr hown]
      refine congrArg Except.ok (eq_of_fields fun f hf => ?_)
      have hsettle := hall f hf
      rw [Field.settle?, hown f hf, Option.map_some] at hsettle
      rw [get_withEnvironment hf]
      exact Option.some.inj hsettle
  error_iff := by
    simp only [← own?_eq_none_iff]
    rw [← ofJson?_eq_none_iff h, ofTree]
    cases ofJson? tree <;> simp

theorem Settles.congr {outcome : Except LoadError Config} {other : Field → Option Json}
    (h : Settles outcome env said) (heq : ∀ f ∈ fields, said f = other f) :
    Settles outcome env other where
  ok_iff c := by
    rw [h.ok_iff]
    exact forall₂_congr fun f hf => by rw [heq f hf]
  error_iff := by
    rw [h.error_iff]
    exact exists_congr fun f => and_congr_right fun hf => by rw [heq f hf]

end Config

end Outband
