import Outband.CommandLine.Run
import Outband.Ipmi.Rehearsal
import Outband.Proofs.SideBySide
import Outband.Proofs.Trials
/-! The password of the controllers reaches the environment of the tool, and nothing else. Two runs
with different passwords run the tool with the same arguments and come to the same end. -/

namespace Outband

namespace Ipmi

/-- The runs with these arguments, all with the one password. -/
def runsWith (password : String) (lines : List (List String)) : List Invocation :=
  lines.map (⟨·, password⟩)

/-- The state of a tool after it was asked for these runs, whether they could be started or not. -/
def Tool.after (tool : Tool τ) (start : τ) (runs : List Invocation) : τ :=
  runs.foldl (fun state invocation => (tool invocation state).2) start

/-- What comes of a run of the tool depends on the arguments of this run and those before, not on
the passwords in their environment. -/
def Tool.IgnoresPasswords (tool : Tool τ) (start : τ) : Prop :=
  ∀ (runs runs' : List Invocation) (last last' : Invocation),
    runs.map (·.arguments) = runs'.map (·.arguments) → last.arguments = last'.arguments →
      (tool last (tool.after start runs)).1 = (tool last' (tool.after start runs')).1

/-- A tool that looks at nothing but the arguments. -/
theorem Tool.ignoresPasswords_of_arguments {tool : Tool τ}
    (h : ∀ (i i' : Invocation) (state : τ),
      i.arguments = i'.arguments → tool i state = tool i' state)
    (start : τ) : tool.IgnoresPasswords start := by
  intro runs runs' last last' hruns hlast
  have hafter : tool.after start runs = tool.after start runs' := by
    induction runs generalizing runs' start with
    | nil =>
      obtain rfl := List.map_eq_nil_iff.mp hruns.symm
      rfl
    | cons first rest ih =>
      obtain ⟨first', rest', rfl, hfirst, hrest⟩ := List.map_eq_cons_iff.mp hruns.symm
      rw [Tool.after, Tool.after, List.foldl_cons, List.foldl_cons, h first first' _ hfirst.symm]
      exact ih _ _ hrest.symm
  rw [hafter, h last last' _ hlast]

theorem ToolScript.ignoresPasswords (script : ToolScript) :
    Tool.IgnoresPasswords ToolScript.tool script := by
  refine Tool.ignoresPasswords_of_arguments (fun i i' state harguments => ?_) script
  rw [ToolScript.tool, ToolScript.tool, harguments]

/-- The two endpoints differ in their passwords alone. -/
inductive Secrets (p q : String) : Endpoint → Endpoint → Prop
  | intro (host username : String) : Secrets p q ⟨host, username, p⟩ ⟨host, username, q⟩

/-- Machines on which the tool has run alike since the start, with the one password on the first and
with the other on the second. -/
structure Apart (tool : Tool τ) (p q : String) (start m m' : Machine τ) : Prop where
  files : m'.files = m.files
  runs : ∃ lines, m.invocations = start.invocations ++ runsWith p lines ∧
    m'.invocations = start.invocations ++ runsWith q lines
  /-- Those that could not be started are not on record. -/
  state : ∃ tries, m.tool = tool.after start.tool (runsWith p tries) ∧
    m'.tool = tool.after start.tool (runsWith q tries)

section Apart

variable {tool : Tool τ} {p q : String} {start m m' : Machine τ}

theorem Apart.refl (m : Machine τ) : Apart tool p q m m m where
  files := rfl
  runs := ⟨[], by simp [runsWith], by simp [runsWith]⟩
  state := ⟨[], rfl, rfl⟩

theorem runsWith_append (password : String) (lines : List (List String)) (last : List String) :
    runsWith password (lines ++ [last]) = runsWith password lines ++ [⟨last, password⟩] := by
  simp [runsWith]

theorem arguments_runsWith (password : String) (lines : List (List String)) :
    (runsWith password lines).map (·.arguments) = lines := by
  simp [runsWith, Function.comp_def]

theorem Tool.after_append (tool : Tool τ) (state : τ) (runs : List Invocation)
    (last : Invocation) :
    tool.after state (runs ++ [last]) = (tool last (tool.after state runs)).2 := by
  rw [Tool.after, List.foldl_append]
  rfl

variable (htool : tool.IgnoresPasswords start.tool) (hp : '\x00' ∉ p.toList)
  (hq : '\x00' ∉ q.toList)

include htool hp hq

/-- A program is run alike with either password. -/
theorem Apart.run (h : Apart tool p q start m m') (program : String) (arguments : List String) :
    (m'.run tool program ⟨arguments, q⟩).1 = (m.run tool program ⟨arguments, p⟩).1 ∧
      Apart tool p q start (m.run tool program ⟨arguments, p⟩).2
        (m'.run tool program ⟨arguments, q⟩).2 := by
  obtain ⟨lines, hruns, hruns'⟩ := h.runs
  obtain ⟨tries, hstate, hstate'⟩ := h.state
  have hclean : p.toList.contains '\x00' = false := by simpa using hp
  have hclean' : q.toList.contains '\x00' = false := by simpa using hq
  simp only [Machine.run, hclean, hclean', Bool.or_false, h.files]
  split
  · exact ⟨rfl, h⟩
  · split
    · exact ⟨rfl, h⟩
    · have hreply : (tool ⟨arguments, q⟩ m'.tool).1 = (tool ⟨arguments, p⟩ m.tool).1 := by
        rw [hstate, hstate']
        apply htool
        · rw [arguments_runsWith, arguments_runsWith]
        · rfl
      have hafter : ∃ tries,
          (tool ⟨arguments, p⟩ m.tool).2 = tool.after start.tool (runsWith p tries) ∧
            (tool ⟨arguments, q⟩ m'.tool).2 = tool.after start.tool (runsWith q tries) := by
        refine ⟨tries ++ [arguments], ?_, ?_⟩
        · rw [runsWith_append, Tool.after_append, hstate]
        · rw [runsWith_append, Tool.after_append, hstate']
      generalize tool ⟨arguments, p⟩ m.tool = ended at hreply hafter ⊢
      generalize tool ⟨arguments, q⟩ m'.tool = ended' at hreply hafter ⊢
      obtain ⟨reply, state⟩ := ended
      obtain ⟨reply', state'⟩ := ended'
      obtain rfl : reply' = reply := hreply
      cases reply' with
      | error reason => exact ⟨rfl, rfl, h.runs, hafter⟩
      | ok execution =>
        refine ⟨rfl, rfl, ⟨lines ++ [arguments], ?_, ?_⟩, hafter⟩
        · rw [runsWith_append, hruns, List.append_assoc]
        · rw [runsWith_append, hruns', List.append_assoc]

end Apart

/-- On machines that are apart both uses of the tool answer the same, and leave the machines
apart. -/
def Agree (tool : Tool τ) (p q : String) (start : Machine τ) (x y : Use τ α) : Prop :=
  ∀ m m' : Machine τ, Apart tool p q start m m' →
    (y.run m').1 = (x.run m).1 ∧ Apart tool p q start (x.run m).2 (y.run m').2

section Agreeing

variable {tool : Tool τ} {p q : String} {start : Machine τ}

theorem agree_answer (answer : Except DriverError α) :
    Agree tool p q start (ExceptT.mk (pure answer)) (ExceptT.mk (pure answer)) :=
  fun _ _ h => ⟨rfl, h⟩

theorem Agree.bind {x y : Use τ α} {next next' : α → Use τ β} (h : Agree tool p q start x y)
    (hnext : ∀ a, Agree tool p q start (next a) (next' a)) :
    Agree tool p q start (x >>= next) (y >>= next') := by
  intro m m' hm
  obtain ⟨hanswer, hafter⟩ := h m m' hm
  rw [run_bind, run_bind]
  generalize x.run m = ended at hanswer hafter ⊢
  generalize y.run m' = ended' at hanswer hafter ⊢
  obtain ⟨answer, m⟩ := ended
  obtain ⟨answer', m'⟩ := ended'
  obtain rfl : answer = answer' := hanswer.symm
  cases answer with
  | ok a => exact hnext a m m' hafter
  | error cause => exact ⟨rfl, hafter⟩

variable (htool : tool.IgnoresPasswords start.tool) (hp : '\x00' ∉ p.toList)
  (hq : '\x00' ∉ q.toList) (binary interface : String) {e e' : Endpoint} (he : Secrets p q e e')

include htool hp hq he

theorem agree_run (c : Command) :
    Agree tool p q start (Session.run tool ⟨binary, interface, e⟩ c)
      (Session.run tool ⟨binary, interface, e'⟩ c) := by
  obtain ⟨host, username⟩ := he
  intro m m' hm
  obtain ⟨houtcome, hafter⟩ := hm.run htool hp hq binary
    (Session.arguments ⟨binary, interface, ⟨host, username, p⟩⟩ c.words)
  exact ⟨congrArg (Session.reading c) houtcome, hafter⟩

theorem agree_command (c : Command) :
    Agree tool p q start (Session.command tool ⟨binary, interface, e⟩ c)
      (Session.command tool ⟨binary, interface, e'⟩ c) :=
  (agree_run htool hp hq binary interface he c).bind fun _ => agree_answer _

theorem agree_isOn :
    Agree tool p q start (Session.isOn tool ⟨binary, interface, e⟩)
      (Session.isOn tool ⟨binary, interface, e'⟩) :=
  (agree_run htool hp hq binary interface he .status).bind fun _ => agree_answer _

theorem agree_operate (op : ServerOp) :
    Agree tool p q start (Session.operate tool ⟨binary, interface, e⟩ op)
      (Session.operate tool ⟨binary, interface, e'⟩ op) := by
  have hstate := agree_isOn htool hp hq binary interface he
  have hcommand := agree_command htool hp hq binary interface he
  have hboot : ∀ choice, Agree tool p q start
      (Session.bootOnce tool ⟨binary, interface, e⟩ choice)
      (Session.bootOnce tool ⟨binary, interface, e'⟩ choice) :=
    fun choice => (hcommand choice).bind fun _ => hcommand .reset
  cases op with
  | isOn => exact hstate
  | powerOn =>
    refine hstate.bind fun on => ?_
    cases on with
    | true => exact agree_answer (.error _)
    | false => exact hcommand .on
  | powerOff =>
    refine hstate.bind fun on => ?_
    cases on with
    | true => exact hcommand .off
    | false => exact agree_answer (.error _)
  | powerCycle => exact hcommand .reset
  | powerCycleBmc => exact hcommand .coldReset
  | pxeOnce => exact hboot .bootUefi
  | pxeOnceEfi => exact hboot .bootUefi
  | pxeOnceMbr => exact hboot .bootLegacy

end Agreeing

/-- Runs with one password and with another one, by the same clock. -/
def secret (p q : String) : Likeness where
  endpoint := Secrets p q
  timed := True
  reference := Eq
  host_eq := by
    rintro _ _ ⟨host, username⟩
    rfl

/-- Whether the tool is found does not depend on whom it is to be run for. -/
theorem connect_cases (settings : Settings) (files : Files) :
    (∃ cause, ∀ e, connect settings files e = .error cause) ∨
      ∃ binary, ∀ e, connect settings files e = .ok ⟨binary, settings.interface, e⟩ := by
  unfold connect
  cases locate settings files with
  | error cause => exact Or.inl ⟨cause, fun _ => rfl⟩
  | ok binary => exact Or.inr ⟨binary, fun _ => rfl⟩

theorem respects_secret {tool : Tool τ} {p q : String} {start : Machine τ}
    (htool : tool.IgnoresPasswords start.tool) (hp : '\x00' ∉ p.toList) (hq : '\x00' ∉ q.toList)
    (settings : Settings) (gallery : Gallery) :
    World.Respects (secret p q) (Apart tool p q start) (world settings gallery tool) := by
  intro call call' R m m' hm hcall
  have hfiles := hm.files
  cases hcall with
  | connectHost h | connectChassis h =>
    exact ⟨hm, fun _ => rfl, _, _, rfl, rfl, by rw [(secret p q).host_eq h]⟩
  | connectFallback h =>
    refine ⟨hm, fun _ => rfl, _, _, rfl, rfl, ?_⟩
    show (connect settings m.files _).map _ = (connect settings m'.files _).map _
    rcases connect_cases settings m.files with ⟨cause, hconnect⟩ | ⟨binary, hconnect⟩
    · rw [hfiles, hconnect, hconnect]
    · rw [hfiles, hconnect, hconnect]
      rfl
  | @server s t h op =>
    have hoperate : (answer settings gallery tool (.server t op) m').1 =
          (answer settings gallery tool (.server s op) m).1 ∧
        Apart tool p q start (answer settings gallery tool (.server s op) m).2
          (answer settings gallery tool (.server t op) m').2 := by
      simp only [answer, hfiles]
      rcases connect_cases settings m.files with ⟨cause, hconnect⟩ | ⟨binary, hconnect⟩
      · rw [hconnect, hconnect]
        exact ⟨rfl, hm⟩
      · rw [hconnect, hconnect]
        exact agree_operate htool hp hq binary settings.interface h.endpoint op m m' hm
    exact ⟨hoperate.2, fun _ => rfl, _, _, rfl, rfl, hoperate.1.symm⟩
  | capture h | closeServer h | closeChassis h => exact ⟨hm, fun _ => rfl, _, _, rfl, rfl, rfl⟩
  | chassis h | blade h | findBlade h =>
    exact ⟨hm, fun _ => rfl, _, _, rfl, rfl, by rw [(secret p q).host_eq h.endpoint]⟩
  | @store host hardware extension payload seconds _ h =>
    obtain rfl := h trivial
    refine ⟨⟨?_, hm.runs, hm.state⟩, fun _ => rfl, _, _, rfl, rfl, ?_⟩
    · simp only [world, answer, hfiles]
    · simp only [hfiles]
      exact .refl _

theorem eq_of_like_secret {p q : String} {r r' : ActionResult} (h : r.Like (secret p q) r') :
    r = r' := by
  cases h with
  | same => rfl
  | stored token hreference =>
    cases hreference
    rfl

theorem report_eq_of_like_secret {p q : String} {W : σ → σ → Prop} {base : List Call}
    {r r' : RunReport × Scene σ} (h : EndsLike (secret p q) W base (fun _ => False) r r') :
    r'.1 = r.1 := by
  have hlike := h.results.forall₂ fun _ ⟨_, hnever, _⟩ => hnever
  have hresults : List.Forall₂ Eq r.1.results r'.1.results :=
    hlike.imp fun _ _ => eq_of_like_secret
  rw [List.forall₂_eq_eq_eq] at hresults
  have hhalt : r'.1.halt = r.1.halt := h.halt.2.trans h.halt.1.symm
  have hcleanups : r'.1.cleanups = r.1.cleanups := h.cleanups.2.trans h.cleanups.1.symm
  have helapsed : r'.1.elapsed = r.1.elapsed := h.elapsed trivial
  obtain ⟨report, s⟩ := r
  obtain ⟨report', t⟩ := r'
  cases report
  cases report'
  rw [RunReport.mk.injEq]
  exact ⟨hresults.symm, hhalt, helapsed, hcleanups⟩

/-- A plan comes to the same report with either password. -/
theorem run_secret {tool : Tool τ} {p q : String} {s : Scene (Machine τ)}
    (htool : tool.IgnoresPasswords s.world.tool) (hp : '\x00' ∉ p.toList)
    (hq : '\x00' ∉ q.toList) (settings : Settings) (gallery : Gallery) (username : String)
    (plan : Plan) :
    let ended := plan.run (world settings gallery tool) ⟨username, p⟩ none s
    let ended' := plan.run (world settings gallery tool) ⟨username, q⟩ none s
    ended'.1 = ended.1 ∧ Apart tool p q s.world ended.2.world ended'.2.world := by
  intro ended ended'
  have hcredentials : ∀ address, (secret p q).endpoint ⟨address, username, p⟩
      ⟨address, username, q⟩ := fun address => Secrets.intro address username
  have hscene : s.Like (secret p q) (Apart tool p q s.world) s.calls s := .refl (.refl s.world)
  have hends := (Plan.Padded.refl (P := fun _ => False) plan).run
    (respects_secret htool hp hq settings gallery) (fun _ hnever => hnever.elim) hcredentials hscene
  exact ⟨report_eq_of_like_secret hends, hends.scene.world⟩

end Ipmi

/-- Two commands that were run from the same scene print the same, end with the same code and leave
the same files. They ran the tool with the same arguments in the same order, and each run of the one
had the one password, each run of the other the other one. -/
structure CommandLine.DifferInPassword (p q : String) (s : Scene (Ipmi.Machine τ))
    (ended ended' : Exit × Scene (Ipmi.Machine τ)) : Prop where
  exit : ended'.1 = ended.1
  files : ended'.2.world.files = ended.2.world.files
  runs : ∃ lines, ended.2.world.invocations = s.world.invocations ++ Ipmi.runsWith p lines ∧
    ended'.2.world.invocations = s.world.invocations ++ Ipmi.runsWith q lines

/-- The password reaches the environment of the tool and nothing else. Settings that differ in it
alone give an engine both or neither, and for the same reason. Commands on the two engines come to
the same results and errors, and differ in the passwords that the tool is run with. No description
shows which password it is, and none shows the key of the object store. -/
theorem Config.exec_hides_password (config : Config) (searchPath : List String)
    {tool : Ipmi.Tool τ} (selection : CommandLine.Selection) (actions : List String) (err : String)
    {s : Scene (Ipmi.Machine τ)} {p q : String} (htool : tool.IgnoresPasswords s.world.tool)
    (hp : '\x00' ∉ p.toList) (hq : '\x00' ∉ q.toList) :
    let c := { config with bmc.password := p }
    let c' := { config with bmc.password := q }
    (match c.engine searchPath tool, c'.engine searchPath tool with
      | .ok engine, .ok engine' =>
        CommandLine.DifferInPassword p q s
            (CommandLine.execute engine selection actions err s)
            (CommandLine.execute engine' selection actions err s) ∧
          ∀ plan, Plan.compile selection.kind selection.params actions = .ok plan →
            (engine'.run plan s).1 = (engine.run plan s).1
      | .error e, .error e' => e' = e
      | _, _ => False) ∧
      c'.credentials.describe = c.credentials.describe ∧
      (∀ host, Endpoint.describe ⟨host, c'.credentials⟩ = Endpoint.describe ⟨host, c.credentials⟩) ∧
      c'.bmc.describe = c.bmc.describe ∧ c'.describe = c.describe ∧
      ∀ key : String, ({ config with s3.secretAccessKey := key }).s3.describe = config.s3.describe ∧
        ({ config with s3.secretAccessKey := key }).describe = config.describe := by
  intro c c'
  refine ⟨?_, rfl, fun _ => rfl, rfl, rfl, fun _ => ⟨rfl, rfl⟩⟩
  cases hgallery : config.gallery with
  | error e =>
    have hfails : c.engine searchPath tool = .error e := congrArg (· >>= _) hgallery
    have hfails' : c'.engine searchPath tool = .error e := congrArg (· >>= _) hgallery
    rw [hfails, hfails']
  | ok gallery =>
    have hengine : c.engine searchPath tool =
        .ok ⟨Ipmi.world (config.ipmiSettings searchPath) gallery tool, config.bmc.username, p⟩ :=
      congrArg (· >>= _) hgallery
    have hengine' : c'.engine searchPath tool =
        .ok ⟨Ipmi.world (config.ipmiSettings searchPath) gallery tool, config.bmc.username, q⟩ :=
      congrArg (· >>= _) hgallery
    have hrun := Ipmi.run_secret htool hp hq (config.ipmiSettings searchPath) gallery
      config.bmc.username
    rw [hengine, hengine']
    dsimp only
    unfold CommandLine.execute
    cases Plan.compile selection.kind selection.params actions with
    | error e =>
      have hapart : Ipmi.Apart tool p q s.world s.world s.world := .refl s.world
      refine ⟨⟨rfl, rfl, hapart.runs⟩, fun plan hplan => ?_⟩
      cases hplan
    | ok plan =>
      obtain ⟨hreport, hapart⟩ := hrun plan
      refine ⟨⟨?_, hapart.files, hapart.runs⟩, fun plan' hplan => ?_⟩
      · exact congrArg (CommandLine.resultsExit · err) hreport
      · cases hplan
        exact hreport

/-- The tool is run twice in vain, whatever the password is. -/
theorem Config.exec_hides_password_on :
    let config : Config :=
      { bmc := ⟨"admin", "secret"⟩, ipmi := { binary := some "/bin/ipmitool" } }
    let tool := Ipmi.ToolScript.tool
    let files : Files :=
      { entries := [(["bin"], .directory), (["bin", "ipmitool"], .file [] true)] }
    let script : Ipmi.ToolScript :=
      [("chassis power status", [⟨.exited 0, Text.bytesOf "Chassis Power is off\n", []⟩]),
        ("chassis power on", [⟨.exited 1, [], Text.bytesOf "Unable to set power\n"⟩])]
    let s : Scene (Ipmi.Machine Ipmi.ToolScript) := { world := ⟨files, script, []⟩ }
    let world := Ipmi.world (config.ipmiSettings []) ⟨"/tmp/screenshots", "/screenshot"⟩ tool
    let ended := CommandLine.execute ⟨world, "admin", "secret"⟩ (.host "10.0.0.1") ["poweron"] "" s
    let ended' := CommandLine.execute ⟨world, "admin", "other"⟩ (.host "10.0.0.1") ["poweron"] "" s
    tool.IgnoresPasswords s.world.tool ∧ '\x00' ∉ "secret".toList ∧ '\x00' ∉ "other".toList ∧
      CommandLine.DifferInPassword "secret" "other" s ended ended' ∧ ended.1.code = 2 ∧
      ended.2.world.invocations.length = 2 := by
  intro config tool files script s world ended ended'
  have htool : tool.IgnoresPasswords s.world.tool := Ipmi.ToolScript.ignoresPasswords script
  have hp : '\x00' ∉ "secret".toList := by decide
  have hq : '\x00' ∉ "other".toList := by decide
  obtain ⟨⟨hended, -⟩, -⟩ :=
    config.exec_hides_password [] (.host "10.0.0.1") ["poweron"] "" htool hp hq
  exact ⟨htool, hp, hq, hended, by decide +kernel, by decide +kernel⟩

end Outband
