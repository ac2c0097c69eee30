/-
# Proofs.ConfigurationStart -- how an invocation comes to its command

Before its command an invocation reads settings and a configuration, and works out which
repositories to use.  This is a function of the files (`Invocation.configured` and
`effectiveRepositories`), and it comes to one of three ends (`start_decided`).  The command is run
(`Invocation.Started`); or a file is told to be invalid, in one message, and the exit status is one
(`Invocation.Refused`); or the invocation ends with a fault that is not told.

Few contents of the files lead to the last end, and all of them do (`Invocation.Misshapen`): a value
that is no object where a file must hold one, and an id that cannot be looked up since it is a list
or an object.  Whatever else is wrong with the files is answered for.  Of a specification that is no
object it is told, so that settings which are none stop the program is a gap
(`plain_settings_raised`).
-/
import MavenImport.Command.Run
import MavenImport.Proofs.ConfigReading
import MavenImport.Proofs.MessageLines

namespace MavenImport

set_option autoImplicit false

/-! ## What the files hold -/

/-- The settings file that is used: the one that is asked for, or the default one if it is there. -/
def Surroundings.settingsIn (around : Surroundings) (fs : FileSystem) :
    Option Path → Except Fault (Option Path)
  | some path => .ok (some path)
  | none => ((fs.pathExists around.defaultSettings).map fun there =>
      if there then some around.defaultSettings else none).mapError .file

/-- What is read from a file, or what stands for it if there is none. -/
def readIn {α : Type} (read : Json → Except Json.Fault α) (absent : α) (fs : FileSystem) :
    Option Path → Except Fault α
  | none => .ok absent
  | some path => do (read (← jsonAt fs path)).mapError .value

/-- The mirrors and the configuration that an invocation finds. -/
def Invocation.configured (i : Invocation) (around : Surroundings) (fs : FileSystem) :
    Except Fault (List Mirror × ToolConfig) := do
  let mirrors ← readIn readMirrors [] fs (← around.settingsIn fs i.settings)
  let config ← readIn ToolConfig.ofJson {} fs i.config
  return (mirrors, config)

/-- Nothing happens but that files are announced. -/
inductive World.Announced (w : World) : World → Prop
  | nothing : Announced w w
  | file {v : World} (earlier : Announced w v) (path : Path) : Announced w (v.parsing path)

section Loading

variable {w v : World}

theorem announced_files (announced : w.Announced v) : v.files = w.files := by
  induction announced with
  | nothing => rfl
  | file _ _ ih => exact ih

theorem perform_settingsFile (around : Surroundings) (asked : Option Path) (w : World) :
    (settingsFile around asked).perform w = (around.settingsIn w.files asked, w) := by
  cases asked with
  | some path => rfl
  | none =>
      rw [settingsFile, Action.perform_bind, Action.perform_inspect, Surroundings.settingsIn]
      cases w.files.pathExists around.defaultSettings <;> rfl

/-- To load a file that may be absent is to read it off the files. -/
theorem perform_load_file {α : Type} (load : Option Path → Action α)
    {read : Json → Except Json.Fault α} {absent : α} (without : load none = pure absent)
    (given : ∀ path, load (some path) = loadJson path >>= fun v => Action.ofExcept .value (read v))
    (announced : w.Announced v) (file : Option Path) :
    ∃ u, (load file).perform v = (readIn read absent w.files file, u) ∧ w.Announced u := by
  cases file with
  | none => exact ⟨v, by rw [without, Action.perform_pure, readIn], announced⟩
  | some path =>
      refine ⟨v.parsing path, ?_, .file announced path⟩
      rw [given, ← announced_files announced]
      exact perform_loadJson_bind read path v

/-- An invocation loads what the files have. -/
theorem perform_load (i : Invocation) (around : Surroundings) (w : World) :
    ∃ v, (i.load around).perform w = (i.configured around w.files, v) ∧ w.Announced v := by
  rw [Invocation.load, Action.perform_bind, perform_settingsFile, Invocation.configured]
  cases around.settingsIn w.files i.settings with
  | error f => exact ⟨w, rfl, .nothing⟩
  | ok file =>
      obtain ⟨v, first, announced⟩ :=
        perform_load_file loadMirrors rfl (fun _ => rfl) .nothing file
      dsimp only
      rw [Action.perform_bind, first, except_ok_bind]
      cases readIn readMirrors [] w.files file with
      | error f => exact ⟨v, rfl, announced⟩
      | ok mirrors =>
          obtain ⟨u, second, announced⟩ :=
            perform_load_file loadToolConfig rfl (fun _ => rfl) announced i.config
          dsimp only
          rw [Action.perform_bind, second, except_ok_bind]
          refine ⟨u, ?_, announced⟩
          cases readIn ToolConfig.ofJson {} w.files i.config <;> rfl

end Loading

/-! ## Which faults are told -/

/-- How an object fails to be what is read from it. -/
inductive Json.Fault.OfItem : Json.Fault → Prop
  | notIterable (v : Json) : OfItem (.notIterable v.kind)
  | notSubscriptable (v : Json) : OfItem (.notSubscriptable v.kind)
  | positional (v : Json) : OfItem (.positional v.kind)
  | missingKey (key : String) : OfItem (.missingKey key)

/-- The faults of a configuration that are told. -/
inductive Fault.OfConfig : Fault → Prop
  | file {f : Fault} (file : f.OfFile) : OfConfig f
  | item {f : Json.Fault} (item : f.OfItem) : OfConfig (.value f)

theorem ofConfig_told {f : Fault} (known : f.OfConfig) : isConfigFault f = true := by
  rcases known with ⟨_ | _ | _⟩ | ⟨_ | _ | _ | _⟩ <;> rfl

theorem kind_oneLine (v : Json) : OneLine v.kind := by
  cases v <;> (rw [Json.kind]; decide)

theorem ofItem_oneLine {f : Json.Fault} (item : f.OfItem) : OneLine f.message := by
  cases item with
  | notIterable v =>
      show OneLine ("'" ++ v.kind ++ "' object is not iterable")
      exact oneLine_append (oneLine_append (by decide) (kind_oneLine v)) (by decide)
  | notSubscriptable v =>
      show OneLine ("'" ++ v.kind ++ "' object is not subscriptable")
      exact oneLine_append (oneLine_append (by decide) (kind_oneLine v)) (by decide)
  | positional v =>
      show OneLine (if v.kind = "str" then "string indices must be integers, not 'str'"
        else v.kind ++ " indices must be integers or slices, not str")
      split
      · decide
      · exact oneLine_append (kind_oneLine v) (by decide)
  | missingKey key => exact quoted_oneLine key

/-- A fault is told in one line, apart from the name of a file that is not JSON. -/
theorem ofConfig_oneLine {f : Fault} (known : f.OfConfig)
    (named : ∀ path, f = .malformedJson path → OneLine path.text) : OneLine f.message := by
  cases known with
  | item item => exact ofItem_oneLine item
  | file file =>
      cases file with
      | unread f => exact fileFault_oneLine f
      | notText position m first => exact undecodable_oneLine position m first
      | malformed path => exact oneLine_append (by decide) (named path rfl)

/-- What a reading must be given is an object; what else is wrong with it is told. -/
structure NeedsObject {α : Type} (read : Json → Except Json.Fault α) : Prop where
  lacking : ∀ v : Json, ¬ v.IsObject → read v = .error (.lacks v.kind "get")
  told : ∀ v : Json, v.IsObject → FailsAs Json.Fault.OfItem (read v)

/-- A file holds a value that is no object. -/
def HoldsNoObject (fs : FileSystem) (file : Option Path) : Prop :=
  ∃ path v, file = some path ∧ jsonAt fs path = .ok v ∧ ¬ v.IsObject

section Reading

variable {α : Type} {read : Json → Except Json.Fault α} {fs : FileSystem} {file : Option Path}

theorem readIn_lacking (needs : NeedsObject read) (absent : α) (plain : HoldsNoObject fs file) :
    ∃ kind, readIn read absent fs file = .error (.value (.lacks kind "get")) := by
  obtain ⟨path, v, rfl, holds, plain⟩ := plain
  refine ⟨v.kind, ?_⟩
  rw [readIn, holds, except_ok_bind, needs.lacking v plain]
  rfl

theorem readIn_failsAs (needs : NeedsObject read) (absent : α) (shaped : ¬ HoldsNoObject fs file) :
    FailsAs Fault.OfConfig (readIn read absent fs file) := by
  cases file with
  | none => exact failsAs_ok absent
  | some path =>
      refine failsAs_bind ?_ fun v holds => ?_
      · exact fun f failed => .file (jsonAt_failsAs fs path f failed)
      have object : v.IsObject :=
        Classical.byContradiction fun plain => shaped ⟨path, v, rfl, holds, plain⟩
      exact failsAs_mapError (needs.told v object) fun f item => .item item

theorem settingsIn_failsAs (around : Surroundings) (fs : FileSystem) (asked : Option Path) :
    FailsAs Fault.OfConfig (around.settingsIn fs asked) := by
  cases asked with
  | some path => exact failsAs_ok _
  | none => exact failsAs_mapError (failsAs_any _) fun f _ => .file (.unread f)

theorem readList_needsObject (each : ∀ item, FailsAs Json.Fault.OfItem (read item))
    (key : String) : NeedsObject fun v => readList read v key where
  lacking v plain := by
    rw [readList, Json.field?_plain plain]
    rfl
  told v object := by
    obtain ⟨found, looked⟩ := Json.field?_object object key
    rw [readList, looked, except_ok_bind]
    refine failsAs_bind (Json.elements_failsAs .notIterable _) fun items _ => ?_
    exact failsAs_mapM fun item _ => each item

end Reading

theorem member_failsAs_item (v : Json) (key : String) : FailsAs Json.Fault.OfItem (v.member key) :=
  Json.member_failsAs .missingKey .positional .notSubscriptable v key

theorem mirror_failsAs (v : Json) : FailsAs Json.Fault.OfItem (Mirror.ofJson v) := by
  refine failsAs_bind (member_failsAs_item v _) fun id _ => ?_
  exact failsAs_bind (member_failsAs_item v _) fun url _ => failsAs_ok _

/-- A value with an id is an object, so it has no lack of anything. -/
theorem repository_failsAs (v : Json) : FailsAs Json.Fault.OfItem (Repository.ofJson v) := by
  refine failsAs_bind (member_failsAs_item v _) fun id taken => ?_
  have optional (key : String) : FailsAs Json.Fault.OfItem (v.field? key) := by
    obtain ⟨found, looked⟩ := Json.field?_object (Json.member_object taken) key
    rw [looked]
    exact failsAs_ok found
  refine failsAs_bind (member_failsAs_item v _) fun url _ => ?_
  refine failsAs_bind (optional _) fun releases _ => failsAs_bind (optional _) fun snapshots _ => ?_
  exact failsAs_ok _

theorem readMirrors_needsObject : NeedsObject readMirrors :=
  readList_needsObject mirror_failsAs "mirrors"

theorem toolConfig_needsObject : NeedsObject ToolConfig.ofJson where
  lacking v plain := by
    rw [ToolConfig.ofJson, Json.fieldOrNull, Json.field?_plain plain]
    rfl
  told v object := by
    obtain ⟨found, looked⟩ := Json.field?_object object "name"
    have listed := (readList_needsObject repository_failsAs "repositories").told v object
    rw [ToolConfig.ofJson, Json.fieldOrNull, looked, Except.map, except_ok_bind]
    exact failsAs_bind listed fun repositories _ => failsAs_ok _

/-! ## Ids that can be looked up -/

section Ids

/-- The URLs of mirrors can be kept by their ids if all ids are scalar, and only then. -/
theorem mirrorUrls_cases : ∀ (mirrors : List Mirror) (urls : List (Json × Json)),
    ((∀ m ∈ mirrors, m.id.isScalar = true) ∧ ∃ all, mirrorUrls urls mirrors = .ok all) ∨
      ((∃ m ∈ mirrors, m.id.isScalar = false) ∧ ∃ f, mirrorUrls urls mirrors = .error f)
  | [], urls => .inl ⟨fun _ listed => absurd listed List.not_mem_nil, urls, rfl⟩
  | m :: ms, urls => by
      rw [mirrorUrls]
      cases scalar : m.id.isScalar with
      | false => exact .inr ⟨⟨m, List.mem_cons_self, scalar⟩, _, rfl⟩
      | true =>
          rw [if_pos rfl]
          rcases mirrorUrls_cases ms (Json.putScalar m.id m.url urls) with
            ⟨each, made⟩ | ⟨⟨m', listed, plain⟩, failed⟩
          · exact .inl ⟨List.forall_mem_cons.mpr ⟨scalar, each⟩, made⟩
          · exact .inr ⟨⟨m', List.mem_cons_of_mem m listed, plain⟩, failed⟩

/-- A repository is looked up among the mirrors, even if there are none. -/
theorem mirrored_cases (urls : List (Json × Json)) : ∀ rs : List Repository,
    ((∀ r ∈ rs, r.id.isScalar = true) ∧ ∃ all, rs.mapM (Repository.mirrored urls) = .ok all) ∨
      ((∃ r ∈ rs, r.id.isScalar = false) ∧ ∃ f, rs.mapM (Repository.mirrored urls) = .error f)
  | [] => .inl ⟨fun _ listed => absurd listed List.not_mem_nil, [], rfl⟩
  | r :: rs => by
      rw [List.mapM_cons, Repository.mirrored]
      cases scalar : r.id.isScalar with
      | false => exact .inr ⟨⟨r, List.mem_cons_self, scalar⟩, _, rfl⟩
      | true =>
          rcases mirrored_cases urls rs with ⟨each, all, made⟩ | ⟨⟨r', listed, plain⟩, f, failed⟩
          · rw [made]
            exact .inl ⟨List.forall_mem_cons.mpr ⟨scalar, each⟩, _, rfl⟩
          · rw [failed]
            exact .inr ⟨⟨r', List.mem_cons_of_mem r listed, plain⟩, f, rfl⟩

/-- All ids can be looked up. -/
def ScalarIds (mirrors : List Mirror) (config : ToolConfig) : Prop :=
  (∀ m ∈ mirrors, m.id.isScalar = true) ∧ ∀ r ∈ config.repositories, r.id.isScalar = true

/-- There are repositories to use exactly if all ids can be looked up. -/
theorem effectiveRepositories_cases (mirrors : List Mirror) (config : ToolConfig) :
    (ScalarIds mirrors config ∧ ∃ all, effectiveRepositories config mirrors = .ok all) ∨
      (¬ ScalarIds mirrors config ∧ ∃ f, effectiveRepositories config mirrors = .error f) := by
  rw [effectiveRepositories]
  rcases mirrorUrls_cases mirrors [] with ⟨each, urls, made⟩ | ⟨⟨m, listed, plain⟩, f, failed⟩
  · rw [made]
    cases configured : config.repositories with
    | nil =>
        -- the repositories that are used by default have texts as ids
        refine .inl ⟨⟨each, ?_⟩, _, rfl⟩
        rw [configured]
        exact fun _ listed => absurd listed List.not_mem_nil
    | cons r rs =>
        rcases mirrored_cases urls (r :: rs) with ⟨each', made'⟩ | ⟨⟨r', listed, plain⟩, failed'⟩
        · exact .inl ⟨⟨each, configured ▸ each'⟩, made'⟩
        · refine .inr ⟨fun scalar => ?_, failed'⟩
          rw [← configured] at listed
          rw [scalar.2 r' listed] at plain
          cases plain
  · rw [failed]
    refine .inr ⟨fun scalar => ?_, f, rfl⟩
    rw [scalar.1 m listed] at plain
    cases plain

end Ids

/-! ## The three ends -/

/-- The contents of files that keep an invocation from its command without being told of. -/
inductive Invocation.Misshapen (i : Invocation) (around : Surroundings) (fs : FileSystem) : Prop
  /-- The settings are no object. -/
  | settings {file : Option Path} (used : around.settingsIn fs i.settings = .ok file)
      (plain : HoldsNoObject fs file) : Misshapen i around fs
  /-- The settings can be read, and the configuration is no object. -/
  | config {file : Option Path} {mirrors : List Mirror}
      (used : around.settingsIn fs i.settings = .ok file)
      (read : readIn readMirrors [] fs file = .ok mirrors) (plain : HoldsNoObject fs i.config) :
      Misshapen i around fs
  /-- Both can be read, and a mirror or a repository has an id that cannot be looked up. -/
  | ids {mirrors : List Mirror} {config : ToolConfig}
      (loaded : i.configured around fs = .ok (mirrors, config)) (odd : ¬ ScalarIds mirrors config) :
      Misshapen i around fs

/-- The command is run, with the repositories that follow from the files. -/
def Invocation.Started (i : Invocation) (around : Surroundings) (w v : World) : Prop :=
  ∃ mirrors config repositories, i.configured around w.files = .ok (mirrors, config) ∧
    effectiveRepositories config mirrors = .ok repositories ∧
    (i.run around).perform w
      = (i.command.run config (Source.ofRepositories i.cache repositories)).perform v

/-- A file is told to be invalid and nothing is run.  What is told is one line, unless a file has a
name of several lines. -/
def Invocation.Refused (i : Invocation) (around : Surroundings) (w v : World) : Prop :=
  ∃ f well, i.configured around w.files = .error f ∧ f.OfConfig ∧
    (i.run around).perform w
      = (.ok well, ((Effect.say ("ERROR: Invalid config: " ++ f.message)).run v).2) ∧
    exitStatus well = 1 ∧
    ((∀ path, f = .malformedJson path → OneLine path.text) → OneLine f.message)

section Ends

variable {i : Invocation} {around : Surroundings} {fs : FileSystem}

theorem configured_lacking {file : Option Path} (used : around.settingsIn fs i.settings = .ok file)
    (plain : HoldsNoObject fs file) :
    ∃ kind, i.configured around fs = .error (.value (.lacks kind "get")) := by
  obtain ⟨kind, lacking⟩ := readIn_lacking readMirrors_needsObject [] plain
  refine ⟨kind, ?_⟩
  rw [Invocation.configured, used, except_ok_bind, lacking]
  rfl

/-- Files of a wrong shape are not read, or repositories cannot be worked out from them. -/
theorem misshapen_fails (odd : i.Misshapen around fs) :
    (∃ kind, i.configured around fs = .error (.value (.lacks kind "get"))) ∨
      ∃ mirrors config f, i.configured around fs = .ok (mirrors, config) ∧
        effectiveRepositories config mirrors = .error f := by
  cases odd with
  | settings used plain => exact .inl (configured_lacking used plain)
  | config used read plain =>
      obtain ⟨kind, lacking⟩ := readIn_lacking toolConfig_needsObject {} plain
      refine .inl ⟨kind, ?_⟩
      rw [Invocation.configured, used, except_ok_bind, read, except_ok_bind, lacking]
      rfl
  | @ids mirrors config loaded odd =>
      obtain ⟨-, f, failed⟩ :=
        (effectiveRepositories_cases mirrors config).resolve_left fun fine => odd fine.1
      exact .inr ⟨mirrors, config, f, loaded, failed⟩

/-- Files of the right shape are told to be invalid, or repositories follow from them. -/
theorem shaped_answers (shaped : ¬ i.Misshapen around fs) :
    (∃ f, i.configured around fs = .error f ∧ f.OfConfig) ∨
      ∃ mirrors config repositories, i.configured around fs = .ok (mirrors, config) ∧
        effectiveRepositories config mirrors = .ok repositories := by
  have told : FailsAs Fault.OfConfig (i.configured around fs) := by
    refine failsAs_bind (settingsIn_failsAs around fs i.settings) fun file used => ?_
    refine failsAs_bind ?_ fun mirrors read => ?_
    · exact readIn_failsAs readMirrors_needsObject [] fun plain => shaped (.settings used plain)
    refine failsAs_bind ?_ fun config _ => failsAs_ok (mirrors, config)
    exact readIn_failsAs toolConfig_needsObject {} fun plain => shaped (.config used read plain)
  cases loaded : i.configured around fs with
  | error f => exact .inl ⟨f, rfl, told f loaded⟩
  | ok found =>
      obtain ⟨mirrors, config⟩ := found
      obtain ⟨-, repositories, made⟩ := (effectiveRepositories_cases mirrors config).resolve_right
        fun failed => shaped (.ids loaded failed.1)
      exact .inr ⟨mirrors, config, repositories, rfl, made⟩

end Ends

section Running

variable {i : Invocation} {around : Surroundings} {w v : World}

theorem run_refused {f : Fault} (loads : (i.load around).perform w = (.error f, v))
    (told : isConfigFault f = true) : (i.run around).perform w
      = (.ok false, ((Effect.say ("ERROR: Invalid config: " ++ f.message)).run v).2) := by
  rw [Invocation.run, Action.perform_bind, Action.perform_result, loads]
  dsimp only
  rw [if_pos told]
  rfl

theorem run_lacking {kind operation : String}
    (loads : (i.load around).perform w = (.error (.value (.lacks kind operation)), v)) :
    (i.run around).perform w = (.error (.value (.lacks kind operation)), v) := by
  rw [Invocation.run, Action.perform_bind, Action.perform_result, loads]
  rfl

theorem run_loaded {mirrors : List Mirror} {config : ToolConfig}
    (loads : (i.load around).perform w = (.ok (mirrors, config), v)) :
    (i.run around).perform w = match effectiveRepositories config mirrors with
      | .ok repositories =>
        (i.command.run config (Source.ofRepositories i.cache repositories)).perform v
      | .error f => (.error (.value f), v) := by
  rw [Invocation.run, Action.perform_bind, Action.perform_result, loads]
  dsimp only
  rw [Action.perform_bind, Action.perform_ofExcept]
  cases effectiveRepositories config mirrors <;> rfl

end Running

/-- An invocation announces the files that it reads.  Then its command is run, or it tells that a
file is invalid and has the exit status one, unless the files are of a wrong shape.  If they are, it
ends with a fault. -/
theorem start_decided (i : Invocation) (around : Surroundings) (w : World) :
    ∃ v, w.Announced v ∧
      ((¬ i.Misshapen around w.files ∧ (i.Started around w v ∨ i.Refused around w v)) ∨
        (i.Misshapen around w.files ∧ ∃ f, (i.run around).perform w = (.error (.value f), v))) := by
  obtain ⟨v, loads, announced⟩ := perform_load i around w
  refine ⟨v, announced, ?_⟩
  by_cases shape : i.Misshapen around w.files
  · refine .inr ⟨shape, ?_⟩
    rcases misshapen_fails shape with ⟨kind, lacking⟩ | ⟨mirrors, config, f, loaded, failed⟩
    · rw [lacking] at loads
      exact ⟨_, run_lacking loads⟩
    · rw [loaded] at loads
      exact ⟨f, by rw [run_loaded loads, failed]⟩
  · refine .inl ⟨shape, ?_⟩
    rcases shaped_answers shape with
      ⟨f, failed, known⟩ | ⟨mirrors, config, repositories, loaded, made⟩
    · rw [failed] at loads
      exact .inr ⟨f, false, failed, known, run_refused loads (ofConfig_told known), rfl,
        ofConfig_oneLine known⟩
    · rw [loaded] at loads
      exact .inl ⟨mirrors, config, repositories, loaded, made, by rw [run_loaded loads, made]⟩

namespace Odd

def around : Surroundings := ⟨.ofString "home", .ofString "tmp", none⟩

def arguments : List String := ["--settings", "s.json", "resolve-artifact", "g:a:1"]

def invocation : Invocation where
  config := none
  settings := some (.ofString "s.json")
  verbosity := 0
  cache := around.defaultCache
  command := .describe "g:a:1"

/-- A world with a settings file and nothing else. -/
def world (settings : String) : World where
  files := (FileSystem.empty []).putFile ["s.json"] settings.toUTF8
  web := ⟨[]⟩
  requested := []
  console := { verbosity := 0 }
  models := ⟨[]⟩
  elapsed := ""

/-- The fault that the invocation ends with. -/
def raised (settings : String) : Option Json.Fault :=
  match ((invocation.run around).perform (world settings)).1 with
  | .error (.value f) => some f
  | _ => none

/-- A list is no object. -/
theorem lacking : ∃ kind, invocation.configured around (world "[]").files
    = .error (.value (.lacks kind "get")) := by
  have checked : (jsonAt (world "[]").files (.ofString "s.json")).toOption.map Json.kind
      = some "list" := by decide +kernel
  cases holds : jsonAt (world "[]").files (.ofString "s.json") with
  | error f =>
      rw [holds] at checked
      cases checked
  | ok v =>
      rw [holds] at checked
      have plain : ¬ v.IsObject := by
        rintro ⟨fields, rfl⟩
        have same : "dict" = "list" := Option.some.inj checked
        exact absurd same (by decide)
      exact configured_lacking rfl ⟨_, v, rfl, holds, plain⟩

end Odd

/-- Settings that are a list stop the program, and so does a mirror whose id is a list. -/
theorem plain_settings_raised :
    Invocation.ofArguments Odd.around Odd.arguments = .ok Odd.invocation ∧
    Odd.raised "[]" = some (.lacks "list" "get") ∧
    Odd.raised "\x7b\"mirrors\": [\x7b\"id\": [], \"url\": \"\"\x7d]\x7d"
      = some (.unhashable "list") ∧
    ¬ ∀ (i : Invocation) (around : Surroundings) (w : World),
      ∃ v, w.Announced v ∧ (i.Started around w v ∨ i.Refused around w v) := by
  refine ⟨rfl, by decide +kernel, by decide +kernel, fun always => ?_⟩
  obtain ⟨kind, lacking⟩ := Odd.lacking
  obtain ⟨v, -, started | refused⟩ := always Odd.invocation Odd.around (Odd.world "[]")
  · obtain ⟨mirrors, config, repositories, loaded, -, -⟩ := started
    rw [lacking] at loaded
    cases loaded
  · obtain ⟨f, well, failed, known, -, -, -⟩ := refused
    rw [lacking] at failed
    cases failed
    rcases known with ⟨⟨⟩⟩ | ⟨⟨⟩⟩

end MavenImport
