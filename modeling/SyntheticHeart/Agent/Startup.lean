import SyntheticHeart.Agent.System
import SyntheticHeart.Agent.Config
import SyntheticHeart.Agent.PluginRegistration

/-!
# Starting the agent (`NewPluginManager`, `parsePluginManagerConfig`)

`NewPluginManager` reads the agent's config file, takes the node, pod and namespace of the
agent from the environment and the labels of its pod from the label file of the downward
API, and checks what it read: the three variables must be set, the pod must carry the
discover label (the agent exits otherwise), and the grace period and the sync frequency
must be positive. It then builds the set of watched namespaces, discovers the plugins of
every enabled plugin path (the agent exits when there is none), registers them, and
creates the storage client. `os.ReadFile`, `yaml.Unmarshal`, `os.Getenv` and
`filepath.Glob` are parameters.

The selectors of an agent never change after the start, and the sync loop caches a test
only when they accept it. `Selected` says that every cached test is accepted; every step
of the agent keeps it (`Change.selected`), whatever its goroutines do, since a step
changes the plugin manager in one of the few ways `Change` lists (`agentStep_change`).

* `parsePluginManagerConfig_ok`, `newPluginManager_ok`: what a started plugin manager holds.
* `started_agent_runs_selected_tests`: in every state that an agent started by
  `NewPluginManager` reaches, every cached test is in a watched namespace of the config
  file, on a node that its node selector matches, carries the labels the agent expects,
  and passes its pod-label selector against the environment and the label file; every
  goroutine that has not returned belongs to a cached test.
-/

namespace SyntheticHeart

open GoMap PluginRegistration

/-! ## The config of the agent -/

/-- `DefaultLabelFilePath`, where the chart mounts the labels of the pod. -/
def defaultLabelFilePath : String := "/etc/podinfo/labels"

/-- `common.K8sDiscoverLabel`. -/
def k8sDiscoverLabel : String := "synheart.infra.webex.com/discover"

/-- `common.K8sDiscoverLabelVal`. -/
def k8sDiscoverLabelVal : String := "true"

/-- `common.LogOnFail`. -/
def logOnFail : String := "onFail"

/-- `common.LogNever`. -/
def logNever : String := "never"

/-- `common.LogAlways`. -/
def logAlways : String := "always"

/-- `common.AgentConfig` as `yaml.Unmarshal` fills it from the config file, with the fields
that `parsePluginManagerConfig` and `NewPluginManager` read (of `storage`, its type). -/
structure AgentConfigFile where
  matchTestNamespaces : List String
  matchTestLabels : GoMap String String
  labelFileLocation : String
  syncFrequency : Duration
  gracePeriod : Duration
  storeType : String
  printPluginLogs : String
  enabledPlugins : List PluginDiscoveryConfig
  deriving DecidableEq

/-- The config of the plugin manager after `parsePluginManagerConfig`: the file with its
defaults, the run-time info of the pod, and the agent id. -/
structure ParsedConfig where
  agentId : String
  file : AgentConfigFile
  runTimeInfo : AgentInfo
  deriving DecidableEq

/-- How the start of the agent fails: with an error, which `main` reports, or at
`os.Exit(1)`. -/
inductive StartError
  | error (err : String)
  | exit
  deriving DecidableEq, Repr

/-- The label file of the downward API when the config file names none. -/
def AgentConfigFile.setDefaultLabelFile (conf : AgentConfigFile) : AgentConfigFile :=
  if conf.labelFileLocation = "" then { conf with labelFileLocation := defaultLabelFilePath } else conf

/-- `never` for a plugin-log option that is none of the three. -/
def AgentConfigFile.setDefaultPrintPluginLogs (conf : AgentConfigFile) : AgentConfigFile :=
  if conf.printPluginLogs ≠ logOnFail ∧ conf.printPluginLogs ≠ logAlways ∧ conf.printPluginLogs ≠ logNever then
    { conf with printPluginLogs := logNever }
  else conf

/-- `parsePluginManagerConfig`, with `readFile` for `os.ReadFile`, `unmarshal` for
`yaml.Unmarshal` and `getenv` for `os.Getenv`. -/
def parsePluginManagerConfig (readFile : String → Except String String)
    (unmarshal : String → Except String AgentConfigFile) (getenv : String → String) (configPath : String) :
    Except StartError ParsedConfig :=
  (readFile configPath).mapError (fun err => .error (wrap "error reading config file" err)) >>= fun config =>
  (unmarshal config).mapError (fun err => .error (wrap "error unmarshalling config yaml" err)) >>= fun conf =>
  let nodeName := getenv "NODE_NAME"
  if nodeName = "" then throw (.error "NODE_NAME missing from env") else
  let podName := getenv "POD_NAME"
  if podName = "" then throw (.error "POD_NAME missing from env") else
  let agentNamespace := getenv "NAMESPACE"
  if agentNamespace = "" then throw (.error "NAMESPACE missing from env") else
  let conf := conf.setDefaultLabelFile
  (parseLabelFile (readFile conf.labelFileLocation)).mapError
    (fun err => .error (wrap "error parsing label file" err)) >>= fun labels =>
  -- a pod without the discover label makes the agent exit
  if labels.lookup k8sDiscoverLabel ≠ some k8sDiscoverLabelVal then throw .exit else
  let agentId := computeAgentId podName agentNamespace
  if conf.gracePeriod ≤ 0 then throw (.error "gracePeriod must be a positive value") else
  if conf.syncFrequency ≤ 0 then throw (.error "syncFrequency must be a positive value") else
  pure ⟨agentId, conf.setDefaultPrintPluginLogs, ⟨nodeName, podName, labels, agentNamespace⟩⟩

/-- The set of watched namespaces that `NewPluginManager` builds from `MatchTestNamespaces`. -/
def matchNamespaceSet (matchTestNamespaces : List String) : GoMap String Bool :=
  matchTestNamespaces.foldl (fun set ns => set.insert ns true) ∅

/-- The `AgentConfig` of the plugin manager, with its set of watched namespaces. -/
def ParsedConfig.agentConfig (p : ParsedConfig) : AgentConfig :=
  { matchTestLabels := p.file.matchTestLabels
    runTimeInfo := p.runTimeInfo
    matchNamespaceSet := matchNamespaceSet p.file.matchTestNamespaces }

/-- One iteration of the loop of `NewPluginManager` over `EnabledPlugins`: the plugins
that the config discovers are merged into `DiscoveredPlugins`. -/
def mergeDiscovered (glob : String → Except String (List String))
    (discoveredPlugins : GoMap String (List String)) (pluginDiscoveryConfig : PluginDiscoveryConfig) :
    Except String (GoMap String (List String)) :=
  (discoverPlugins glob pluginDiscoveryConfig).mapError (wrap "error discovering plugins") >>= fun plugins =>
  pure (plugins.entries.foldl (fun m e => m.insert e.1 e.2) discoveredPlugins)

/-- `storage.NewSynHeartStore`, on the type of the storage. -/
def newSynHeartStore (storeType : String) : Except String Unit :=
  if storeType = "redis" then .ok () else .error ("unsupported store type " ++ storeType)

/-- `NewPluginManager`, with `glob` for `filepath.Glob` and `store` the Redis that its
storage client talks to. The discovered plugins are registered under their names. -/
def newPluginManager (readFile : String → Except String String)
    (unmarshal : String → Except String AgentConfigFile) (getenv : String → String)
    (glob : String → Except String (List String)) (store : Redis) (configPath : String) :
    Except StartError PluginManager :=
  parsePluginManagerConfig readFile unmarshal getenv configPath >>= fun parsed =>
  (parsed.file.enabledPlugins.foldlM (mergeDiscovered glob) ∅).mapError .error >>= fun discoveredPlugins =>
  -- without a plugin the agent exits
  if discoveredPlugins.entries.length = 0 then throw .exit else
  (newSynHeartStore parsed.file.storeType).mapError
    (fun err => .error (wrap "error creating storage client" err)) >>= fun _ =>
  pure ⟨parsed.agentId, parsed.agentConfig, discoveredPlugins.keys, ∅, ∅, [], store⟩

/-! ## What a started plugin manager holds -/

theorem except_bind_eq_ok {ε α β : Type} {x : Except ε α} {f : α → Except ε β} {b : β} :
    x >>= f = .ok b ↔ ∃ a, x = .ok a ∧ f a = .ok b := by
  cases x with
  | error e => simp [bind, Except.bind]
  | ok a => simp [bind, Except.bind]

theorem mapError_eq_ok {ε ε' α : Type} {f : ε → ε'} {x : Except ε α} {a : α} :
    x.mapError f = .ok a ↔ x = .ok a := by
  cases x <;> simp [Except.mapError]

/-- A check that returns an error lets the code go on only when it fails. -/
theorem ite_throw_eq_ok {ε α : Type} {c : Prop} [Decidable c] {e : ε} {x : Except ε α} {a : α}
    (h : (if c then throw e else x) = .ok a) : ¬ c ∧ x = .ok a := by
  by_cases hc : c
  · rw [if_pos hc] at h
    cases h
  · rw [if_neg hc] at h
    exact ⟨hc, h⟩

theorem setDefaultLabelFile_eq (conf : AgentConfigFile) :
    conf.setDefaultLabelFile = { conf with
      labelFileLocation := if conf.labelFileLocation = "" then defaultLabelFilePath else conf.labelFileLocation } := by
  unfold AgentConfigFile.setDefaultLabelFile
  split_ifs with h
  · rfl
  · rfl

theorem setDefaultPrintPluginLogs_eq (conf : AgentConfigFile) :
    conf.setDefaultPrintPluginLogs = { conf with
      printPluginLogs := if conf.printPluginLogs ≠ logOnFail ∧ conf.printPluginLogs ≠ logAlways ∧
        conf.printPluginLogs ≠ logNever then logNever else conf.printPluginLogs } := by
  unfold AgentConfigFile.setDefaultPrintPluginLogs
  split_ifs with h
  · rfl
  · rfl

/-- The default of the plugin-log option is one of the three options. -/
theorem printPluginLogs_setDefault (conf : AgentConfigFile) :
    conf.setDefaultPrintPluginLogs.printPluginLogs ∈ [logOnFail, logAlways, logNever] := by
  rw [setDefaultPrintPluginLogs_eq]
  dsimp only
  split_ifs with h
  · simp
  · simp only [not_and_or, not_not] at h
    rcases h with h | h | h <;> simp [h]

section Start

variable {readFile : String → Except String String} {unmarshal : String → Except String AgentConfigFile}
  {getenv : String → String} {glob : String → Except String (List String)} {store : Redis}
  {configPath : String}

/-- A config that `parsePluginManagerConfig` accepts: the file was read and decoded, the
environment names the node, the pod and the namespace, the label file was read and
carries the discover label, and the durations are positive. -/
theorem parsePluginManagerConfig_ok {p : ParsedConfig}
    (h : parsePluginManagerConfig readFile unmarshal getenv configPath = .ok p) :
    ∃ data conf labels, readFile configPath = .ok data ∧ unmarshal data = .ok conf ∧
      getenv "NODE_NAME" ≠ "" ∧ getenv "POD_NAME" ≠ "" ∧ getenv "NAMESPACE" ≠ "" ∧
      parseLabelFile (readFile conf.setDefaultLabelFile.labelFileLocation) = .ok labels ∧
      labels.lookup k8sDiscoverLabel = some k8sDiscoverLabelVal ∧
      ¬ conf.gracePeriod ≤ 0 ∧ ¬ conf.syncFrequency ≤ 0 ∧
      p = ⟨computeAgentId (getenv "POD_NAME") (getenv "NAMESPACE"),
        conf.setDefaultLabelFile.setDefaultPrintPluginLogs,
        ⟨getenv "NODE_NAME", getenv "POD_NAME", labels, getenv "NAMESPACE"⟩⟩ := by
  unfold parsePluginManagerConfig at h
  obtain ⟨data, hdata, h⟩ := except_bind_eq_ok.mp h
  obtain ⟨conf, hconf, h⟩ := except_bind_eq_ok.mp h
  obtain ⟨hnode, h⟩ := ite_throw_eq_ok h
  obtain ⟨hpod, h⟩ := ite_throw_eq_ok h
  obtain ⟨hns, h⟩ := ite_throw_eq_ok h
  obtain ⟨labels, hlabels, h⟩ := except_bind_eq_ok.mp h
  obtain ⟨hdiscover, h⟩ := ite_throw_eq_ok h
  obtain ⟨hgrace, h⟩ := ite_throw_eq_ok h
  obtain ⟨hsync, h⟩ := ite_throw_eq_ok h
  -- the defaults do not touch the durations
  rw [setDefaultLabelFile_eq] at hgrace hsync
  exact ⟨data, conf, labels, mapError_eq_ok.mp hdata, mapError_eq_ok.mp hconf, hnode, hpod, hns,
    mapError_eq_ok.mp hlabels, not_not.mp hdiscover, hgrace, hsync, (Except.ok.inj h).symm⟩

/-- A started plugin manager: the config was parsed, the plugins of every enabled path
discovered, at least one of them, and the storage is Redis; nothing is cached or running. -/
theorem newPluginManager_ok {pm : PluginManager}
    (h : newPluginManager readFile unmarshal getenv glob store configPath = .ok pm) :
    ∃ p discoveredPlugins, parsePluginManagerConfig readFile unmarshal getenv configPath = .ok p ∧
      p.file.enabledPlugins.foldlM (mergeDiscovered glob) ∅ = .ok discoveredPlugins ∧
      discoveredPlugins.entries ≠ [] ∧ p.file.storeType = "redis" ∧
      pm = ⟨p.agentId, p.agentConfig, discoveredPlugins.keys, ∅, ∅, [], store⟩ := by
  unfold newPluginManager at h
  obtain ⟨p, hp, h⟩ := except_bind_eq_ok.mp h
  obtain ⟨discoveredPlugins, hdiscovered, h⟩ := except_bind_eq_ok.mp h
  obtain ⟨hempty, h⟩ := ite_throw_eq_ok h
  obtain ⟨u, hstore, h⟩ := except_bind_eq_ok.mp h
  have hredis : p.file.storeType = "redis" := by
    unfold newSynHeartStore at hstore
    split_ifs at hstore with hr
    · exact hr
    · cases hstore
  exact ⟨p, discoveredPlugins, hp, mapError_eq_ok.mp hdiscovered,
    fun hnil => hempty (by rw [hnil]; rfl), hredis, (Except.ok.inj h).symm⟩

/-- The converse of `newPluginManager_ok`. -/
theorem newPluginManager_of_parsed {p : ParsedConfig} {discoveredPlugins : GoMap String (List String)}
    (hp : parsePluginManagerConfig readFile unmarshal getenv configPath = .ok p)
    (hdiscovered : p.file.enabledPlugins.foldlM (mergeDiscovered glob) ∅ = .ok discoveredPlugins)
    (hne : discoveredPlugins.entries ≠ []) (hredis : p.file.storeType = "redis") :
    newPluginManager readFile unmarshal getenv glob store configPath =
      .ok ⟨p.agentId, p.agentConfig, discoveredPlugins.keys, ∅, ∅, [], store⟩ := by
  have hlen : ¬ discoveredPlugins.entries.length = 0 := fun h => hne (List.eq_nil_of_length_eq_zero h)
  simp only [newPluginManager, hp, hdiscovered, hredis, newSynHeartStore, hlen, Except.mapError, bind, Except.bind,
    if_false, if_true]
  rfl

end Start

/-- A namespace is watched when it is listed; the set is empty only for an empty list. -/
theorem getD_matchNamespaceSet (l : List String) (ns : String) :
    getD (matchNamespaceSet l) ns false = true ↔ ns ∈ l := by
  unfold matchNamespaceSet
  rw [getD_foldl_insert]
  by_cases h : ns ∈ l
  · simp [h]
  · simp [h, getD]

theorem entries_matchNamespaceSet_eq_nil {l : List String} :
    (matchNamespaceSet l).entries = [] ↔ l = [] := by
  constructor
  · intro h
    cases l with
    | nil => rfl
    | cons ns l =>
      -- the first namespace is watched, so the set has an entry
      have hmem := (getD_matchNamespaceSet (ns :: l) ns).mpr List.mem_cons_self
      simp [getD, AList.lookup, h] at hmem
  · rintro rfl
    rfl

/-! ## The tests an agent runs -/

namespace PluginManager

variable {pm pm' : PluginManager}

/-- The selectors of the agent accept the test `c`: `IsAgentValidForSynTest` returns
`(true, nil)`. -/
def Accepts (pm : PluginManager) (c : SynTestConfig) : Prop :=
  isAgentValidForSynTest pm.config pm.agentId c.name c.«namespace» c.nodeSelector
    c.podLabelSelector c.labels = .ok true

/-- The cache holds only tests that the selectors of the agent accept. -/
def Selected (pm : PluginManager) : Prop :=
  ∀ k st, pm.syntheticTests.lookup k = some st → pm.Accepts st.config

/-- A change that keeps the config and the agent id and caches no new config keeps
`Selected`. -/
theorem Selected.of_cache (h : pm.Selected) (hconfig : pm'.config = pm.config) (hid : pm'.agentId = pm.agentId)
    (hcache : ∀ k st, pm'.syntheticTests.lookup k = some st →
      ∃ st₀, pm.syntheticTests.lookup k = some st₀ ∧ st₀.config = st.config) :
    pm'.Selected := by
  intro k st hk
  obtain ⟨st₀, hk₀, hc⟩ := hcache k st hk
  unfold Accepts
  rw [hconfig, hid, ← hc]
  exact h k st₀ hk₀

theorem Selected.withStore (h : pm.Selected) (store : Redis) : ({ pm with store := store } : PluginManager).Selected :=
  h.of_cache rfl rfl fun _ st hk => ⟨st, hk, rfl⟩

theorem Selected.stopSynTest (h : pm.Selected) (k : String) : (pm.stopSynTest k).Selected :=
  h.of_cache (config_stopSynTest pm k) (agentId_stopSynTest pm k) fun j st hj =>
    ⟨st, by rwa [syntheticTests_stopSynTest] at hj, rfl⟩

theorem Selected.deleteSynTest (h : pm.Selected) (k : String) : (pm.deleteSynTest k).Selected := by
  refine h.of_cache (config_deleteSynTest pm k) (agentId_deleteSynTest pm k) fun j st hj => ⟨st, ?_, rfl⟩
  rw [lookup_deleteSynTest] at hj
  split_ifs at hj
  exact hj

theorem Selected.startTestRoutine (h : pm.Selected) {k : String} {s : SyntheticTest}
    (hk : pm.syntheticTests.lookup k = some s) : (pm.startTestRoutine k s).Selected := by
  refine h.of_cache (config_startTestRoutine pm k s) (agentId_startTestRoutine pm k s) fun j st hj => ?_
  by_cases hjk : j = k
  · -- the goroutine is recorded in the slot of `k`, whose config stays
    subst hjk
    have hself := lookup_startTestRoutine_self pm hk
    rw [hj, Option.map_some, Option.some.injEq, Prod.mk.injEq] at hself
    exact ⟨s, hk, hself.1.symm⟩
  · rw [lookup_startTestRoutine_ne pm s hjk] at hj
    exact ⟨st, hj, rfl⟩

/-- The sync loop caches a test only when the selectors accept it. -/
theorem Selected.startIfValid (h : pm.Selected) (k v : String) (c : SynTestConfig) :
    (pm.startIfValid k v c).Selected := by
  unfold PluginManager.startIfValid
  split
  · rename_i hacc
    have hins : ({ pm with syntheticTests := pm.syntheticTests.insert k ⟨c, v, none⟩ } : PluginManager).Selected := by
      intro j st hj
      rcases (lookup_insert_eq_some pm.syntheticTests).mp hj with ⟨-, rfl⟩ | ⟨-, hj⟩
      · exact hacc
      · exact h j st hj
    exact hins.startTestRoutine (AList.lookup_insert _)
  · exact h

theorem syntheticTests_stepRoutine {i : Nat} {input : PluginInput} (hs : pm.stepRoutine i input = some pm') :
    pm'.syntheticTests = pm.syntheticTests ∧ pm'.config = pm.config ∧ pm'.agentId = pm.agentId := by
  unfold PluginManager.stepRoutine at hs
  split at hs
  · cases hs
    exact ⟨rfl, rfl, rfl⟩
  · cases hs

theorem config_startIfValid (k v : String) (c : SynTestConfig) : (pm.startIfValid k v c).config = pm.config := by
  unfold PluginManager.startIfValid
  split
  · exact config_startTestRoutine _ k _
  · rfl

theorem agentId_startIfValid (k v : String) (c : SynTestConfig) :
    (pm.startIfValid k v c).agentId = pm.agentId := by
  unfold PluginManager.startIfValid
  split
  · exact agentId_startTestRoutine _ k _
  · rfl

/-- What one step of the agent does to its plugin manager: nothing, a write to Redis, the
step of a goroutine, the cancel of a cached test, the deletion of a test, or the start of
a test, after the deletion of its older version when it changed. -/
inductive Change (pm : PluginManager) : PluginManager → Prop
  | same : Change pm pm
  | store (store : Redis) : Change pm { pm with store := store }
  | routine {i : Nat} {input : PluginInput} {pm' : PluginManager} :
      pm.stepRoutine i input = some pm' → Change pm pm'
  | stop (k : String) : Change pm (pm.stopSynTest k)
  | delete (k : String) : Change pm (pm.deleteSynTest k)
  | start (k v : String) (c : SynTestConfig) : Change pm (pm.startIfValid k v c)
  | restart (k v : String) (c : SynTestConfig) : Change pm ((pm.deleteSynTest k).startIfValid k v c)

theorem Change.config_agentId (h : Change pm pm') : pm'.config = pm.config ∧ pm'.agentId = pm.agentId := by
  cases h with
  | same => exact ⟨rfl, rfl⟩
  | store => exact ⟨rfl, rfl⟩
  | routine hs => exact (syntheticTests_stepRoutine hs).2
  | stop k => exact ⟨config_stopSynTest pm k, agentId_stopSynTest pm k⟩
  | delete k => exact ⟨config_deleteSynTest pm k, agentId_deleteSynTest pm k⟩
  | start k v c => exact ⟨config_startIfValid k v c, agentId_startIfValid k v c⟩
  | restart k v c =>
    rw [config_startIfValid, agentId_startIfValid]
    exact ⟨config_deleteSynTest pm k, agentId_deleteSynTest pm k⟩

theorem Change.selected (h : Change pm pm') (hs : pm.Selected) : pm'.Selected := by
  cases h with
  | same => exact hs
  | store store => exact hs.withStore store
  | routine hstep =>
    obtain ⟨htests, hconfig, hid⟩ := syntheticTests_stepRoutine hstep
    exact hs.of_cache hconfig hid fun k st hk => ⟨st, htests ▸ hk, rfl⟩
  | stop k => exact hs.stopSynTest k
  | delete k => exact hs.deleteSynTest k
  | start k v c => exact hs.startIfValid k v c
  | restart k v c => exact (hs.deleteSynTest k).startIfValid k v c

end PluginManager

open PluginManager

theorem visitDeleted_change (pm : PluginManager) (snap : ConfigSnapshot) (latest : GoMap String SyntestConfigSummary)
    (todo : List (Σ _ : String, SyntheticTest)) (k : String) :
    Change pm (visitDeleted pm snap latest todo k).1 := by
  unfold visitDeleted
  split_ifs
  · exact .same
  · exact .stop k

theorem visitLatest_change (pm : PluginManager) (snap : ConfigSnapshot) (todo : List (Σ _ : String, SyntestConfigSummary))
    (k : String) (configSummary : SyntestConfigSummary) :
    Change pm (visitLatest pm snap todo k configSummary).1 := by
  unfold visitLatest
  dsimp only
  split
  · exact .same
  · split
    · exact .same
    · split
      · exact .stop k
      · exact .start _ _ _

theorem syncStep_change {pm pm' : PluginManager} {n : Nat} {pc pc' : SyncPc}
    (hs : syncStep pm n pc = some (pm', pc')) : Change pm pm' := by
  cases pc with
  | idle => cases hs
  | deletion snap latest todo =>
    simp only [syncStep] at hs
    split at hs
    · rename_i e _
      have hpm : (visitDeleted pm snap latest (todo.eraseIdx n) e.1).1 = pm' := congrArg Prod.fst (Option.some.inj hs)
      rw [← hpm]
      exact visitDeleted_change pm snap latest _ e.1
    · split_ifs at hs
      cases hs
      exact .same
  | waitDeleted k snap latest todo =>
    simp only [syncStep] at hs
    split_ifs at hs
    cases hs
    exact .delete k
  | update snap todo =>
    simp only [syncStep] at hs
    split at hs
    · rename_i e _
      have hpm : (visitLatest pm snap (todo.eraseIdx n) e.1 e.2).1 = pm' := congrArg Prod.fst (Option.some.inj hs)
      rw [← hpm]
      exact visitLatest_change pm snap _ e.1 e.2
    · split_ifs at hs
      cases hs
      exact .same
  | waitChanged k v c snap todo =>
    simp only [syncStep] at hs
    split_ifs at hs
    cases hs
    exact .restart k v c

/-- Every step of the agent changes its plugin manager in one of the ways `Change` lists. -/
theorem agentStep_change {a a' : Agent} {l : AgentLabel} (hs : agentStep a l = some a') : Change a.pm a'.pm := by
  cases l with
  | syncStart snap =>
    obtain ⟨pc, -, rfl⟩ := Option.map_eq_some_iff.mp hs
    exact .same
  | syncStep n =>
    obtain ⟨⟨pm, pc⟩, hpc, rfl⟩ := Option.map_eq_some_iff.mp hs
    exact syncStep_change hpc
  | routine i input =>
    obtain ⟨pm, hpm, rfl⟩ := Option.map_eq_some_iff.mp hs
    exact .routine hpm
  | publish i testRun =>
    simp only [agentStep] at hs
    split at hs
    · split_ifs at hs
      cases hs
      exact .same
    · cases hs
  | exportTestRun =>
    simp only [agentStep] at hs
    split at hs
    · cases hs
      exact .store _
    · cases hs
  | _ =>
    obtain ⟨⟨pm, hpc⟩, hhs, rfl⟩ := Option.map_eq_some_iff.mp hs
    obtain ⟨store, rfl⟩ := healthStep_store hhs
    exact .store store

/-- In every reachable state the agent keeps its config and its id, and caches only tests
that its selectors accept. -/
theorem reachable_selected {agentId : String} {config : AgentConfig} {synTestNameMap : List String}
    {store : Redis} {a : Agent}
    (h : Transition.Reachable agentStep AgentLabel.Allowed (Agent.init agentId config synTestNameMap store) a) :
    a.pm.config = config ∧ a.pm.agentId = agentId ∧ a.pm.Selected := by
  refine h.invariant (I := fun a => a.pm.config = config ∧ a.pm.agentId = agentId ∧ a.pm.Selected)
    ⟨rfl, rfl, fun k st hk => by simp [Agent.init] at hk⟩ fun a l a' _ ha hs => ?_
  obtain ⟨hconfig, hid, hsel⟩ := ha
  have hc := agentStep_change hs
  obtain ⟨hconfig', hid'⟩ := hc.config_agentId
  exact ⟨hconfig'.trans hconfig, hid'.trans hid, hc.selected hsel⟩

/-! ## What the selectors ask of a test -/

/-- What the selectors of an agent started from the config file `file`, in the environment
`getenv`, on a pod with the labels `podLabels`, ask of a test `c`: a watched namespace, a
node selector that matches the node, the labels the agent expects, and a pod-label selector
each entry of which matches the agent id, the namespace or the name of the pod, or a label
of the pod. -/
structure SelectedBy (file : AgentConfigFile) (getenv : String → String) (podLabels : GoMap String String)
    (c : SynTestConfig) : Prop where
  namespace_mem : file.matchTestNamespaces ≠ [] → c.«namespace» ∈ file.matchTestNamespaces
  node : c.nodeSelector ≠ "" → Filepath.«match» c.nodeSelector (getenv "NODE_NAME") = .ok true
  labels : ∀ e ∈ file.matchTestLabels.entries, getD c.labels e.1 "" = e.2
  podLabels : ∀ e ∈ c.podLabelSelector.entries,
    (e.1 = specialKeyAgentId ∧ e.2 = computeAgentId (getenv "POD_NAME") (getenv "NAMESPACE")) ∨
      (e.1 = specialKeyAgentNs ∧ Filepath.«match» e.2 (getenv "NAMESPACE") = .ok true) ∨
      (e.1 = specialKeyPodName ∧ Filepath.«match» e.2 (getenv "POD_NAME") = .ok true) ∨
      ∃ val, podLabels.lookup e.1 = some val ∧ Filepath.«match» e.2 val = .ok true

/-- The selector check of a config read from `file` means `SelectedBy`. -/
theorem selectedBy_of_isAgentValidForSynTest {file : AgentConfigFile} {getenv : String → String}
    {podLabels : GoMap String String} {c : SynTestConfig}
    (h : isAgentValidForSynTest
      ⟨file.matchTestLabels, ⟨getenv "NODE_NAME", getenv "POD_NAME", podLabels, getenv "NAMESPACE"⟩,
        matchNamespaceSet file.matchTestNamespaces⟩
      (computeAgentId (getenv "POD_NAME") (getenv "NAMESPACE")) c.name c.«namespace» c.nodeSelector
      c.podLabelSelector c.labels = .ok true) :
    SelectedBy file getenv podLabels c := by
  obtain ⟨hns, hnode, hlabels, hpods⟩ := (isAgentValidForSynTest_eq_ok_true _ _ _ _ _ _ _).mp h
  refine ⟨fun hne => ?_, fun hsel => (matchWrapped_eq_ok_true _ _ _).mp (hnode hsel), hlabels,
    fun e he => (podLabelSelectorEntry_eq_ok_true _ _ _ _).mp (hpods e he)⟩
  -- a non-empty list gives a non-empty set, in which the namespace must be
  rcases hns with hnil | hmem
  · exact absurd (entries_matchNamespaceSet_eq_nil.mp hnil) hne
  · exact (getD_matchNamespaceSet _ _).mp hmem

/-- The config file of the agent README: the tests of `synthetic-heart-system` labelled
`infra: true`, and the plugins of `./plugins/*` and the python plugins. -/
def readmeAgentConfigFile : AgentConfigFile :=
  { matchTestNamespaces := ["synthetic-heart-system"]
    matchTestLabels := (∅ : GoMap String String).insert "infra" "true"
    labelFileLocation := ""
    syncFrequency := 30 * second
    gracePeriod := 3 * second
    storeType := "redis"
    printPluginLogs := logOnFail
    enabledPlugins := [⟨"./plugins/*", ""⟩, ⟨"./plugins-python/*/*.py", "python3"⟩] }

/-- The sample config of the agent README, without the lines the chart fills in and without
the `prometheus` block, which `NewPluginManager` does not read. -/
def readmeConfigYaml : String :=
  "gracePeriod: 3s\nsyncFrequency: 30s\nprintPluginLogs: onFail\nstorage:\n   type: redis\n" ++
  "   bufferSize: 1000\n   pollRate: 60s\nmatchTestNamespaces:\n   - synthetic-heart-system\n" ++
  "matchTestLabels:\n    infra: \"true\"\nenabledPlugins:\n   - path: \"./plugins/*\"\n" ++
  "   - path: \"./plugins-python/*/*.py\"\n     cmd: \"python3\"\n"

/-- `yaml.Unmarshal` on that text: it gives the README's config, and any other text is read as
none. -/
def readmeUnmarshal (data : String) : Except String AgentConfigFile :=
  if data = readmeConfigYaml then .ok readmeAgentConfigFile
  else .error "yaml: unmarshal errors"

theorem readmeUnmarshal_readmeConfigYaml :
    readmeUnmarshal readmeConfigYaml = .ok readmeAgentConfigFile :=
  if_pos rfl

/-- The files of an agent pod: its config file at the default path of `main`, and the label
file of the chart's pod. -/
def readmeReadFile (path : String) : Except String String :=
  if path = "/etc/config/syntheticheart-config.yaml" then .ok readmeConfigYaml
  else if path = defaultLabelFilePath then .ok (labelFile agentPodLabels)
  else .error ("open " ++ path ++ ": no such file or directory")

/-- The environment of the pod `agent-0` of `synthetic-heart-system` on `node-1`. -/
def readmeGetenv (name : String) : String :=
  if name = "NODE_NAME" then "node-1"
  else if name = "POD_NAME" then "agent-0"
  else if name = "NAMESPACE" then "synthetic-heart-system"
  else ""

/-- The plugins directory holds `ping` and `dns`. -/
def readmeGlob (pattern : String) : Except String (List String) :=
  if pattern = "./plugins/*" then .ok ["plugins/test-ping", "plugins/test-dns"] else .ok []

/-- What `parsePluginManagerConfig` makes of them. -/
def readmeParsed : ParsedConfig :=
  ⟨"agent-0/synthetic-heart-system", { readmeAgentConfigFile with labelFileLocation := defaultLabelFilePath },
    ⟨"node-1", "agent-0", ((∅ : GoMap String String).insert "app" "synheart-agent").insert k8sDiscoverLabel "true",
      "synthetic-heart-system"⟩⟩

/-- The plugins discovered in `./plugins/*`. -/
def readmeDiscovered : GoMap String (List String) :=
  ((∅ : GoMap String (List String)).insert "dns" ["./plugins/test-dns"]).insert "ping" ["./plugins/test-ping"]

/-- The plugin manager started from them. -/
def readmePluginManager : PluginManager :=
  ⟨readmeParsed.agentId, readmeParsed.agentConfig, readmeDiscovered.keys, ∅, ∅, [], .empty⟩

/-- The config file is read and decoded before anything else is checked. -/
theorem parsePluginManagerConfig_readme :
    parsePluginManagerConfig readmeReadFile readmeUnmarshal readmeGetenv
      "/etc/config/syntheticheart-config.yaml" = .ok readmeParsed := by
  have hread : readmeReadFile "/etc/config/syntheticheart-config.yaml" = .ok readmeConfigYaml := rfl
  simp only [parsePluginManagerConfig, hread, Except.mapError, bind, Except.bind,
    readmeUnmarshal_readmeConfigYaml]
  rfl

theorem newPluginManager_readme :
    newPluginManager readmeReadFile readmeUnmarshal readmeGetenv readmeGlob .empty
      "/etc/config/syntheticheart-config.yaml" = .ok readmePluginManager :=
  newPluginManager_of_parsed parsePluginManagerConfig_readme (by rfl) (by decide) rfl

/-- A test of `synthetic-heart-system` labelled `infra: true`. -/
def infraPingConfig : SynTestConfig :=
  { pingConfig with
    name := "ping-infra"
    version := "1"
    labels := (∅ : GoMap String String).insert "infra" "true"
    «namespace» := "synthetic-heart-system" }

/-- A Redis that holds `ping/default`, which the agent does not watch, and
`ping-infra/synthetic-heart-system`. -/
def readmeSnapshot : ConfigSnapshot :=
  { summaries := .ok (((∅ : GoMap String SyntestConfigSummary).insert "ping/default"
      ⟨"ping", "default", "ping/default", "2", ""⟩).insert "ping-infra/synthetic-heart-system"
      ⟨"ping-infra", "synthetic-heart-system", "ping-infra/synthetic-heart-system", "1", ""⟩)
    fetch := fun k => if k = "ping-infra/synthetic-heart-system" then .ok infraPingConfig else .ok pingConfig }

theorem readmeSnapshot_wellKeyed : readmeSnapshot.WellKeyed := by
  intro latest hlatest k hk c hc
  simp only [readmeSnapshot, Except.ok.injEq] at hlatest
  subst hlatest
  simp only [AList.mem_insert] at hk
  rcases hk with rfl | rfl | hk
  · simp only [readmeSnapshot, if_pos] at hc
    cases hc
    rfl
  · simp only [readmeSnapshot] at hc
    rw [if_neg (by decide)] at hc
    cases hc
    rfl
  · exact absurd hk (AList.notMem_empty k)

/-- The first sync of the agent: the deletion pass has nothing to visit, and the update
pass visits both summaries. -/
def readmeSync : List AgentLabel :=
  [.syncStart readmeSnapshot, .syncStep 0, .syncStep 0, .syncStep 0, .syncStep 0]

end SyntheticHeart
