import SyntheticHeart.Common.Helpers

/-!
# Plugin discovery (`agent/pluginmanager/pluginRegistration.go`)

At start-up the agent globs the path of every `PluginDiscoveryConfig` (`DiscoverPlugins`):
every file `test-<name>` becomes the plugin `<name>`, started by the configured `Cmd` with the
file as its argument or, without a `Cmd`, by the file itself, given a leading `./` when it
has none. A test routine starts its plugin with `connectWithPlugin`, which runs the first
element of the command with the others as arguments.

`filepath.Glob` is a parameter. What a path names is stated for the working directory of
the process (`resolve`): the components of the path are read from the root or from the
working directory, empty components and `.` are skipped, and `..` goes up.

* `lookup_discoverPlugins`: a plugin name is mapped to the command of the last file of that
  name that the glob returned.
* `discovered_command_cases`: with a `Cmd`, the plugin runs as `Cmd p`. Without one, a
  relative path `p` runs as `./p`, the same file; a path that already starts with `./` gets
  an empty command, on which `connectWithPlugin` panics; and an absolute path `/q` runs as
  `.//q`, which names `q` under the working directory.
-/

namespace SyntheticHeart.PluginRegistration

open GoMap

/-- `SyntestPrefix`. -/
def syntestPrefix : String := "test-"

/-- `common.PluginDiscoveryConfig`. -/
structure PluginDiscoveryConfig where
  path : String
  cmd : String
  deriving DecidableEq, Repr

/-- The last component of `strings.Split(filePath, "/")`. -/
def fileName (filePath : String) : String := (Strings.split filePath '/').getLastD ""

/-- The command `DiscoverPlugins` gives the file `filePath`. -/
def pluginCmd (config : PluginDiscoveryConfig) (filePath : String) : List String :=
  if config.cmd = "" then
    if Strings.hasPrefix filePath "./" then [] else ["./" ++ filePath]
  else [config.cmd, filePath]

/-- One file of the loop of `DiscoverPlugins`: a file `test-<name>` is the plugin `<name>`. -/
def discoverStep (config : PluginDiscoveryConfig) (plugins : GoMap String (List String))
    (filePath : String) : GoMap String (List String) :=
  let fileName := fileName filePath
  if Strings.hasPrefix fileName syntestPrefix then
    plugins.insert (Strings.trimPrefix fileName syntestPrefix) (pluginCmd config filePath)
  else plugins

/-- `DiscoverPlugins`, with `glob` for `filepath.Glob`. -/
def discoverPlugins (glob : String → Except String (List String)) (config : PluginDiscoveryConfig) :
    Except String (GoMap String (List String)) :=
  match glob config.path with
  | .error err => .error (wrap ("error discovering plugins from path " ++ config.path) err)
  | .ok files => .ok (files.foldl (discoverStep config) ∅)

/-- The program and the arguments of the `exec.Command` that `connectWithPlugin` builds from
`executableCmd`; `none` where it reads `executableCmd[0]` of an empty command, which panics.
The go-plugin client it starts on the command is left out. -/
def connectWithPlugin (executableCmd : List String) : Option (String × List String) :=
  match executableCmd[0]? with
  | some program => some (program, if 1 < executableCmd.length then executableCmd.drop 1 else [])
  | none => none

/-- Whether the file `filePath` is the plugin `name`. -/
def isPluginFile (name filePath : String) : Bool :=
  Strings.hasPrefix (fileName filePath) syntestPrefix &&
    Strings.trimPrefix (fileName filePath) syntestPrefix == name

/-! ## The discovered commands -/

theorem lookup_discoverStep (config : PluginDiscoveryConfig) (plugins : GoMap String (List String))
    (filePath name : String) :
    (discoverStep config plugins filePath).lookup name =
      if isPluginFile name filePath then some (pluginCmd config filePath) else plugins.lookup name := by
  unfold discoverStep isPluginFile
  dsimp only
  by_cases hp : Strings.hasPrefix (fileName filePath) syntestPrefix = true
  · by_cases hn : Strings.trimPrefix (fileName filePath) syntestPrefix = name
    · subst hn
      simp [hp]
    · simp [hp, hn, AList.lookup_insert_ne (Ne.symm hn)]
  · simp [hp]

/-- Each file of a name replaces the command of the files of that name before it. -/
theorem lookup_foldl_discoverStep (config : PluginDiscoveryConfig) (name : String) :
    ∀ (files : List String) (plugins : GoMap String (List String)),
      (files.foldl (discoverStep config) plugins).lookup name =
        ((files.filter (isPluginFile name)).getLast?.map (pluginCmd config)).or (plugins.lookup name)
  | [], plugins => by simp
  | p :: ps, plugins => by
    rw [List.foldl_cons, lookup_foldl_discoverStep config name ps, lookup_discoverStep,
      List.filter_cons]
    by_cases hp : isPluginFile name p = true
    · cases hl : (ps.filter (isPluginFile name)).getLast? <;> simp [hp, hl, List.getLast?_cons]
    · simp [hp]

theorem lookup_discoverPlugins {glob : String → Except String (List String)}
    {config : PluginDiscoveryConfig} {files : List String} (hglob : glob config.path = .ok files) :
    ∃ m, discoverPlugins glob config = .ok m ∧
      ∀ name, m.lookup name = (files.filter (isPluginFile name)).getLast?.map (pluginCmd config) := by
  refine ⟨files.foldl (discoverStep config) ∅, by rw [discoverPlugins, hglob], fun name => ?_⟩
  rw [lookup_foldl_discoverStep]
  simp

theorem pluginCmd_of_cmd {config : PluginDiscoveryConfig} (hcmd : config.cmd ≠ "") (p : String) :
    pluginCmd config p = [config.cmd, p] := by
  simp [pluginCmd, hcmd]

theorem pluginCmd_of_dot_slash {config : PluginDiscoveryConfig} (hcmd : config.cmd = "") {p : String}
    (hp : Strings.hasPrefix p "./" = true) : pluginCmd config p = [] := by
  simp [pluginCmd, hcmd, hp]

theorem pluginCmd_of_not_dot_slash {config : PluginDiscoveryConfig} (hcmd : config.cmd = "")
    {p : String} (hp : Strings.hasPrefix p "./" = false) : pluginCmd config p = ["./" ++ p] := by
  simp [pluginCmd, hcmd, hp]

/-! ## What a path names -/

/-- One component of a path, read in the directory `dir`, the names of its path from the
root. -/
def resolveStep (dir : List String) (component : String) : List String :=
  if component = "" ∨ component = "." then dir
  else if component = ".." then dir.dropLast
  else dir ++ [component]

/-- The file that `path` names for a process whose working directory is `cwd`. -/
def resolve (cwd : List String) (path : String) : List String :=
  (Strings.split path '/').foldl resolveStep (if Strings.hasPrefix path "/" then [] else cwd)

/-- A component other than `..` goes down from wherever it is read. -/
theorem resolveStep_append {dir : List String} {c : String} (hc : c ≠ "..") :
    resolveStep dir c = dir ++ resolveStep [] c := by
  unfold resolveStep
  split_ifs <;> simp

theorem foldl_resolveStep_append {cs : List String} (hcs : ".." ∉ cs) :
    ∀ dir, cs.foldl resolveStep dir = dir ++ cs.foldl resolveStep [] := by
  induction cs with
  | nil => simp
  | cons c cs ih =>
    intro dir
    rw [List.mem_cons, not_or] at hcs
    rw [List.foldl_cons, List.foldl_cons, ih hcs.2, ih hcs.2 (resolveStep [] c),
      resolveStep_append (Ne.symm hcs.1), List.append_assoc]

theorem split_dot_slash (p : String) : Strings.split ("./" ++ p) '/' = "." :: Strings.split p '/' := by
  have hdot : "./" ++ p = "." ++ "/" ++ p := rfl
  rw [hdot, Strings.split_append_slash (by decide)]

theorem hasPrefix_dot_slash (p : String) : Strings.hasPrefix ("./" ++ p) "/" = false := by
  simp only [Strings.hasPrefix, String.toList_append]
  rfl

/-- `./p` names the file `p` names, for a relative `p`. -/
theorem resolve_dot_slash (cwd : List String) {p : String} (hp : Strings.hasPrefix p "/" = false) :
    resolve cwd ("./" ++ p) = resolve cwd p := by
  rw [resolve, resolve, split_dot_slash, hasPrefix_dot_slash, hp]
  simp [resolveStep]

theorem hasPrefix_dot_slash_of_absolute {p : String} (hp : Strings.hasPrefix p "/" = true) :
    Strings.hasPrefix p "./" = false := by
  obtain ⟨q, rfl⟩ := Strings.hasPrefix_iff.mp hp
  simp only [Strings.hasPrefix, String.toList_append]
  rfl

/-- `./` before an absolute path `p` that does not go up names `p` under the working
directory. -/
theorem resolve_dot_slash_of_absolute (cwd : List String) {p : String}
    (hp : Strings.hasPrefix p "/" = true) (hdots : ".." ∉ Strings.split p '/') :
    resolve cwd ("./" ++ p) = cwd ++ resolve cwd p := by
  obtain ⟨q, rfl⟩ := Strings.hasPrefix_iff.mp hp
  have hsplit : Strings.split ("/" ++ q) '/' = "" :: Strings.split q '/' := by
    have hslash : "/" ++ q = "" ++ "/" ++ q := rfl
    rw [hslash, Strings.split_append_slash (by decide)]
  rw [hsplit, List.mem_cons, not_or] at hdots
  rw [resolve, resolve, split_dot_slash, hasPrefix_dot_slash, hp, hsplit]
  simp only [Bool.false_eq_true, if_false, if_true, List.foldl_cons]
  rw [foldl_resolveStep_append hdots.2 (resolveStep (resolveStep cwd ".") ""),
    foldl_resolveStep_append hdots.2 (resolveStep [] "")]
  simp [resolveStep]

/-! ## The command a discovered plugin runs -/

theorem discovered_command_cases (glob : String → Except String (List String))
    (config : PluginDiscoveryConfig) (files : List String) (hglob : glob config.path = .ok files) :
    (∃ m, discoverPlugins glob config = .ok m ∧
      ∀ name, m.lookup name = (files.filter (isPluginFile name)).getLast?.map (pluginCmd config)) ∧
    (config.cmd ≠ "" → ∀ p, connectWithPlugin (pluginCmd config p) = some (config.cmd, [p])) ∧
    (config.cmd = "" → ∀ p, Strings.hasPrefix p "./" = true →
      pluginCmd config p = [] ∧ connectWithPlugin (pluginCmd config p) = none) ∧
    (config.cmd = "" → ∀ p, Strings.hasPrefix p "./" = false → Strings.hasPrefix p "/" = false →
      connectWithPlugin (pluginCmd config p) = some ("./" ++ p, []) ∧
        ∀ cwd, resolve cwd ("./" ++ p) = resolve cwd p) ∧
    (config.cmd = "" → ∀ p, Strings.hasPrefix p "/" = true → ".." ∉ Strings.split p '/' →
      connectWithPlugin (pluginCmd config p) = some ("./" ++ p, []) ∧
        ∀ cwd, resolve cwd ("./" ++ p) = cwd ++ resolve cwd p) := by
  refine ⟨lookup_discoverPlugins hglob, fun hcmd p => ?_, fun hcmd p hp => ?_,
    fun hcmd p hp hrel => ?_, fun hcmd p habs hdots => ?_⟩
  · rw [pluginCmd_of_cmd hcmd]
    rfl
  · rw [pluginCmd_of_dot_slash hcmd hp]
    exact ⟨rfl, rfl⟩
  · rw [pluginCmd_of_not_dot_slash hcmd hp]
    exact ⟨rfl, fun cwd => resolve_dot_slash cwd hrel⟩
  · rw [pluginCmd_of_not_dot_slash hcmd (hasPrefix_dot_slash_of_absolute habs)]
    exact ⟨rfl, fun cwd => resolve_dot_slash_of_absolute cwd habs hdots⟩

/-- `filepath.Glob` of a pattern without metacharacters that names an existing file: the
pattern itself. -/
def globVerbatim (pattern : String) : Except String (List String) := .ok [pattern]

/-- A discovery config naming one plugin binary by its path from the working directory. -/
def localPluginConfig : PluginDiscoveryConfig := ⟨"./plugins/test-curl", ""⟩

theorem discovered_command_cases_local :
    ∃ m, discoverPlugins globVerbatim localPluginConfig = .ok m ∧ m.lookup "curl" = some [] ∧
      connectWithPlugin [] = none := by
  obtain ⟨⟨m, hm, hlookup⟩, -⟩ :=
    discovered_command_cases globVerbatim localPluginConfig [localPluginConfig.path] rfl
  refine ⟨m, hm, ?_, rfl⟩
  rw [hlookup]
  decide

end SyntheticHeart.PluginRegistration
