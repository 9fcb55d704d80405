import SyntheticHeart.Agent.Prometheus
import SyntheticHeart.Go.Float
import SyntheticHeart.Go.Strings

/-!
# The `curl` plugin

`PerformTest` runs `curl -v --output /dev/null --silent --write-out '%{a} %{b} ' url`, one
`%{name} ` for each output option of the config, and reads curl's combined output: its last
line, with the quotes around it cut off and split at spaces, gives the value of each option,
in order (`outputVals`). `addPrometheusMetrics` makes a gauge `curl_<name>` of every metric
option, its value the option's value as a float, and gives every gauge the values of the
label options and the URL as labels; the gauges go into `Details["_prometheus"]` as YAML
(`AddPrometheusMetricsToResults`), and the test passes with one mark of one.

What curl prints is the input of `performTest`; the YAML encoding is abstract (`marshal`).
A Go string is sliced by bytes; the model cuts off characters, which is the same for the
quotes of the write-out.

* `performTest_writeOut`: when curl's output ends with the line that the write-out format
  prints, for values without a space or a newline, the test passes with the gauges of those
  values: one gauge per metric option, in order, each with the labels of all label options
  and the URL (`curlGauges`).
-/

namespace SyntheticHeart.Curl

open GoMap

/-- `OutputOption`: a variable of curl's write-out, exported as a gauge, a label, or both. -/
structure OutputOption where
  name : String
  prometheusMetric : Bool
  prometheusLabel : Bool
  deriving DecidableEq, Repr

/-- `CurlTestConfig`. -/
structure CurlTestConfig where
  url : String
  outputOptions : List OutputOption
  deriving DecidableEq, Repr

/-- `common.PrometheusGauge` as a plugin fills it; a nil `Labels` map is the empty map. -/
structure PrometheusGauge where
  name : String
  help : String
  value : GoFloat
  labels : GoMap String String

/-! ## The write-out format and curl's output -/

/-- The loop that builds the `--write-out` argument, with `field o` written for the option
`o`: each field followed by a space, all in single quotes. -/
def writeOut (field : OutputOption → String) (outputOptions : List OutputOption) : String :=
  outputOptions.foldl (fun s o => s ++ field o ++ " ") "'" ++ "'"

/-- `outputOptionsStr`, the `--write-out` argument: `%{name}` for every option. -/
def outputOptionsStr (outputOptions : List OutputOption) : String :=
  writeOut (fun o => "%\x7b" ++ o.name ++ "\x7d") outputOptions

/-- The command `PerformTest` runs. -/
def curlCmd (config : CurlTestConfig) : List String :=
  ["curl", "-v", "--output", "/dev/null", "--silent", "--write-out", outputOptionsStr config.outputOptions,
    config.url]

/-- The line curl prints for `outputOptionsStr`, each `%{name}` replaced by the value of the
variable `name`. -/
def writeOutLine (value : String → String) (outputOptions : List OutputOption) : String :=
  writeOut (fun o => value o.name) outputOptions

/-! ## `PerformTest` -/

/-- `s[1 : len(s)-1]`, the string without its first and last character; `none` where the
bounds are out of range and the slice panics. -/
def sliceQuotes (s : String) : Option String :=
  if s.toList.length < 2 then none else some (String.ofList (s.toList.drop 1).dropLast)

/-- The body of the loop over the metric options in `addPrometheusMetrics`: a gauge of the
option's value, or the error of a value that is no float. -/
def metricStep (outputVals : GoMap String String) (gauges : List PrometheusGauge) (o : OutputOption) :
    Except String (List PrometheusGauge) :=
  if !o.prometheusMetric then .ok gauges
  else
    match Strconv.parseFloat (outputVals.getD o.name "") with
    | .error err => .error ("error converting metric to float: " ++ err)
    | .ok v => .ok (gauges ++ [⟨"curl_" ++ o.name, "Curl metric for " ++ o.name, v, ∅⟩])

/-- The body of the loop over the label options: every gauge gets the option's value and
the URL as labels. -/
def labelStep (url : String) (outputVals : GoMap String String) (gauges : List PrometheusGauge)
    (o : OutputOption) : List PrometheusGauge :=
  if !o.prometheusLabel then gauges
  else gauges.map fun g => { g with labels := (g.labels.insert o.name (outputVals.getD o.name "")).insert "url" url }

/-- `common.AddPrometheusMetricsToResults`, on the details map of the result, which every
plugin creates non-nil; `yaml.Marshal` of the gauges is `marshal`. -/
def addPrometheusMetricsToResults (marshal : List PrometheusGauge → String) (gauges : List PrometheusGauge)
    (details : GoMap String String) : GoMap String String :=
  details.insert Prometheus.prometheusKey (marshal gauges)

/-- `addPrometheusMetrics`: the result and the error it returns. -/
def addPrometheusMetrics (marshal : List PrometheusGauge → String) (config : CurlTestConfig)
    (outputVals : GoMap String String) (testResult : TestResult) : TestResult × Option String :=
  match config.outputOptions.foldlM (metricStep outputVals) [] with
  | .error err => (testResult, some err)
  | .ok gauges =>
    let gauges := config.outputOptions.foldl (labelStep config.url outputVals) gauges
    (⟨1, 1, addPrometheusMetricsToResults marshal gauges testResult.details⟩, none)

/-- `PerformTest`, on what `cmd.CombinedOutput()` returned for `curlCmd config`: the result
and the error it returns, or `none` where it panics. -/
def performTest (marshal : List PrometheusGauge → String) (config : CurlTestConfig)
    (out : Except String String) : Option (TestResult × Option String) :=
  let testResult : TestResult := ⟨0, 1, ∅⟩
  match out with
  | .error err => some (⟨0, 0, ∅⟩, some ("error executing curl: " ++ err))
  | .ok output =>
    match sliceQuotes ((Strings.split output '\n').getLastD "") with
    | none => none
    | some relevantLine =>
      let values := Strings.split relevantLine ' '
      if values.length < config.outputOptions.length then
        some (testResult, some "the number of output returned by curl do not match the query")
      else
        let outputVals := (config.outputOptions.zip values).foldl (fun m p => m.insert p.1.name p.2) ∅
        some (addPrometheusMetrics marshal config outputVals testResult)

/-! ## Reading the write-out back -/

section WriteOut

variable (value : String → String)

/-- The labels every gauge of a run gets: the value of each label option, and the URL once
there is a label option. -/
def curlLabels (config : CurlTestConfig) : GoMap String String :=
  config.outputOptions.foldl
    (fun m o => if o.prometheusLabel then (m.insert o.name (value o.name)).insert "url" config.url else m) ∅

/-- The gauges of a run whose variables have the values `value`, read as floats `f`: one per
metric option, in order, all with the labels `curlLabels`. -/
def curlGauges (config : CurlTestConfig) (f : String → GoFloat) : List PrometheusGauge :=
  (config.outputOptions.filter (·.prometheusMetric)).map fun o =>
    ⟨"curl_" ++ o.name, "Curl metric for " ++ o.name, f o.name, curlLabels value config⟩

theorem foldl_writeOut (field : OutputOption → String) :
    ∀ (l : List OutputOption) (s : String),
      l.foldl (fun s o => s ++ field o ++ " ") s = s ++ String.join (l.map fun o => field o ++ " ")
  | [], s => by simp
  | o :: l, s => by
    rw [List.foldl_cons, foldl_writeOut field l, List.map_cons, String.join_cons]
    simp only [String.append_assoc]

/-- The written line is its values, each followed by a space, in quotes. -/
theorem writeOutLine_eq (outputOptions : List OutputOption) :
    writeOutLine value outputOptions =
      "'" ++ String.join ((outputOptions.map fun o => value o.name).map (· ++ String.singleton ' ')) ++ "'" := by
  rw [writeOutLine, writeOut, foldl_writeOut, List.map_map]
  rfl

theorem newline_not_mem_writeOutLine {outputOptions : List OutputOption}
    (h : ∀ o ∈ outputOptions, '\n' ∉ (value o.name).toList) : '\n' ∉ (writeOutLine value outputOptions).toList := by
  rw [writeOutLine_eq]
  simp only [String.toList_append, String.toList_join, List.mem_append, List.mem_flatMap, List.mem_map]
  rintro ((hq | ⟨_, ⟨_, ⟨o, ho, rfl⟩, rfl⟩, hv⟩) | hq)
  · simp at hq
  · simp only [String.toList_append, List.mem_append] at hv
    rcases hv with hv | hv
    · exact h o ho hv
    · simp at hv
  · simp at hq

/-- Cutting off the quotes of the written line leaves its values, each followed by a
space. -/
theorem sliceQuotes_writeOutLine (outputOptions : List OutputOption) :
    sliceQuotes (writeOutLine value outputOptions) =
      some (String.join ((outputOptions.map fun o => value o.name).map (· ++ String.singleton ' '))) := by
  rw [writeOutLine_eq]
  generalize String.join _ = body
  have hl : ("'" ++ body ++ "'").toList = '\'' :: (body.toList ++ ['\'']) := by simp
  rw [sliceQuotes, hl, if_neg (by simp)]
  simp

/-- The line after the last newline of an output that ends with `line`, on a line of its
own. -/
theorem getLastD_split_append {pre line : String} (hpre : pre = "" ∨ pre.toList.getLast? = some '\n')
    (hline : '\n' ∉ line.toList) : (Strings.split (pre ++ line) '\n').getLastD "" = line := by
  rcases hpre with rfl | hpre
  · rw [String.empty_append, Strings.split_of_not_mem hline]
    rfl
  · obtain ⟨a, ha⟩ : ∃ a, pre = a ++ String.singleton '\n' := by
      obtain ⟨l, hl⟩ := List.getLast?_eq_some_iff.mp hpre
      exact ⟨String.ofList l, String.toList_injective (by simp [hl])⟩
    rw [ha, Strings.split_append_sep, Strings.split_of_not_mem hline]
    simp

/-- The option values `PerformTest` reads from the written line: each option's own. -/
theorem lookup_outputVals (outputOptions : List OutputOption) (rest : List String) {o : OutputOption}
    (ho : o ∈ outputOptions) :
    ((outputOptions.zip ((outputOptions.map fun o => value o.name) ++ rest)).foldl
      (fun m p => m.insert p.1.name p.2) (∅ : GoMap String String)).lookup o.name = some (value o.name) := by
  have hzip : ∀ l : List OutputOption, l.zip ((l.map fun o => value o.name) ++ rest) = l.map fun o => (o, value o.name) := by
    intro l
    induction l with
    | nil => simp
    | cons o l ih => simp [ih]
  rw [hzip, List.foldl_map]
  exact lookup_foldl_insert_of_mem OutputOption.name value outputOptions ∅ (List.mem_map_of_mem ho)

end WriteOut

/-! ## The gauges -/

section Gauges

variable {value : String → String} {outputVals : GoMap String String}

/-- The loop over the metric options, when the value of each metric option reads as a float:
a gauge for each, in order, without labels. -/
theorem foldlM_metricStep {f : String → GoFloat} :
    ∀ (l : List OutputOption) (gauges : List PrometheusGauge),
      (∀ o ∈ l, o.prometheusMetric = true → Strconv.parseFloat (outputVals.getD o.name "") = .ok (f o.name)) →
      l.foldlM (metricStep outputVals) gauges =
        .ok (gauges ++ (l.filter (·.prometheusMetric)).map fun o =>
          ⟨"curl_" ++ o.name, "Curl metric for " ++ o.name, f o.name, ∅⟩)
  | [], gauges, _ => by
    simp only [List.foldlM_nil, List.filter_nil, List.map_nil, List.append_nil]
    rfl
  | o :: l, gauges, h => by
    have hrest := fun gauges => foldlM_metricStep (f := f) l gauges fun o' ho' => h o' (List.mem_cons_of_mem o ho')
    rw [List.foldlM_cons]
    by_cases hm : o.prometheusMetric = true
    · have hstep : metricStep outputVals gauges o =
          .ok (gauges ++ [⟨"curl_" ++ o.name, "Curl metric for " ++ o.name, f o.name, ∅⟩]) := by
        simp [metricStep, hm, h o List.mem_cons_self hm]
      rw [hstep]
      simp [hrest, hm]
    · have hstep : metricStep outputVals gauges o = .ok gauges := by simp [metricStep, hm]
      rw [hstep]
      simp [hrest, hm]

/-- The labels one label option adds to a gauge's labels. -/
def labelMapStep (url : String) (outputVals : GoMap String String) (labels : GoMap String String)
    (o : OutputOption) : GoMap String String :=
  if o.prometheusLabel then (labels.insert o.name (outputVals.getD o.name "")).insert "url" url else labels

theorem labelStep_eq (url : String) (gauges : List PrometheusGauge) (o : OutputOption) :
    labelStep url outputVals gauges o = gauges.map fun g => { g with labels := labelMapStep url outputVals g.labels o } := by
  by_cases hl : o.prometheusLabel = true <;> simp [labelStep, labelMapStep, hl]

/-- The loop over the label options rebuilds the labels of every gauge by the same steps. -/
theorem foldl_labelStep (url : String) :
    ∀ (l : List OutputOption) (gauges : List PrometheusGauge),
      l.foldl (labelStep url outputVals) gauges =
        gauges.map fun g => { g with labels := l.foldl (labelMapStep url outputVals) g.labels }
  | [], gauges => by simp
  | o :: l, gauges => by
    rw [List.foldl_cons, labelStep_eq, foldl_labelStep url l, List.map_map]
    rfl

/-- A metric loop that returns has read the value of every metric option as a float. -/
theorem parseFloat_of_foldlM_metricStep :
    ∀ (l : List OutputOption) (gauges gauges' : List PrometheusGauge),
      l.foldlM (metricStep outputVals) gauges = .ok gauges' →
      ∀ o ∈ l, o.prometheusMetric = true → ∃ v, Strconv.parseFloat (outputVals.getD o.name "") = .ok v
  | [], _, _, _ => by simp
  | o :: l, gauges, gauges', h => by
    rw [List.foldlM_cons] at h
    cases hstep : metricStep outputVals gauges o with
    | error e =>
      rw [hstep, Prometheus.except_error_bind] at h
      cases h
    | ok gauges₁ =>
      rw [hstep, Prometheus.except_ok_bind] at h
      intro o' ho' hm
      rcases List.mem_cons.mp ho' with rfl | ho'
      · -- the step itself read the value
        unfold metricStep at hstep
        rw [hm, Bool.not_true, if_neg Bool.false_ne_true] at hstep
        split at hstep
        · cases hstep
        · exact ⟨_, ‹_›⟩
      · exact parseFloat_of_foldlM_metricStep l gauges₁ gauges' h o' ho' hm

/-- The names the label loop adds: those of the label options, and `url` once there is a
label option. -/
theorem mem_foldl_labelMapStep (url : String) {k : String} :
    ∀ (l : List OutputOption) (labels : GoMap String String),
      k ∈ l.foldl (labelMapStep url outputVals) labels ↔
        k ∈ labels ∨ ∃ o ∈ l, o.prometheusLabel = true ∧ (k = o.name ∨ k = "url")
  | [], labels => by simp
  | o :: l, labels => by
    rw [List.foldl_cons, mem_foldl_labelMapStep url l]
    by_cases hl : o.prometheusLabel = true
    · simp only [labelMapStep, hl, if_true, AList.mem_insert, List.mem_cons, exists_eq_or_imp, true_and]
      tauto
    · simp [labelMapStep, hl]


/-- `addPrometheusMetrics`, when every option's value is `value` and every metric value reads
as a float: the test passes, with the gauges `curlGauges` in the details. -/
theorem addPrometheusMetrics_of_values (marshal : List PrometheusGauge → String) (config : CurlTestConfig)
    (f : String → GoFloat) (testResult : TestResult)
    (hvals : ∀ o ∈ config.outputOptions, outputVals.getD o.name "" = value o.name)
    (hf : ∀ o ∈ config.outputOptions, o.prometheusMetric = true → Strconv.parseFloat (value o.name) = .ok (f o.name)) :
    addPrometheusMetrics marshal config outputVals testResult =
      (⟨1, 1, testResult.details.insert Prometheus.prometheusKey (marshal (curlGauges value config f))⟩, none) := by
  have hmetric := @foldlM_metricStep outputVals f config.outputOptions []
    fun o ho hm => (hvals o ho).symm ▸ hf o ho hm
  -- every gauge starts without labels, and the label loop gives each the labels of the run
  have hlabels : config.outputOptions.foldl (labelMapStep config.url outputVals) ∅ = curlLabels value config := by
    refine List.foldl_ext _ _ _ fun labels o ho => ?_
    simp only [labelMapStep, hvals o ho]
  rw [addPrometheusMetrics, hmetric]
  simp only [List.nil_append, foldl_labelStep, List.map_map, Function.comp_def, hlabels]
  rfl

/-- A run of `PerformTest` that passes carries the gauges of some values of the options: one
per metric option, in order, all with the labels that the label options give. -/
theorem performTest_passes {marshal : List PrometheusGauge → String} {config : CurlTestConfig}
    {out : Except String String} {res : TestResult} (h : performTest marshal config out = some (res, none)) :
    ∃ (f : String → GoFloat) (outputVals : GoMap String String),
      res = ⟨1, 1, (∅ : GoMap String String).insert Prometheus.prometheusKey
        (marshal ((config.outputOptions.filter (·.prometheusMetric)).map fun o =>
          ⟨"curl_" ++ o.name, "Curl metric for " ++ o.name, f o.name,
            config.outputOptions.foldl (labelMapStep config.url outputVals) ∅⟩))⟩ := by
  -- only the branch that reaches `addPrometheusMetrics` returns no error
  obtain ⟨outputVals, hadd⟩ :
      ∃ outputVals, addPrometheusMetrics marshal config outputVals ⟨0, 1, ∅⟩ = (res, none) := by
    unfold performTest at h
    split at h
    · simp at h
    · split at h
      · cases h
      · dsimp only at h
        split at h
        · simp at h
        · exact ⟨_, Option.some.inj h⟩
  unfold addPrometheusMetrics at hadd
  split at hadd
  · simp at hadd
  · rename_i gauges hmetric
    let f : String → GoFloat := fun name =>
      match Strconv.parseFloat (outputVals.getD name "") with
      | .ok v => v
      | .error _ => .nan
    have hf : ∀ o ∈ config.outputOptions, o.prometheusMetric = true →
        Strconv.parseFloat (outputVals.getD o.name "") = .ok (f o.name) := by
      intro o ho hm
      obtain ⟨v, hv⟩ := parseFloat_of_foldlM_metricStep _ _ _ hmetric o ho hm
      simp [f, hv]
    rw [foldlM_metricStep _ _ hf] at hmetric
    cases hmetric
    refine ⟨f, outputVals, ?_⟩
    rw [Prod.mk.injEq] at hadd
    rw [← hadd.1, foldl_labelStep, List.nil_append, List.map_map]
    rfl

end Gauges

/-! ## `PerformTest` on curl's output -/

theorem performTest_writeOut (value : String → String) (marshal : List PrometheusGauge → String)
    (config : CurlTestConfig) (f : String → GoFloat) {pre : String}
    (hpre : pre = "" ∨ pre.toList.getLast? = some '\n')
    (hvalue : ∀ o ∈ config.outputOptions, ' ' ∉ (value o.name).toList ∧ '\n' ∉ (value o.name).toList)
    (hf : ∀ o ∈ config.outputOptions, o.prometheusMetric = true → Strconv.parseFloat (value o.name) = .ok (f o.name)) :
    performTest marshal config (.ok (pre ++ writeOutLine value config.outputOptions)) =
      some (⟨1, 1, (∅ : GoMap String String).insert Prometheus.prometheusKey (marshal (curlGauges value config f))⟩,
        none) := by
  have hline := getLastD_split_append hpre (newline_not_mem_writeOutLine value fun o ho => (hvalue o ho).2)
  -- the values are split back at the spaces that follow them
  have hsplit : Strings.split (String.join ((config.outputOptions.map fun o => value o.name).map
      (· ++ String.singleton ' '))) ' ' = (config.outputOptions.map fun o => value o.name) ++ [""] := by
    refine Strings.split_join_append fun v hv => ?_
    obtain ⟨o, ho, rfl⟩ := List.mem_map.mp hv
    exact (hvalue o ho).1
  have hlen : ¬((config.outputOptions.map fun o => value o.name) ++ [""]).length < config.outputOptions.length := by
    simp
  simp only [performTest, hline, sliceQuotes_writeOutLine, hsplit, if_neg hlen]
  rw [addPrometheusMetrics_of_values marshal config f _ (fun o ho => ?_) hf]
  rw [GoMap.getD, lookup_outputVals value config.outputOptions [""] ho]
  rfl

/-- The `curl-amazon` test of the chart: three timings as gauges, the remote address as a
label. -/
def amazonConfig : CurlTestConfig :=
  ⟨"https://www.amazon.com", [⟨"time_namelookup", true, false⟩, ⟨"time_appconnect", true, false⟩,
    ⟨"time_total", true, false⟩, ⟨"remote_ip", false, true⟩]⟩

/-- What curl reports for the variables of `amazonConfig`. -/
def amazonValue (name : String) : String :=
  if name = "time_namelookup" then "0.004"
  else if name = "time_appconnect" then "0.1"
  else if name = "time_total" then "0.25"
  else if name = "remote_ip" then "54.239.28.85"
  else ""

/-- The floats of `amazonValue`. -/
def amazonFloat (name : String) : GoFloat :=
  match Strconv.parseFloat (amazonValue name) with
  | .ok v => v
  | .error _ => .nan

/-- The names of the gauges, for a YAML encoding. -/
def gaugeNames (gauges : List PrometheusGauge) : String := ",".intercalate (gauges.map (·.name))

theorem performTest_writeOut_amazon :
    ("* Connected to www.amazon.com\n" = "" ∨ "* Connected to www.amazon.com\n".toList.getLast? = some '\n') ∧
    (∀ o ∈ amazonConfig.outputOptions, ' ' ∉ (amazonValue o.name).toList ∧ '\n' ∉ (amazonValue o.name).toList) ∧
    (∀ o ∈ amazonConfig.outputOptions, o.prometheusMetric = true →
      Strconv.parseFloat (amazonValue o.name) = .ok (amazonFloat o.name)) ∧
    performTest gaugeNames amazonConfig
        (.ok ("* Connected to www.amazon.com\n" ++ writeOutLine amazonValue amazonConfig.outputOptions)) =
      some (⟨1, 1, (∅ : GoMap String String).insert Prometheus.prometheusKey
        (gaugeNames (curlGauges amazonValue amazonConfig amazonFloat))⟩, none) := by
  have hpre : "* Connected to www.amazon.com\n" = "" ∨ "* Connected to www.amazon.com\n".toList.getLast? = some '\n' :=
    .inr (by decide)
  have hvalue : ∀ o ∈ amazonConfig.outputOptions,
      ' ' ∉ (amazonValue o.name).toList ∧ '\n' ∉ (amazonValue o.name).toList := by
    decide
  have hf : ∀ o ∈ amazonConfig.outputOptions, o.prometheusMetric = true →
      Strconv.parseFloat (amazonValue o.name) = .ok (amazonFloat o.name) := by
    decide +kernel
  exact ⟨hpre, hvalue, hf, performTest_writeOut amazonValue gaugeNames amazonConfig amazonFloat hpre hvalue hf⟩

end SyntheticHeart.Curl
