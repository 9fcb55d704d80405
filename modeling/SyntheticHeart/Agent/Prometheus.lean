import SyntheticHeart.Storage.Redis
import SyntheticHeart.Go.Time

/-!
# The Prometheus exporter (`PrometheusExporter`)

For every `TestRun` it receives, the exporter sets three default gauges (marks, max marks,
runtime) and the custom gauges a plugin puts under `Details["_prometheus"]`. The labels of
every gauge are the agent's configured labels, whose values are templates rendered for the
test (`renderLabels`), and the test's name and namespace. `setOrCreateGauge` declares a
gauge with the label names of the first call for it, and then looks up the gauge's series
for the labels of the call with `GetMetricWith`.

The exporter state is the map `p.gauges`, each gauge with the label names it was declared
with. The Prometheus client is not part of the repository: its two calls are a parameter
`GaugeClient`, and `GaugeClient.Lawful` names what the exporter relies on, that
`NewGaugeVec` panics on a label name that is invalid or begins with `__`, and that
`GetMetricWith` fails, returning a nil gauge on which `Set` panics, exactly when the labels of
the call are not the declared ones. Gauge values, help texts and the push mode are left out.
`text/template` and YAML decoding are abstract.

* `renderLabels_of_invalid`: when every label template parses and some label name is
  invalid, the labels `renderLabels` returns hold an invalid name, in every iteration order
  of the label map, although it reports an error that its callers ignore.
* `export_panics_on_invalid_label`: with a lawful client, such a configuration makes the
  first export panic in `NewGaugeVec`, and a template that does not parse makes the labels
  depend on the iteration order, so that two exports of one configuration declare and then
  look up different label names.
* `cleanMetricName_replaces_digits`: a cleaned custom gauge name is a valid metric name, but
  `[^a-zA-Z_]` also matches digits, so a name is left alone only when it has none, and two
  custom gauges whose names differ in a digit are one gauge.
-/

namespace SyntheticHeart.Prometheus

open GoMap

/-- `MarksGauge`. -/
def marksGauge : String := "syntheticheart_marks_total"

/-- `MaxMarksGauge`. -/
def maxMarksGauge : String := "syntheticheart_max_marks_total"

/-- `TimeGauge`. -/
def timeGauge : String := "syntheticheart_runtime_ns"

/-- `CustomGauge`, the prefix of a custom gauge's name. -/
def customGaugePrefix : String := "syntheticheart_"

/-- `PrometheusLabelRegex`. -/
def prometheusLabelRegex : String := "[a-zA-Z_][a-zA-Z0-9_]*"

/-- `common.PrometheusKey`. -/
def prometheusKey : String := "_prometheus"

/-! ## Names -/

/-- A character that may start a label name: `[a-zA-Z_]`. -/
def isNameStart (c : Char) : Bool := c.isAlpha || c == '_'

/-- A character of a label name: `[a-zA-Z0-9_]`. -/
def isNameChar (c : Char) : Bool := c.isAlphanum || c == '_'

/-- `validMetricLabelRegex.MatchString`, for `^([a-zA-Z_][a-zA-Z0-9_]*)$`. -/
def isValidLabelName (k : String) : Bool :=
  match k.toList with
  | c :: cs => isNameStart c && cs.all isNameChar
  | [] => false

/-- `invalidMetricNameRegex.ReplaceAllString(_, "_")` for `[^a-zA-Z_][^a-zA-Z0-9_]*`: each
match, a character that cannot start a name and the characters that cannot be in a name after
it, becomes one `_`. `inMatch` says whether the scan is inside a match. -/
def cleanChars : Bool → List Char → List Char
  | _, [] => []
  | inMatch, c :: cs =>
    if inMatch && !isNameChar c then cleanChars true cs
    else if isNameStart c then c :: cleanChars false cs
    else '_' :: cleanChars true cs

/-- `cleanMetricName`. -/
def cleanMetricName (dirty : String) : String := String.ofList (cleanChars false dirty.toList)

example : cleanMetricName "syntheticheart_curl_time-total" = "syntheticheart_curl_time_total" := by
  decide

example : cleanMetricName "syntheticheart_p99" = "syntheticheart_p__" := by decide

/-- `model.IsValidMetricName` of `prometheus/common` v0.32, which the client checks of every
gauge name: `^[a-zA-Z_:][a-zA-Z0-9_:]*$`. -/
def isValidMetricName (n : String) : Bool :=
  match n.toList with
  | c :: cs => (isNameStart c || c == ':') && cs.all fun c => isNameChar c || c == ':'
  | [] => false

theorem isNameChar_of_isNameStart {c : Char} (h : isNameStart c = true) : isNameChar c = true := by
  simp only [isNameStart, isNameChar, Char.isAlphanum, Bool.or_eq_true] at h ⊢
  tauto

theorem isNameStart_of_isDigit {d : Char} (hd : d.isDigit = true) : isNameStart d = false := by
  have halpha : d.isAlpha = false := by
    revert hd
    grind [Char.isDigit, Char.isAlpha, Char.isUpper, Char.isLower]
  have hne : d ≠ '_' := by
    rintro rfl
    cases hd
  simp [isNameStart, halpha, hne]

theorem isNameChar_of_isDigit {d : Char} (hd : d.isDigit = true) : isNameChar d = true := by
  simp [isNameChar, Char.isAlphanum, hd]

/-- The characters that may start a name are those of a name that are not digits. -/
theorem isNameStart_iff {c : Char} : isNameStart c = true ↔ isNameChar c = true ∧ c.isDigit = false := by
  constructor
  · intro h
    refine ⟨isNameChar_of_isNameStart h, ?_⟩
    cases hd : c.isDigit
    · rfl
    · rw [isNameStart_of_isDigit hd] at h
      cases h
  · rintro ⟨h, hd⟩
    simp only [isNameChar, Char.isAlphanum, hd, Bool.or_false] at h
    exact h

theorem isValidLabelName_iff {n : String} :
    isValidLabelName n = true ↔
      ∃ c cs, n.toList = c :: cs ∧ isNameStart c = true ∧ ∀ x ∈ cs, isNameChar x = true := by
  unfold isValidLabelName
  cases n.toList with
  | nil => simp
  | cons c cs => simp [List.all_eq_true]

theorem isValidMetricName_of_isValidLabelName {n : String} (h : isValidLabelName n = true) :
    isValidMetricName n = true := by
  obtain ⟨c, cs, hn, hc, hcs⟩ := isValidLabelName_iff.mp h
  rw [isValidMetricName, hn]
  simp only [Bool.and_eq_true, Bool.or_eq_true, List.all_eq_true]
  exact ⟨.inl hc, fun x hx => .inl (hcs x hx)⟩

theorem isNameChar_of_isValidLabelName {n : String} (h : isValidLabelName n = true) :
    ∀ c ∈ n.toList, isNameChar c = true := by
  obtain ⟨c, cs, hn, hc, hcs⟩ := isValidLabelName_iff.mp h
  intro x hx
  rw [hn] at hx
  rcases List.mem_cons.mp hx with rfl | hx
  · exact isNameChar_of_isNameStart hc
  · exact hcs x hx

/-! ### The scan of `cleanChars` -/

/-- Every character the scan writes may start a name: a digit is never kept. -/
theorem isNameStart_of_mem_cleanChars {c : Char} :
    ∀ {b : Bool} {l : List Char}, c ∈ cleanChars b l → isNameStart c = true
  | _, [], h => by simp [cleanChars] at h
  | b, x :: xs, h => by
    rw [cleanChars] at h
    split_ifs at h with hskip hstart
    · exact isNameStart_of_mem_cleanChars h
    · rcases List.mem_cons.mp h with rfl | h
      · exact hstart
      · exact isNameStart_of_mem_cleanChars h
    · rcases List.mem_cons.mp h with rfl | h
      · rfl
      · exact isNameStart_of_mem_cleanChars h

/-- Outside a match, the first character always writes something. -/
theorem cleanChars_ne_nil {l : List Char} (h : l ≠ []) : cleanChars false l ≠ [] := by
  obtain ⟨x, xs, rfl⟩ := List.exists_cons_of_ne_nil h
  rw [cleanChars, if_neg (by simp)]
  split_ifs <;> simp

theorem cleanChars_of_forall_isNameStart :
    ∀ {l : List Char}, (∀ c ∈ l, isNameStart c = true) → cleanChars false l = l
  | [], _ => rfl
  | x :: xs, h => by
    rw [cleanChars, if_neg (by simp), if_pos (h x List.mem_cons_self),
      cleanChars_of_forall_isNameStart fun c hc => h c (List.mem_cons_of_mem _ hc)]

/-- A digit starts a match of its own, whether or not the scan is in a match. -/
theorem cleanChars_digit {d : Char} (hd : d.isDigit = true) (b : Bool) (r : List Char) :
    cleanChars b (d :: r) = '_' :: cleanChars true r := by
  rw [cleanChars, if_neg (by simp [isNameChar_of_isDigit hd]),
    if_neg (by simp [isNameStart_of_isDigit hd])]

/-- Which digit stands at a position does not change the cleaned name. -/
theorem cleanChars_digit_congr {d d' : Char} (hd : d.isDigit = true) (hd' : d'.isDigit = true)
    (r : List Char) : ∀ (l : List Char) (b : Bool), cleanChars b (l ++ d :: r) = cleanChars b (l ++ d' :: r)
  | [], b => by rw [List.nil_append, List.nil_append, cleanChars_digit hd, cleanChars_digit hd']
  | x :: xs, b => by
    simp only [List.cons_append, cleanChars, cleanChars_digit_congr hd hd' r xs]

theorem isValidLabelName_cleanMetricName {s : String} (hs : s ≠ "") :
    isValidLabelName (cleanMetricName s) = true := by
  have hl : s.toList ≠ [] := fun h => hs (String.toList_eq_nil_iff.mp h)
  obtain ⟨c, cs, hcs⟩ := List.exists_cons_of_ne_nil (cleanChars_ne_nil hl)
  have hstart : ∀ x ∈ c :: cs, isNameStart x = true := fun x hx =>
    isNameStart_of_mem_cleanChars (hcs ▸ hx)
  refine isValidLabelName_iff.mpr ⟨c, cs, ?_, hstart c List.mem_cons_self,
    fun x hx => isNameChar_of_isNameStart (hstart x (List.mem_cons_of_mem _ hx))⟩
  rw [cleanMetricName, String.toList_ofList, hcs]

/-- The names `cleanMetricName` leaves alone are those without a digit or any other
character that cannot start a name. -/
theorem cleanMetricName_eq_self_iff (s : String) :
    cleanMetricName s = s ↔ ∀ c ∈ s.toList, isNameStart c = true := by
  constructor
  · intro h c hc
    have hl : cleanChars false s.toList = s.toList := by
      rw [← String.toList_ofList (l := cleanChars false s.toList)]
      exact congrArg String.toList h
    exact isNameStart_of_mem_cleanChars (hl ▸ hc)
  · intro h
    rw [cleanMetricName, cleanChars_of_forall_isNameStart h, String.ofList_toList]

theorem cleanMetricName_digit_congr {d d' : Char} (hd : d.isDigit = true) (hd' : d'.isDigit = true)
    (l r : List Char) :
    cleanMetricName (String.ofList (l ++ d :: r)) = cleanMetricName (String.ofList (l ++ d' :: r)) := by
  rw [cleanMetricName, cleanMetricName, String.toList_ofList, String.toList_ofList,
    cleanChars_digit_congr hd hd' r l false]

example : cleanMetricName "syntheticheart_latency_p99" = cleanMetricName "syntheticheart_latency_p50" := by
  decide

/-! ## Gauges -/

/-- `p.gauges`: the gauges made so far, with the label names each was declared with. -/
abbrev Gauges := GoMap String (List String)

/-- Why the exporter's goroutine panics. -/
inductive Panic
  /-- `promauto.NewGaugeVec` cannot register the gauge with these label names, and its
  `MustRegister` panics. -/
  | newGaugeVec (gauge : String) (labelKeys : List String)
  /-- `g.Set` on the nil gauge `GetMetricWith` returned with its error. -/
  | nilGauge (gauge : String)
  /-- `gauge.Labels[k] = v` on a custom gauge whose YAML has no labels. -/
  | nilMap (gauge : String)
  deriving DecidableEq, Repr

/-- The two calls of the Prometheus client (`client_golang`, not part of this repository)
that `setOrCreateGauge` makes. `registers name labelKeys` is whether `promauto.NewGaugeVec`
registers a gauge of this name with these label names; `findsSeries declared labels` is
whether `GetMetricWith(labels)`, on a gauge declared with the names `declared`, returns a
gauge rather than nil and an error. -/
structure GaugeClient where
  registers : String → List String → Bool
  findsSeries : List String → GoMap String String → Bool

/-- A label name that the client keeps for itself: one that begins with `__`. -/
def isReservedLabelName (k : String) : Bool :=
  match k.toList with
  | '_' :: '_' :: _ => true
  | _ => false

/-- What the exporter assumes of the client, which is what `client_golang` v1.12 does for the
calls the exporter makes, each name registered once. -/
structure GaugeClient.Lawful (client : GaugeClient) : Prop where
  /-- A label name that is invalid, or reserved, makes the registration panic. -/
  panics_of_invalid : ∀ name labelKeys k, k ∈ labelKeys →
    isValidLabelName k = false ∨ isReservedLabelName k = true → client.registers name labelKeys = false
  /-- A gauge with a valid name and distinct, valid, unreserved label names is registered. -/
  registers_of_valid : ∀ name labelKeys, isValidMetricName name = true → labelKeys.Nodup →
    (∀ k ∈ labelKeys, isValidLabelName k = true ∧ isReservedLabelName k = false) →
    client.registers name labelKeys = true
  /-- `GetMetricWith` fails exactly when the call has not as many labels as the gauge has
  names, or lacks one of them: when the label names are not the declared ones. -/
  findsSeries_iff : ∀ declared (labels : GoMap String String),
    client.findsSeries declared labels = true ↔
      declared.length = labels.keys.length ∧ ∀ k ∈ declared, k ∈ labels

/-- `setOrCreateGauge`: a gauge not made yet is registered with the label names of this
call, in the order the label map gives them; then the series of the call's labels is looked
up and set. -/
def setOrCreateGauge (client : GaugeClient) (gauges : Gauges) (name : String)
    (labels : GoMap String String) : Except Panic Gauges := do
  let gauges ←
    match gauges.lookup name with
    | some _ => pure gauges
    | none =>
      if client.registers name labels.keys then pure (gauges.insert name labels.keys)
      else throw (.newGaugeVec name labels.keys)
  if client.findsSeries ((gauges.lookup name).getD []) labels then pure gauges
  else throw (.nilGauge name)

/-! ## Labels -/

section Render

variable {Tmpl : Type} (parseTemplate : String → Except String Tmpl)
  (execute : Tmpl → SynTestConfig → String)

/-- The loop of `renderLabels` over the entries of the label map, in the order it visits
them: a label is rendered before its name is checked, and the loop returns what it has
rendered with the first error. -/
def renderEntries (testConfig : SynTestConfig) :
    List (Σ _ : String, String) → GoMap String String → GoMap String String × Option String
  | [], rendered => (rendered, none)
  | ⟨k, v⟩ :: rest, rendered =>
    match parseTemplate v with
    | .error e => (rendered, some ("error parsing label template: " ++ e))
    | .ok tmpl =>
      let rendered := rendered.insert k (execute tmpl testConfig)
      if isValidLabelName k then renderEntries testConfig rest rendered
      else
        (rendered,
          some ("label " ++ k ++ " does not match the prometheus regex " ++ prometheusLabelRegex))

/-- `renderLabels`: the configured labels, rendered for the test; the template sees the
agent's run-time info and the test config. -/
def renderLabels (labels : GoMap String String) (testConfig : SynTestConfig) :
    GoMap String String × Option String :=
  renderEntries parseTemplate execute testConfig labels.entries ∅

/-- The labels of every gauge of a test run: the rendered labels, whatever error
`renderLabels` reported, and the test's name and namespace. -/
def gaugeLabels (labels : GoMap String String) (testConfig : SynTestConfig) :
    GoMap String String :=
  (((renderLabels parseTemplate execute labels testConfig).1.insert "test_name"
    testConfig.name).insert "test_namespace" testConfig.«namespace»)

end Render

/-! ## Exporting a test run -/

/-- A custom gauge from the YAML under `Details["_prometheus"]`; `labels` is `none` when the
YAML gives none (a nil map). -/
structure PrometheusGauge where
  name : String
  labels : Option (GoMap String String)

/-- The errors `ExportTestRunMetrics` returns. -/
inductive ExportError
  | timeParse (value : String)
  | yaml (err : String)
  | wrap (msg : String) (err : ExportError)
  deriving DecidableEq, Repr

section Export

variable (client : GaugeClient) {Tmpl : Type} (parseTemplate : String → Except String Tmpl)
  (execute : Tmpl → SynTestConfig → String)
  (decodeMetrics : String → Except String (List PrometheusGauge))

/-- `addDefaultMetrics`: the marks and max-marks gauges, and the runtime gauge once both
times parse. -/
def addDefaultMetrics (labels : GoMap String String) (gauges : Gauges) (testRun : TestRun) :
    Except Panic (Gauges × Option ExportError) := do
  let labels := gaugeLabels parseTemplate execute labels testRun.testConfig
  let gauges ← setOrCreateGauge client gauges marksGauge labels
  let gauges ← setOrCreateGauge client gauges maxMarksGauge labels
  match GoTime.parseRFC3339Nano testRun.startTime, GoTime.parseRFC3339Nano testRun.endTime with
  | some _, some _ => do
    let gauges ← setOrCreateGauge client gauges timeGauge labels
    pure (gauges, none)
  | none, _ => pure (gauges, some (.timeParse testRun.startTime))
  | some _, none => pure (gauges, some (.timeParse testRun.endTime))

/-- The body of the loop of `addCustomMetrics` over the custom gauges: the test's labels are
copied into the gauge's own labels. -/
def addCustomGauge (labels : GoMap String String) (gauges : Gauges) (gauge : PrometheusGauge) :
    Except Panic Gauges :=
  let gaugeName := cleanMetricName (customGaugePrefix ++ gauge.name)
  match gauge.labels with
  | some own => setOrCreateGauge client gauges gaugeName (labels.entries.foldl (fun m e => m.insert e.1 e.2) own)
  | none =>
    if labels.entries = [] then setOrCreateGauge client gauges gaugeName ∅
    else throw (.nilMap gaugeName)

/-- `addCustomMetrics`. -/
def addCustomMetrics (labels : GoMap String String) (gauges : Gauges) (promMetricsStr : String)
    (res : TestRun) : Except Panic (Gauges × Option ExportError) :=
  match decodeMetrics promMetricsStr with
  | .error e => pure (gauges, some (.yaml e))
  | .ok promGauges => do
    let labels := gaugeLabels parseTemplate execute labels res.testConfig
    let gauges ← promGauges.foldlM (addCustomGauge client labels) gauges
    pure (gauges, none)

/-- `ExportTestRunMetrics`, with `labels` the configured label map as this export iterates
it. -/
def exportTestRunMetrics (labels : GoMap String String) (gauges : Gauges) (res : TestRun) :
    Except Panic (Gauges × Option ExportError) := do
  let (gauges, err) ← addDefaultMetrics client parseTemplate execute labels gauges res
  match err with
  | some e => pure (gauges, some (.wrap "error adding default metrics" e))
  | none =>
    match res.testResult.details.lookup prometheusKey with
    | some promResults => do
      let (gauges, err) ← addCustomMetrics client parseTemplate execute decodeMetrics labels gauges
        promResults res
      pure (gauges, err.map (.wrap "error adding custom metrics"))
    | none => pure (gauges, none)

end Export

/-! ## Invalid label names reach `NewGaugeVec` -/

section Invalid

variable {Tmpl : Type} {parseTemplate : String → Except String Tmpl}
  {execute : Tmpl → SynTestConfig → String}

/-- When every template parses, the loop stops at the first invalid name it visits, after
adding it to the labels it returns. -/
theorem renderEntries_of_invalid (testConfig : SynTestConfig) :
    ∀ (es : List (Σ _ : String, String)) (rendered : GoMap String String),
      (∀ e ∈ es, ∃ t, parseTemplate e.2 = .ok t) → (∃ e ∈ es, isValidLabelName e.1 = false) →
      ∃ k, isValidLabelName k = false ∧
        k ∈ (renderEntries parseTemplate execute testConfig es rendered).1
  | [], _, _, hinv => by simp at hinv
  | ⟨k, v⟩ :: rest, rendered, hparse, hinv => by
    obtain ⟨t, ht⟩ := hparse ⟨k, v⟩ List.mem_cons_self
    by_cases hk : isValidLabelName k = true
    · simp only [renderEntries, ht, if_pos hk]
      refine renderEntries_of_invalid testConfig rest _
        (fun e he => hparse e (List.mem_cons_of_mem _ he)) ?_
      obtain ⟨e, he, heinv⟩ := hinv
      rcases List.mem_cons.mp he with rfl | he
      · simp [hk] at heinv
      · exact ⟨e, he, heinv⟩
    · simp only [renderEntries, ht, if_neg hk]
      exact ⟨k, by simpa using hk, (AList.mem_insert _).mpr (.inl rfl)⟩

theorem renderLabels_of_invalid {labels : GoMap String String} (testConfig : SynTestConfig)
    (hparse : ∀ k v, labels.lookup k = some v → ∃ t, parseTemplate v = .ok t)
    (hinv : ∃ k ∈ labels, isValidLabelName k = false) :
    ∃ k, isValidLabelName k = false ∧ k ∈ (renderLabels parseTemplate execute labels testConfig).1 := by
  refine renderEntries_of_invalid testConfig labels.entries ∅
    (fun e he => hparse e.1 e.2 (AList.mem_lookup_iff.mpr he)) ?_
  obtain ⟨k, hk, hkinv⟩ := hinv
  obtain ⟨v, hv⟩ := AList.lookup_isSome.mpr hk |> Option.isSome_iff_exists.mp
  exact ⟨⟨k, v⟩, AList.mem_lookup_iff.mp hv, hkinv⟩

theorem mem_gaugeLabels {labels : GoMap String String} {testConfig : SynTestConfig} {k : String}
    (hk : k ∈ (renderLabels parseTemplate execute labels testConfig).1) :
    k ∈ gaugeLabels parseTemplate execute labels testConfig := by
  unfold gaugeLabels
  exact (AList.mem_insert _).mpr (.inr ((AList.mem_insert _).mpr (.inr hk)))

end Invalid

/-! ## The client's answers -/

section Client

variable {client : GaugeClient}

@[simp] theorem except_ok_bind {ε α β : Type} (x : α) (f : α → Except ε β) :
    (Except.ok x >>= f) = f x := rfl

@[simp] theorem except_error_bind {ε α β : Type} (e : ε) (f : α → Except ε β) :
    (Except.error e >>= f) = .error e := rfl

/-- A call for a gauge not made yet registers it with the call's label names, and then looks
up the call's series on it. -/
theorem setOrCreateGauge_of_none {gauges : Gauges} {name : String} (labels : GoMap String String)
    (hname : gauges.lookup name = none) :
    setOrCreateGauge client gauges name labels =
      if client.registers name labels.keys then
        if client.findsSeries labels.keys labels then .ok (gauges.insert name labels.keys)
        else .error (.nilGauge name)
      else .error (.newGaugeVec name labels.keys) := by
  cases hreg : client.registers name labels.keys
  · simp only [setOrCreateGauge, hname, hreg, Bool.false_eq_true, if_false]
    rfl
  · simp only [setOrCreateGauge, hname, hreg, if_true]
    change (if client.findsSeries (((gauges.insert name labels.keys).lookup name).getD []) labels
      then Except.ok _ else Except.error _) = _
    rw [AList.lookup_insert, Option.getD_some]

/-- A call for a declared gauge sets it when its labels are the declared ones, and panics
in `Set` otherwise. -/
theorem setOrCreateGauge_of_declared {gauges : Gauges} {name : String} {declared : List String}
    (labels : GoMap String String) (hname : gauges.lookup name = some declared) :
    setOrCreateGauge client gauges name labels =
      if client.findsSeries declared labels then .ok gauges else .error (.nilGauge name) := by
  simp only [setOrCreateGauge, hname, pure_bind, Option.getD_some]
  rfl

/-- A new gauge whose labels hold an invalid name panics in `NewGaugeVec`. -/
theorem setOrCreateGauge_of_invalid (hclient : client.Lawful) {gauges : Gauges} {name k : String}
    {labels : GoMap String String} (hname : gauges.lookup name = none) (hk : k ∈ labels)
    (hkinv : isValidLabelName k = false) :
    setOrCreateGauge client gauges name labels = .error (.newGaugeVec name labels.keys) := by
  have hreg : client.registers name labels.keys = false :=
    hclient.panics_of_invalid name labels.keys k (AList.mem_keys.mpr hk) (.inl hkinv)
  rw [setOrCreateGauge_of_none labels hname, hreg]
  rfl

/-- The series of a call is found on a gauge declared with the call's own label names. -/
theorem findsSeries_keys (hclient : client.Lawful) (labels : GoMap String String) :
    client.findsSeries labels.keys labels = true :=
  (hclient.findsSeries_iff _ _).mpr ⟨rfl, fun _ hk => AList.mem_keys.mp hk⟩

/-- A gauge made by a call whose name is a valid metric name and whose label names are valid
and not reserved is declared with them. -/
theorem setOrCreateGauge_new (hclient : client.Lawful) {gauges : Gauges} {name : String}
    {labels : GoMap String String} (hname : gauges.lookup name = none)
    (hmetric : isValidMetricName name = true)
    (hvalid : ∀ k ∈ labels, isValidLabelName k = true ∧ isReservedLabelName k = false) :
    setOrCreateGauge client gauges name labels = .ok (gauges.insert name labels.keys) := by
  have hreg : client.registers name labels.keys = true :=
    hclient.registers_of_valid name labels.keys hmetric labels.keys_nodup
      fun k hk => hvalid k (AList.mem_keys.mpr hk)
  rw [setOrCreateGauge_of_none labels hname, hreg, findsSeries_keys hclient]
  rfl

end Client

/-! ## Gauges declared and looked up with different labels -/

section Order

variable {client : GaugeClient} {Tmpl : Type} {parseTemplate : String → Except String Tmpl}
  {execute : Tmpl → SynTestConfig → String}
  {decodeMetrics : String → Except String (List PrometheusGauge)}

/-- The first export whose gauge labels are all valid and unreserved declares the default
gauges with them, whether or not the times parse. -/
theorem addDefaultMetrics_fresh (hclient : client.Lawful) {labels : GoMap String String}
    {testRun : TestRun}
    (hvalid : ∀ k ∈ gaugeLabels parseTemplate execute labels testRun.testConfig,
      isValidLabelName k = true ∧ isReservedLabelName k = false) :
    ∃ gauges err, addDefaultMetrics client parseTemplate execute labels ∅ testRun =
        .ok (gauges, err) ∧
      gauges.lookup marksGauge =
        some (gaugeLabels parseTemplate execute labels testRun.testConfig).keys := by
  set L := gaugeLabels parseTemplate execute labels testRun.testConfig with hL
  have h₁ : setOrCreateGauge client ∅ marksGauge L =
      .ok ((∅ : Gauges).insert marksGauge L.keys) :=
    setOrCreateGauge_new hclient rfl (by decide) hvalid
  have h₂ : setOrCreateGauge client ((∅ : Gauges).insert marksGauge L.keys) maxMarksGauge L =
      .ok (((∅ : Gauges).insert marksGauge L.keys).insert maxMarksGauge L.keys) :=
    setOrCreateGauge_new hclient (by rw [AList.lookup_insert_ne (by decide)]; rfl) (by decide)
      hvalid
  have h₃ : setOrCreateGauge client
      (((∅ : Gauges).insert marksGauge L.keys).insert maxMarksGauge L.keys) timeGauge L =
      .ok ((((∅ : Gauges).insert marksGauge L.keys).insert maxMarksGauge L.keys).insert
        timeGauge L.keys) :=
    setOrCreateGauge_new hclient
      (by rw [AList.lookup_insert_ne (by decide), AList.lookup_insert_ne (by decide)]; rfl)
      (by decide) hvalid
  have hm : ((∅ : Gauges).insert marksGauge L.keys).lookup marksGauge = some L.keys :=
    AList.lookup_insert _
  have hm₂ : (((∅ : Gauges).insert marksGauge L.keys).insert maxMarksGauge L.keys).lookup
      marksGauge = some L.keys := by
    rw [AList.lookup_insert_ne (by decide), hm]
  simp only [addDefaultMetrics, ← hL, h₁, h₂, except_ok_bind]
  -- a time that does not parse stops the export before the runtime gauge
  cases hs : GoTime.parseRFC3339Nano testRun.startTime <;>
    cases he : GoTime.parseRFC3339Nano testRun.endTime
  · exact ⟨_, _, rfl, hm₂⟩
  · exact ⟨_, _, rfl, hm₂⟩
  · exact ⟨_, _, rfl, hm₂⟩
  · refine ⟨(((∅ : Gauges).insert marksGauge L.keys).insert maxMarksGauge L.keys).insert
      timeGauge L.keys, none, ?_, by rw [AList.lookup_insert_ne (by decide), hm₂]⟩
    change (setOrCreateGauge client _ timeGauge L >>= fun g => pure (g, none)) = _
    rw [h₃]
    rfl

/-- The first export of a test run whose gauge labels are all valid and unreserved succeeds,
when the run has no custom gauges, and declares the marks gauge with those labels. -/
theorem exportTestRunMetrics_fresh (hclient : client.Lawful) {labels : GoMap String String}
    {res : TestRun}
    (hvalid : ∀ k ∈ gaugeLabels parseTemplate execute labels res.testConfig,
      isValidLabelName k = true ∧ isReservedLabelName k = false)
    (hres : res.testResult.details.lookup prometheusKey = none) :
    ∃ gauges err, exportTestRunMetrics client parseTemplate execute decodeMetrics labels ∅ res =
        .ok (gauges, err) ∧
      gauges.lookup marksGauge = some (gaugeLabels parseTemplate execute labels res.testConfig).keys := by
  obtain ⟨g, err, hadd, hg⟩ := addDefaultMetrics_fresh hclient hvalid
  cases err with
  | some e =>
    refine ⟨g, some (.wrap "error adding default metrics" e), ?_, hg⟩
    simp only [exportTestRunMetrics, hadd, except_ok_bind]
    rfl
  | none =>
    refine ⟨g, none, ?_, hg⟩
    simp only [exportTestRunMetrics, hadd, except_ok_bind, hres]
    rfl

/-- An export whose labels are not those the marks gauge was declared with panics. -/
theorem exportTestRunMetrics_of_mismatch {labels : GoMap String String} {gauges : Gauges}
    {res : TestRun} {declared : List String} (hm : gauges.lookup marksGauge = some declared)
    (hne : client.findsSeries declared (gaugeLabels parseTemplate execute labels res.testConfig) =
      false) :
    exportTestRunMetrics client parseTemplate execute decodeMetrics labels gauges res =
      .error (.nilGauge marksGauge) := by
  simp only [exportTestRunMetrics, addDefaultMetrics, setOrCreateGauge_of_declared _ hm, hne,
    Bool.false_eq_true, if_false, except_error_bind]

variable {a b va vb e : String} {t : Tmpl}

/-- The label map `{a: va, b: vb}` visited from `a`: `a` is rendered, and then the template of
`b` does not parse. -/
theorem renderLabels_parsed_first (hab : a ≠ b) (ha : isValidLabelName a = true)
    (hva : parseTemplate va = .ok t) (hvb : parseTemplate vb = .error e)
    (testConfig : SynTestConfig) :
    (renderLabels parseTemplate execute (((∅ : GoMap String String).insert b vb).insert a va)
      testConfig).1 = (∅ : GoMap String String).insert a (execute t testConfig) := by
  simp [renderLabels, renderEntries, AList.entries_insert, hab, hva, hvb, ha]

/-- Visited from `b`, nothing is rendered. -/
theorem renderLabels_unparsed_first (hab : a ≠ b) (hvb : parseTemplate vb = .error e)
    (testConfig : SynTestConfig) :
    (renderLabels parseTemplate execute (((∅ : GoMap String String).insert a va).insert b vb)
      testConfig).1 = ∅ := by
  simp [renderLabels, renderEntries, AList.entries_insert, Ne.symm hab, hvb]

theorem gaugeLabels_parsed_first_valid (hab : a ≠ b) (ha : isValidLabelName a = true)
    (hra : isReservedLabelName a = false)
    (hva : parseTemplate va = .ok t) (hvb : parseTemplate vb = .error e)
    (testConfig : SynTestConfig) :
    ∀ k ∈ gaugeLabels parseTemplate execute (((∅ : GoMap String String).insert b vb).insert a va)
      testConfig, isValidLabelName k = true ∧ isReservedLabelName k = false := by
  intro k hk
  rw [gaugeLabels, renderLabels_parsed_first hab ha hva hvb] at hk
  simp only [AList.mem_insert] at hk
  rcases hk with rfl | rfl | rfl | hk
  · decide
  · decide
  · exact ⟨ha, hra⟩
  · simp at hk

/-- The two orders give the labels `test_namespace`, `test_name`, `a` and `test_namespace`,
`test_name`: three names against two, so the series of the second is not found. -/
theorem findsSeries_two_orders (hclient : client.Lawful) (hab : a ≠ b)
    (ha : isValidLabelName a = true) (hna : a ≠ "test_name") (hns : a ≠ "test_namespace")
    (hva : parseTemplate va = .ok t) (hvb : parseTemplate vb = .error e)
    (testConfig testConfig' : SynTestConfig) :
    client.findsSeries (gaugeLabels parseTemplate execute
        (((∅ : GoMap String String).insert b vb).insert a va) testConfig).keys
      (gaugeLabels parseTemplate execute (((∅ : GoMap String String).insert a va).insert b vb)
        testConfig') = false := by
  rw [gaugeLabels, gaugeLabels, renderLabels_parsed_first hab ha hva hvb,
    renderLabels_unparsed_first hab hvb]
  rw [Bool.eq_false_iff]
  intro hfound
  have hlen := ((hclient.findsSeries_iff _ _).mp hfound).1
  simp [AList.keys, AList.entries_insert, Ne.symm hna, Ne.symm hns] at hlen

end Order

theorem export_panics_on_invalid_label (client : GaugeClient) (hclient : client.Lawful)
    {Tmpl : Type} (parseTemplate : String → Except String Tmpl)
    (execute : Tmpl → SynTestConfig → String)
    (decodeMetrics : String → Except String (List PrometheusGauge)) :
    (∀ (labels : GoMap String String) (res : TestRun),
      (∀ k v, labels.lookup k = some v → ∃ t, parseTemplate v = .ok t) →
      (∃ k ∈ labels, isValidLabelName k = false) →
      ∃ labelKeys, (∃ k ∈ labelKeys, isValidLabelName k = false) ∧
        exportTestRunMetrics client parseTemplate execute decodeMetrics labels ∅ res =
          .error (.newGaugeVec marksGauge labelKeys)) ∧
    ∀ (a b va vb e : String) (t : Tmpl) (res res' : TestRun), a ≠ b →
      isValidLabelName a = true → isReservedLabelName a = false →
      a ≠ "test_name" → a ≠ "test_namespace" →
      parseTemplate va = .ok t → parseTemplate vb = .error e →
      res.testResult.details.lookup prometheusKey = none →
      (∀ k, (((∅ : GoMap String String).insert b vb).insert a va).lookup k =
        (((∅ : GoMap String String).insert a va).insert b vb).lookup k) ∧
      ∃ gauges err,
        exportTestRunMetrics client parseTemplate execute decodeMetrics
          (((∅ : GoMap String String).insert b vb).insert a va) ∅ res = .ok (gauges, err) ∧
        exportTestRunMetrics client parseTemplate execute decodeMetrics
          (((∅ : GoMap String String).insert a va).insert b vb) gauges res' =
          .error (.nilGauge marksGauge) := by
  constructor
  · -- the invalid name reaches the marks gauge, the first one the export makes
    intro labels res hparse hinv
    obtain ⟨k, hk, hmem⟩ :=
      @renderLabels_of_invalid Tmpl parseTemplate execute labels res.testConfig hparse hinv
    have hnew : (∅ : Gauges).lookup marksGauge = none := rfl
    have hset := setOrCreateGauge_of_invalid hclient hnew (mem_gaugeLabels hmem) hk
    refine ⟨_, ⟨k, AList.mem_keys.mpr (mem_gaugeLabels hmem), hk⟩, ?_⟩
    simp only [exportTestRunMetrics, addDefaultMetrics, hset, except_error_bind]
  · -- the first order declares the marks gauge with `a`, the second looks it up without
    intro a b va vb e t res res' hab ha hra hna hns hva hvb hres
    refine ⟨fun k => AList.perm_lookup (AList.insert_insert_of_ne _ (Ne.symm hab)), ?_⟩
    obtain ⟨g, err, hexp, hg⟩ := exportTestRunMetrics_fresh hclient
      (gaugeLabels_parsed_first_valid hab ha hra hva hvb res.testConfig) hres
    exact ⟨g, err, hexp, exportTestRunMetrics_of_mismatch hg
      (findsSeries_two_orders hclient hab ha hna hns hva hvb res.testConfig res'.testConfig)⟩

/-- A client that answers as `GaugeClient.Lawful` asks: it registers a gauge with a valid name
and distinct, valid, unreserved label names, and finds a series when the call has as many
labels as the gauge has names and all of them. -/
def lawfulClient : GaugeClient where
  registers name labelKeys := isValidMetricName name && decide labelKeys.Nodup &&
    labelKeys.all fun k => isValidLabelName k && !isReservedLabelName k
  findsSeries declared labels :=
    declared.length == labels.keys.length && declared.all fun k => decide (k ∈ labels)

theorem lawfulClient_lawful : lawfulClient.Lawful where
  panics_of_invalid name labelKeys k hk hinv := by
    have hbad : (isValidLabelName k && !isReservedLabelName k) = false := by
      rcases hinv with h | h <;> simp [h]
    simp only [lawfulClient, Bool.and_eq_false_iff, List.all_eq_false]
    exact .inr ⟨k, hk, by simp [hbad]⟩
  registers_of_valid name labelKeys hmetric hnodup hvalid := by
    simp only [lawfulClient, hmetric, hnodup, decide_true, Bool.true_and, List.all_eq_true]
    intro k hk
    simp [(hvalid k hk).1, (hvalid k hk).2]
  findsSeries_iff declared labels := by
    simp [lawfulClient]

/-- The labels of the agent's README, without its `<prometheus-label>` placeholder. -/
def readmeLabels : GoMap String String :=
  ofList [("nodeName", "\x7b\x7b.Agent.NodeName\x7d\x7d"),
    ("podName", "\x7b\x7b.Agent.PodName\x7d\x7d"),
    ("agentNamespace", "\x7b\x7b.Agent.AgentNamespace\x7d\x7d"),
    ("plugin", "\x7b\x7b.TestConfig.PluginName\x7d\x7d"),
    ("label-1", "\x7b\x7bindex .Agent.PodLabels \"label-1\"\x7d\x7d")]

/-- A run of a `curl` test. -/
def curlRun : TestRun :=
  { id := "1", agentId := "agent-0/synheart", startTime := "", endTime := "",
    testConfig :=
      { name := "curl-google", version := "1", labels := ∅, pluginName := "curl",
        displayName := "", description := "", «namespace» := "default", importance := "",
        «repeat» := "1m", nodeSelector := "", podLabelSelector := ∅, dependsOn := [],
        timeouts := none, pluginRestartPolicy := "", logWaitTime := "", config := "",
        runtime := ∅ }
    testResult := ⟨1, 1, ∅⟩
    details := ∅ }

theorem export_panics_on_invalid_label_readme :
    lawfulClient.Lawful ∧ ∃ labelKeys, (∃ k ∈ labelKeys, isValidLabelName k = false) ∧
      exportTestRunMetrics lawfulClient (fun v => (.ok v : Except String String)) (fun t _ => t)
        (fun _ => .ok []) readmeLabels ∅ curlRun = .error (.newGaugeVec marksGauge labelKeys) :=
  ⟨lawfulClient_lawful,
    (export_panics_on_invalid_label lawfulClient lawfulClient_lawful
      (fun v => (.ok v : Except String String)) (fun t _ => t) (fun _ => .ok [])).1
      readmeLabels curlRun (fun _ v _ => ⟨v, rfl⟩) ⟨"label-1", by decide, by decide⟩⟩

/-! ## Custom gauge names -/

theorem cleanMetricName_replaces_digits :
    (∀ s : String, s ≠ "" → isValidMetricName (cleanMetricName s) = true) ∧
    (∀ s : String, isValidLabelName s = true →
      (cleanMetricName s = s ↔ ∀ c ∈ s.toList, c.isDigit = false)) ∧
    (∀ (l r : List Char) (d d' : Char), d.isDigit = true → d'.isDigit = true →
      cleanMetricName (String.ofList (l ++ d :: r)) =
        cleanMetricName (String.ofList (l ++ d' :: r))) ∧
    (∀ (client : GaugeClient) (labels : GoMap String String) (gauges : Gauges)
      (own : Option (GoMap String String)) (l r : List Char) (d d' : Char),
      d.isDigit = true → d'.isDigit = true →
      addCustomGauge client labels gauges ⟨String.ofList (l ++ d :: r), own⟩ =
        addCustomGauge client labels gauges ⟨String.ofList (l ++ d' :: r), own⟩) := by
  refine ⟨fun s hs => isValidMetricName_of_isValidLabelName (isValidLabelName_cleanMetricName hs),
    fun s hs => ?_, fun l r d d' hd hd' => cleanMetricName_digit_congr hd hd' l r, ?_⟩
  · rw [cleanMetricName_eq_self_iff]
    have hchar := isNameChar_of_isValidLabelName hs
    constructor
    · intro h c hc
      exact (isNameStart_iff.mp (h c hc)).2
    · intro h c hc
      exact isNameStart_iff.mpr ⟨hchar c hc, h c hc⟩
  · intro client labels gauges own l r d d' hd hd'
    -- the gauge's name is prefixed before it is cleaned
    have hpre : ∀ e : Char, customGaugePrefix ++ String.ofList (l ++ e :: r) =
        String.ofList ((customGaugePrefix.toList ++ l) ++ e :: r) := by
      intro e
      apply String.toList_injective
      simp [String.toList_append]
    have hname : cleanMetricName (customGaugePrefix ++ String.ofList (l ++ d :: r)) =
        cleanMetricName (customGaugePrefix ++ String.ofList (l ++ d' :: r)) := by
      rw [hpre, hpre]
      exact cleanMetricName_digit_congr hd hd' _ r
    simp only [addCustomGauge, hname]

end SyntheticHeart.Prometheus
