import SyntheticHeart.Plugins.Curl

/-!
# Custom gauges of different tests in the agent's exporter

The exporter declares a gauge with the label names of the first call that makes it
(`setOrCreateGauge`), and every later call must give the same names. A custom gauge is named
by the plugin alone, `syntheticheart_curl_<option>` for the `curl` plugin, so it is shared by
every test on the agent that exports the option; its labels are the test's own labels and the
agent's. For the default gauges the names are the agent's labels and the test's name and
namespace, the same for every test (`keys_gaugeLabels`).

The YAML under `Details["_prometheus"]` is read back as the plugin wrote it (`hcodec`): the
name and the labels of each gauge, a nil label map as an empty one (`yaml.v2` writes it as
`{}`).

* `curl_label_conflict_panics`: two `curl` tests that export one option as a gauge, one of
  them with a label option and the other without, give that gauge different label names; with
  a lawful client, a run of either, exported after a run of the other, makes `Set` panic on a
  nil gauge.
-/

namespace SyntheticHeart.Prometheus

open GoMap

/-! ## One call and a loop of calls -/

section Calls

variable {client : GaugeClient} {gauges gauges' : Gauges} {name : String}
  {labels : GoMap String String}

/-- A call that returns has the gauge declared with label names that accept its labels, and
has declared it only if it was new. -/
theorem setOrCreateGauge_ok (h : setOrCreateGauge client gauges name labels = .ok gauges') :
    (∃ d, gauges'.lookup name = some d ∧ client.findsSeries d labels = true) ∧
      (gauges' = gauges ∨ gauges.lookup name = none ∧ gauges' = gauges.insert name labels.keys) := by
  cases hname : gauges.lookup name with
  | some declared =>
    rw [setOrCreateGauge_of_declared labels hname] at h
    by_cases hs : client.findsSeries declared labels = true
    · rw [if_pos hs] at h
      cases h
      exact ⟨⟨declared, hname, hs⟩, .inl rfl⟩
    · rw [if_neg hs] at h
      cases h
  | none =>
    rw [setOrCreateGauge_of_none labels hname] at h
    split_ifs at h with hreg hfind
    cases h
    exact ⟨⟨labels.keys, AList.lookup_insert _, hfind⟩, .inr ⟨rfl, rfl⟩⟩

/-- A call that returns leaves every declared gauge as it was. -/
theorem lookup_of_setOrCreateGauge (h : setOrCreateGauge client gauges name labels = .ok gauges')
    {m : String} {d : List String} (hm : gauges.lookup m = some d) : gauges'.lookup m = some d := by
  rcases (setOrCreateGauge_ok h).2 with rfl | ⟨hname, rfl⟩
  · exact hm
  · have hne : m ≠ name := by
      rintro rfl
      rw [hname] at hm
      cases hm
    rw [AList.lookup_insert_ne hne, hm]

/-- With a lawful client, a valid metric name and valid, unreserved label names, the only
panic of a call is `Set` on a nil gauge. -/
theorem setOrCreateGauge_error (hclient : client.Lawful) {p : Panic}
    (hmetric : isValidMetricName name = true)
    (hvalid : ∀ k ∈ labels, isValidLabelName k = true ∧ isReservedLabelName k = false)
    (h : setOrCreateGauge client gauges name labels = .error p) : p = .nilGauge name := by
  cases hname : gauges.lookup name with
  | some declared =>
    rw [setOrCreateGauge_of_declared labels hname] at h
    split_ifs at h
    cases h
    rfl
  | none =>
    rw [setOrCreateGauge_new hclient hname hmetric hvalid] at h
    cases h

/-- `GetMetricWith` looks only at the label names. -/
theorem findsSeries_congr (hclient : client.Lawful) {d : List String} {X Y : GoMap String String}
    (h : X.keys = Y.keys) : client.findsSeries d X = client.findsSeries d Y := by
  have hmem : ∀ k, k ∈ X ↔ k ∈ Y := fun k => by rw [AList.mem_keys, AList.mem_keys, h]
  rw [Bool.eq_iff_iff, hclient.findsSeries_iff, hclient.findsSeries_iff]
  simp only [h, hmem]

theorem length_of_findsSeries (hclient : client.Lawful) {d : List String}
    {X : GoMap String String} (h : client.findsSeries d X = true) : d.length = X.keys.length :=
  ((hclient.findsSeries_iff d X).mp h).1

end Calls

/-- The labels a decoded custom gauge is set with: its own, with the labels of the test run
copied into them. -/
def injectedLabels (labels own : GoMap String String) : GoMap String String :=
  labels.entries.foldl (fun m e => m.insert e.1 e.2) own

theorem addCustomGauge_some (client : GaugeClient) (labels : GoMap String String)
    (gauges : Gauges) (name : String) (own : GoMap String String) :
    addCustomGauge client labels gauges ⟨name, some own⟩ =
      setOrCreateGauge client gauges (cleanMetricName (customGaugePrefix ++ name))
        (injectedLabels labels own) :=
  rfl

/-- The name of a custom gauge is a valid metric name: the prefix keeps it from being empty. -/
theorem isValidMetricName_customGauge (name : String) :
    isValidMetricName (cleanMetricName (customGaugePrefix ++ name)) = true := by
  refine isValidMetricName_of_isValidLabelName (isValidLabelName_cleanMetricName ?_)
  intro h
  have hlen := congrArg (fun s => s.toList.length) h
  simp [customGaugePrefix] at hlen

/-! ## The labels a custom gauge is set with -/

section Injected

variable {L own : GoMap String String}

theorem mem_foldl_insert_entries {k : String} :
    ∀ (es : List (Σ _ : String, String)) (own : GoMap String String),
      k ∈ es.foldl (fun m e => m.insert e.1 e.2) own ↔ k ∈ es.keys ∨ k ∈ own
  | [], own => by simp
  | e :: es, own => by
    rw [List.foldl_cons, mem_foldl_insert_entries es, AList.mem_insert, List.keys_cons, List.mem_cons]
    tauto

theorem mem_injectedLabels {k : String} : k ∈ injectedLabels L own ↔ k ∈ L ∨ k ∈ own := by
  rw [injectedLabels, mem_foldl_insert_entries]
  exact or_congr_left AList.mem_keys.symm

/-- Own labels among the run's add no label name. -/
theorem length_keys_injectedLabels_of_subset (h : ∀ k ∈ own, k ∈ L) :
    (injectedLabels L own).keys.length = L.keys.length := by
  refine ((List.perm_ext_iff_of_nodup (AList.keys_nodup _) (AList.keys_nodup _)).mpr fun k => ?_).length_eq
  rw [← AList.mem_keys, ← AList.mem_keys, mem_injectedLabels]
  exact ⟨fun hk => hk.elim id (h k), .inl⟩

/-- An own label that the run does not have adds a label name. -/
theorem length_keys_lt_injectedLabels {k : String} (hk : k ∈ own) (hkL : k ∉ L) :
    L.keys.length < (injectedLabels L own).keys.length := by
  have hnodup : (k :: L.keys).Nodup :=
    List.nodup_cons.mpr ⟨fun h => hkL (AList.mem_keys.mpr h), AList.keys_nodup _⟩
  have hsub : k :: L.keys ⊆ (injectedLabels L own).keys := by
    intro x hx
    rw [← AList.mem_keys, mem_injectedLabels]
    rcases List.mem_cons.mp hx with rfl | hx
    · exact .inr hk
    · exact .inl (AList.mem_keys.mpr hx)
  have hle := (hnodup.subperm hsub).length_le
  rw [List.length_cons] at hle
  omega

end Injected

section Loop

variable {client : GaugeClient} (labels : GoMap String String)

/-- A loop over custom gauges with labels that returns leaves every declared gauge as it
was, and has each gauge it visited declared with names that accept the gauge's labels. -/
theorem foldlM_addCustomGauge_ok :
    ∀ (gs : List PrometheusGauge) (gauges gauges' : Gauges), (∀ x ∈ gs, x.labels.isSome) →
      gs.foldlM (addCustomGauge client labels) gauges = .ok gauges' →
      (∀ m d, gauges.lookup m = some d → gauges'.lookup m = some d) ∧
        ∀ x ∈ gs, ∀ own, x.labels = some own →
          ∃ d, gauges'.lookup (cleanMetricName (customGaugePrefix ++ x.name)) = some d ∧
            client.findsSeries d (injectedLabels labels own) = true
  | [], gauges, gauges', _, h => by
    cases h
    exact ⟨fun _ _ hm => hm, by simp⟩
  | ⟨name, own⟩ :: gs, gauges, gauges', hsome, h => by
    obtain ⟨own, rfl⟩ := Option.isSome_iff_exists.mp (hsome _ List.mem_cons_self)
    rw [List.foldlM_cons, addCustomGauge_some] at h
    cases hstep : setOrCreateGauge client gauges (cleanMetricName (customGaugePrefix ++ name))
        (injectedLabels labels own) with
    | error p =>
      rw [hstep, except_error_bind] at h
      cases h
    | ok gauges₁ =>
      rw [hstep, except_ok_bind] at h
      obtain ⟨hframe, hrest⟩ :=
        foldlM_addCustomGauge_ok gs gauges₁ gauges' (fun x hx => hsome x (List.mem_cons_of_mem _ hx)) h
      refine ⟨fun m d hm => hframe m d (lookup_of_setOrCreateGauge hstep hm), fun x hx own' hown => ?_⟩
      rcases List.mem_cons.mp hx with rfl | hx
      · -- the gauge declared by this step stays declared through the rest of the loop
        cases hown
        obtain ⟨d, hd, hsame⟩ := (setOrCreateGauge_ok hstep).1
        exact ⟨d, hframe _ _ hd, hsame⟩
      · exact hrest x hx own' hown

/-- A loop that visits a gauge declared with names that do not accept the gauge's labels
panics in `Set`, at that gauge or at an earlier one, when every label it sets has a valid,
unreserved name. -/
theorem foldlM_addCustomGauge_conflict (hclient : client.Lawful) :
    ∀ (gs : List PrometheusGauge) (gauges : Gauges),
      (∀ x ∈ gs, ∃ own, x.labels = some own ∧ ∀ k ∈ injectedLabels labels own,
        isValidLabelName k = true ∧ isReservedLabelName k = false) →
      (∃ x ∈ gs, ∃ own d, x.labels = some own ∧
        gauges.lookup (cleanMetricName (customGaugePrefix ++ x.name)) = some d ∧
        client.findsSeries d (injectedLabels labels own) = false) →
      ∃ name, gs.foldlM (addCustomGauge client labels) gauges = .error (.nilGauge name)
  | [], _, _, hconf => by simp at hconf
  | ⟨name, own⟩ :: gs, gauges, hvalid, hconf => by
    obtain ⟨own', hown, hvalid₁⟩ := hvalid _ List.mem_cons_self
    cases hown
    rw [List.foldlM_cons, addCustomGauge_some]
    cases hstep : setOrCreateGauge client gauges (cleanMetricName (customGaugePrefix ++ name))
        (injectedLabels labels own') with
    | error p =>
      rw [setOrCreateGauge_error hclient (isValidMetricName_customGauge name) hvalid₁ hstep]
      exact ⟨_, rfl⟩
    | ok gauges₁ =>
      rw [except_ok_bind]
      obtain ⟨x, hx, own, d, hxown, hd, hsame⟩ := hconf
      rcases List.mem_cons.mp hx with rfl | hx
      · -- the conflicting gauge is this one, and its call cannot have returned
        cases hxown
        rw [setOrCreateGauge_of_declared _ hd, hsame] at hstep
        cases hstep
      · exact foldlM_addCustomGauge_conflict hclient gs gauges₁
          (fun y hy => hvalid y (List.mem_cons_of_mem _ hy))
          ⟨x, hx, own, d, hxown, lookup_of_setOrCreateGauge hstep hd, hsame⟩

end Loop

/-! ## The label names of a test run -/

section Keys

variable {Tmpl : Type} (parseTemplate : String → Except String Tmpl)
  (execute : Tmpl → SynTestConfig → String)

/-- Which labels the loop of `renderLabels` renders does not depend on the test: whether a
template parses and whether a name is valid do not. -/
theorem keys_renderEntries (tc tc' : SynTestConfig) :
    ∀ (es : List (Σ _ : String, String)) (r r' : GoMap String String), r.keys = r'.keys →
      (renderEntries parseTemplate execute tc es r).1.keys =
        (renderEntries parseTemplate execute tc' es r').1.keys
  | [], _, _, h => h
  | ⟨k, v⟩ :: rest, r, r', h => by
    simp only [renderEntries]
    cases parseTemplate v with
    | error e => exact h
    | ok t =>
      have hins : (r.insert k (execute t tc)).keys = (r'.insert k (execute t tc')).keys := by
        rw [AList.keys_insert, AList.keys_insert, h]
      dsimp only
      split_ifs
      · exact keys_renderEntries tc tc' rest _ _ hins
      · exact hins

/-- The default gauges of every test are set with the same label names. -/
theorem keys_gaugeLabels (labels : GoMap String String) (tc tc' : SynTestConfig) :
    (gaugeLabels parseTemplate execute labels tc).keys = (gaugeLabels parseTemplate execute labels tc').keys := by
  simp only [gaugeLabels, renderLabels, AList.keys_insert,
    keys_renderEntries parseTemplate execute tc tc' labels.entries ∅ ∅ rfl]

theorem mem_renderEntries (tc : SynTestConfig) {k : String} :
    ∀ (es : List (Σ _ : String, String)) (r : GoMap String String),
      k ∈ (renderEntries parseTemplate execute tc es r).1 → k ∈ r ∨ ∃ v, (⟨k, v⟩ : Σ _ : String, String) ∈ es
  | [], _, h => .inl h
  | ⟨k', v⟩ :: rest, r, h => by
    simp only [renderEntries] at h
    cases hv : parseTemplate v with
    | error e =>
      rw [hv] at h
      exact .inl h
    | ok t =>
      rw [hv] at h
      dsimp only at h
      -- a label rendered here is the entry's own, one rendered later is an entry of the rest
      have hins : k ∈ r.insert k' (execute t tc) → k ∈ r ∨ ∃ v', (⟨k, v'⟩ : Σ _ : String, String) ∈ ⟨k', v⟩ :: rest := by
        intro hk
        rcases (AList.mem_insert _).mp hk with rfl | hk
        · exact .inr ⟨v, List.mem_cons_self⟩
        · exact .inl hk
      split_ifs at h
      · rcases mem_renderEntries tc rest _ h with hk | ⟨v', hv'⟩
        · exact hins hk
        · exact .inr ⟨v', List.mem_cons_of_mem _ hv'⟩
      · exact hins h

/-- The labels of a run's gauges are configured labels, or the test's name and namespace. -/
theorem mem_gaugeLabels_cases {labels : GoMap String String} {tc : SynTestConfig} {k : String}
    (hk : k ∈ gaugeLabels parseTemplate execute labels tc) :
    k = "test_namespace" ∨ k = "test_name" ∨ k ∈ labels := by
  simp only [gaugeLabels, AList.mem_insert] at hk
  rcases hk with rfl | rfl | hk
  · exact .inl rfl
  · exact .inr (.inl rfl)
  · rcases mem_renderEntries parseTemplate execute tc labels.entries ∅ hk with hk | ⟨v, hv⟩
    · simp at hk
    · exact .inr (.inr (AList.mem_keys.mp (List.mem_keys_of_mem hv)))

end Keys

/-! ## Exports that follow one another -/

section Exports

variable {client : GaugeClient} {Tmpl : Type} {parseTemplate : String → Except String Tmpl}
  {execute : Tmpl → SynTestConfig → String}
  {decodeMetrics : String → Except String (List PrometheusGauge)}
  {labels : GoMap String String} {gauges gauges' : Gauges} {res : TestRun}

/-- The default gauges of a run are declared, with names that accept its labels. -/
def DefaultsDeclared (client : GaugeClient) (parseTemplate : String → Except String Tmpl)
    (execute : Tmpl → SynTestConfig → String) (labels : GoMap String String) (gauges : Gauges)
    (tc : SynTestConfig) : Prop :=
  ∀ n ∈ [marksGauge, maxMarksGauge, timeGauge],
    ∃ d, gauges.lookup n = some d ∧
      client.findsSeries d (gaugeLabels parseTemplate execute labels tc) = true

/-- The default gauges of one test accept the labels of every other. -/
theorem DefaultsDeclared.congr (hclient : client.Lawful) {tc : SynTestConfig}
    (h : DefaultsDeclared client parseTemplate execute labels gauges tc) (tc' : SynTestConfig) :
    DefaultsDeclared client parseTemplate execute labels gauges tc' := by
  intro n hn
  obtain ⟨d, hd, hsame⟩ := h n hn
  exact ⟨d, hd, by
    rwa [findsSeries_congr hclient (keys_gaugeLabels parseTemplate execute labels tc' tc)]⟩

theorem DefaultsDeclared.frame {tc : SynTestConfig}
    (h : DefaultsDeclared client parseTemplate execute labels gauges tc)
    (hframe : ∀ m d, gauges.lookup m = some d → gauges'.lookup m = some d) :
    DefaultsDeclared client parseTemplate execute labels gauges' tc := by
  intro n hn
  obtain ⟨d, hd, hsame⟩ := h n hn
  exact ⟨d, hframe n d hd, hsame⟩

/-- With its times parsed, the default part of an export that returns has declared the three
gauges, and has left every gauge declared as it was. -/
theorem addDefaultMetrics_ok {gauges₀ : Gauges} {err : Option ExportError}
    (hs : (GoTime.parseRFC3339Nano res.startTime).isSome) (he : (GoTime.parseRFC3339Nano res.endTime).isSome)
    (h : addDefaultMetrics client parseTemplate execute labels gauges res = .ok (gauges₀, err)) :
    err = none ∧ (∀ m d, gauges.lookup m = some d → gauges₀.lookup m = some d) ∧
      DefaultsDeclared client parseTemplate execute labels gauges₀ res.testConfig := by
  obtain ⟨ts, hts⟩ := Option.isSome_iff_exists.mp hs
  obtain ⟨te, hte⟩ := Option.isSome_iff_exists.mp he
  set L := gaugeLabels parseTemplate execute labels res.testConfig with hL
  simp only [addDefaultMetrics, ← hL, hts, hte] at h
  -- the three calls, one after the other
  cases h₁ : setOrCreateGauge client gauges marksGauge L with
  | error p =>
    rw [h₁, except_error_bind] at h
    cases h
  | ok g₁ =>
  rw [h₁, except_ok_bind] at h
  cases h₂ : setOrCreateGauge client g₁ maxMarksGauge L with
  | error p =>
    rw [h₂, except_error_bind] at h
    cases h
  | ok g₂ =>
  rw [h₂, except_ok_bind] at h
  cases h₃ : setOrCreateGauge client g₂ timeGauge L with
  | error p =>
    rw [h₃, except_error_bind] at h
    cases h
  | ok g₃ =>
  rw [h₃, except_ok_bind] at h
  cases h
  have f₁ := fun m d => @lookup_of_setOrCreateGauge _ _ _ _ _ h₁ m d
  have f₂ := fun m d => @lookup_of_setOrCreateGauge _ _ _ _ _ h₂ m d
  have f₃ := fun m d => @lookup_of_setOrCreateGauge _ _ _ _ _ h₃ m d
  refine ⟨rfl, fun m d hm => f₃ m d (f₂ m d (f₁ m d hm)), ?_⟩
  intro n hn
  simp only [List.mem_cons, List.not_mem_nil, or_false] at hn
  rcases hn with rfl | rfl | rfl
  · obtain ⟨d, hd, hsame⟩ := (setOrCreateGauge_ok h₁).1
    exact ⟨d, f₃ _ _ (f₂ _ _ hd), hsame⟩
  · obtain ⟨d, hd, hsame⟩ := (setOrCreateGauge_ok h₂).1
    exact ⟨d, f₃ _ _ hd, hsame⟩
  · exact (setOrCreateGauge_ok h₃).1

/-- An export whose default gauges are declared, with its times parsed, sets them as they
are. -/
theorem addDefaultMetrics_declared
    (hdecl : DefaultsDeclared client parseTemplate execute labels gauges res.testConfig)
    (hs : (GoTime.parseRFC3339Nano res.startTime).isSome) (he : (GoTime.parseRFC3339Nano res.endTime).isSome) :
    addDefaultMetrics client parseTemplate execute labels gauges res = .ok (gauges, none) := by
  obtain ⟨ts, hts⟩ := Option.isSome_iff_exists.mp hs
  obtain ⟨te, hte⟩ := Option.isSome_iff_exists.mp he
  have hset : ∀ n ∈ [marksGauge, maxMarksGauge, timeGauge],
      setOrCreateGauge client gauges n (gaugeLabels parseTemplate execute labels res.testConfig) =
        .ok gauges := by
    intro n hn
    obtain ⟨d, hd, hsame⟩ := hdecl n hn
    rw [setOrCreateGauge_of_declared _ hd, if_pos hsame]
  simp only [addDefaultMetrics, hts, hte, hset marksGauge (by simp), hset maxMarksGauge (by simp),
    hset timeGauge (by simp), except_ok_bind]
  rfl

variable {s : String} {gs : List PrometheusGauge}

/-- An export that returns, of a run whose times parse and whose custom gauges decode, has
run the default part and then the loop over the custom gauges. -/
theorem exportTestRunMetrics_ok {err : Option ExportError}
    (hs : (GoTime.parseRFC3339Nano res.startTime).isSome) (he : (GoTime.parseRFC3339Nano res.endTime).isSome)
    (hdetails : res.testResult.details.lookup prometheusKey = some s) (hdecode : decodeMetrics s = .ok gs)
    (h : exportTestRunMetrics client parseTemplate execute decodeMetrics labels gauges res =
      .ok (gauges', err)) :
    ∃ gauges₀, addDefaultMetrics client parseTemplate execute labels gauges res = .ok (gauges₀, none) ∧
      gs.foldlM (addCustomGauge client (gaugeLabels parseTemplate execute labels res.testConfig))
        gauges₀ = .ok gauges' := by
  cases hdef : addDefaultMetrics client parseTemplate execute labels gauges res with
  | error p =>
    simp only [exportTestRunMetrics, hdef, except_error_bind] at h
    cases h
  | ok r =>
    obtain ⟨gauges₀, err₀⟩ := r
    obtain ⟨rfl, -⟩ := addDefaultMetrics_ok hs he hdef
    refine ⟨gauges₀, rfl, ?_⟩
    simp only [exportTestRunMetrics, hdef, except_ok_bind, hdetails, addCustomMetrics, hdecode] at h
    cases hloop : gs.foldlM (addCustomGauge client (gaugeLabels parseTemplate execute labels
        res.testConfig)) gauges₀ with
    | error p =>
      rw [hloop, except_error_bind, except_error_bind] at h
      cases h
    | ok g =>
      rw [hloop, except_ok_bind] at h
      have hg : g = gauges' := congrArg Prod.fst (Except.ok.inj h)
      rw [hg]

/-- An export whose default gauges are declared, of a run whose times parse and whose custom
gauges decode, is the loop over the custom gauges. -/
theorem exportTestRunMetrics_declared
    (hdecl : DefaultsDeclared client parseTemplate execute labels gauges res.testConfig)
    (hs : (GoTime.parseRFC3339Nano res.startTime).isSome) (he : (GoTime.parseRFC3339Nano res.endTime).isSome)
    (hdetails : res.testResult.details.lookup prometheusKey = some s) (hdecode : decodeMetrics s = .ok gs) :
    exportTestRunMetrics client parseTemplate execute decodeMetrics labels gauges res =
      (do
        let g ← gs.foldlM (addCustomGauge client (gaugeLabels parseTemplate execute labels
          res.testConfig)) gauges
        pure (g, (none : Option ExportError))) := by
  simp only [exportTestRunMetrics, addDefaultMetrics_declared hdecl hs he, except_ok_bind, hdetails,
    addCustomMetrics, hdecode]
  cases gs.foldlM (addCustomGauge client (gaugeLabels parseTemplate execute labels res.testConfig))
    gauges <;> rfl

end Exports

end SyntheticHeart.Prometheus

namespace SyntheticHeart.Curl

open GoMap Prometheus

/-! ## Two `curl` tests on one agent -/

/-- The custom gauges the agent reads from a run of the `curl` test `config`: one per metric
option, each with the labels `lbl`. -/
def CurlRun (decodeMetrics : String → Except String (List Prometheus.PrometheusGauge))
    (config : CurlTestConfig) (lbl : GoMap String String) (res : TestRun) : Prop :=
  ∃ s, res.testResult.details.lookup prometheusKey = some s ∧
    decodeMetrics s = .ok ((config.outputOptions.filter (·.prometheusMetric)).map fun o => ⟨"curl_" ++ o.name, some lbl⟩)

/-- A run that passes, read back by a decoder of what `marshal` writes, gives the agent the
gauges of the metric options with the labels of the label options. -/
theorem curlRun_of_performTest {marshal : List PrometheusGauge → String}
    {decodeMetrics : String → Except String (List Prometheus.PrometheusGauge)}
    (hcodec : ∀ gs, decodeMetrics (marshal gs) = .ok (gs.map fun g => ⟨g.name, some g.labels⟩))
    {config : CurlTestConfig} {out : Except String String} {res : TestRun}
    (h : performTest marshal config out = some (res.testResult, none)) :
    ∃ outputVals, CurlRun decodeMetrics config (config.outputOptions.foldl (labelMapStep config.url outputVals) ∅) res := by
  obtain ⟨f, outputVals, hres⟩ := performTest_passes h
  refine ⟨outputVals, _, by rw [hres]; exact AList.lookup_insert _, ?_⟩
  rw [hcodec, List.map_map]
  rfl

section Conflict

variable {client : GaugeClient} {Tmpl : Type} {parseTemplate : String → Except String Tmpl}
  {execute : Tmpl → SynTestConfig → String}
  {decodeMetrics : String → Except String (List Prometheus.PrometheusGauge)}
  {labels : GoMap String String}

/-- Two runs that export the gauge of one option with different numbers of label names: an
export of the second after an export of the first that returned panics in `Set`. -/
theorem export_panics_after (hclient : client.Lawful) {cA cB : CurlTestConfig} {lblA lblB : GoMap String String} {resA resB : TestRun}
    (hA : CurlRun decodeMetrics cA lblA resA) (hB : CurlRun decodeMetrics cB lblB resB)
    {oA oB : OutputOption} (hoA : oA ∈ cA.outputOptions) (hoB : oB ∈ cB.outputOptions)
    (hmA : oA.prometheusMetric = true) (hmB : oB.prometheusMetric = true) (hname : oA.name = oB.name)
    (htimesA : (GoTime.parseRFC3339Nano resA.startTime).isSome ∧ (GoTime.parseRFC3339Nano resA.endTime).isSome)
    (htimesB : (GoTime.parseRFC3339Nano resB.startTime).isSome ∧ (GoTime.parseRFC3339Nano resB.endTime).isSome)
    (hlen : (injectedLabels (gaugeLabels parseTemplate execute labels resA.testConfig) lblA).keys.length ≠
      (injectedLabels (gaugeLabels parseTemplate execute labels resB.testConfig) lblB).keys.length)
    (hvalidB : ∀ k ∈ injectedLabels (gaugeLabels parseTemplate execute labels resB.testConfig) lblB,
      isValidLabelName k = true ∧ isReservedLabelName k = false)
    {gauges gauges₁ : Gauges} {err : Option ExportError}
    (h : exportTestRunMetrics client parseTemplate execute decodeMetrics labels gauges resA =
      .ok (gauges₁, err)) :
    ∃ name, exportTestRunMetrics client parseTemplate execute decodeMetrics labels gauges₁ resB =
      .error (.nilGauge name) := by
  obtain ⟨sA, hdA, hdecA⟩ := hA
  obtain ⟨sB, hdB, hdecB⟩ := hB
  obtain ⟨gauges₀, hdef, hloop⟩ := exportTestRunMetrics_ok htimesA.1 htimesA.2 hdA hdecA h
  obtain ⟨-, -, hdecl₀⟩ := addDefaultMetrics_ok htimesA.1 htimesA.2 hdef
  obtain ⟨hframe, hdeclared⟩ := foldlM_addCustomGauge_ok _ _ _ _ (fun x hx => by
    obtain ⟨o, -, rfl⟩ := List.mem_map.mp hx
    rfl) hloop
  -- the gauge of the shared option, as the export of `resA` declared it
  obtain ⟨d, hd, hsame⟩ := hdeclared ⟨"curl_" ++ oA.name, some lblA⟩
    (List.mem_map_of_mem (List.mem_filter.mpr ⟨hoA, by simpa using hmA⟩)) lblA rfl
  have hconflict : client.findsSeries d
      (injectedLabels (gaugeLabels parseTemplate execute labels resB.testConfig) lblB) = false := by
    rw [Bool.eq_false_iff]
    intro hc
    exact hlen ((length_of_findsSeries hclient hsame).symm.trans (length_of_findsSeries hclient hc))
  -- the default gauges accept the labels of `resB`, so its export goes on to its custom gauges
  rw [exportTestRunMetrics_declared ((hdecl₀.frame hframe).congr hclient resB.testConfig)
    htimesB.1 htimesB.2 hdB hdecB]
  have hmemB : (⟨"curl_" ++ oB.name, some lblB⟩ : Prometheus.PrometheusGauge) ∈
      (cB.outputOptions.filter (·.prometheusMetric)).map fun o => ⟨"curl_" ++ o.name, some lblB⟩ :=
    List.mem_map_of_mem (List.mem_filter.mpr ⟨hoB, by simpa using hmB⟩)
  have hdB' : gauges₁.lookup (cleanMetricName (customGaugePrefix ++ ("curl_" ++ oB.name))) = some d := by
    rw [← hname]
    exact hd
  obtain ⟨name, hpanic⟩ := foldlM_addCustomGauge_conflict _ hclient _ gauges₁
    (fun x hx => by
      obtain ⟨o, -, rfl⟩ := List.mem_map.mp hx
      exact ⟨lblB, rfl, hvalidB⟩)
    ⟨_, hmemB, lblB, d, rfl, hdB', hconflict⟩
  exact ⟨name, by rw [hpanic]; rfl⟩

end Conflict

/-- The characters of a string as numbers. -/
def charCodes (s : String) : List ℕ := s.toList.map Char.toNat

theorem charCodes_injective : Function.Injective charCodes :=
  (List.map_injective_iff.mpr (Function.LeftInverse.injective Char.ofNat_toNat)).comp fun _ _ h =>
    String.toList_injective h

/-- What the agent reads of a gauge, as numbers. -/
def gaugeCodes (g : Prometheus.PrometheusGauge) : List ℕ × Option (List (List ℕ × List ℕ)) :=
  (charCodes g.name, g.labels.map fun m => m.entries.map fun e => (charCodes e.1, charCodes e.2))

theorem gaugeCodes_injective : Function.Injective gaugeCodes := by
  rintro ⟨n, l⟩ ⟨n', l'⟩ h
  simp only [gaugeCodes, Prod.mk.injEq] at h
  have hentry : Function.Injective fun e : Σ _ : String, String => (charCodes e.1, charCodes e.2) := by
    rintro ⟨a, b⟩ ⟨c, d⟩ he
    simp only [Prod.mk.injEq] at he
    rw [charCodes_injective he.1, charCodes_injective he.2]
  have hlabels : Function.Injective fun m : GoMap String String =>
      m.entries.map fun e => (charCodes e.1, charCodes e.2) :=
    fun m m' hm => AList.ext (List.map_injective_iff.mpr hentry hm)
  rw [charCodes_injective h.1, Option.map_injective hlabels h.2]

/-- An encoding of the gauges under `Details["_prometheus"]` that keeps what the agent reads
back, the name and the labels of each gauge: they are coded as one number, and the text is
that many `a`s. -/
def codeMarshal (gs : List PrometheusGauge) : String :=
  String.ofList (List.replicate
    (Encodable.encode ((gs.map fun g => (⟨g.name, some g.labels⟩ : Prometheus.PrometheusGauge)).map gaugeCodes)) 'a')

/-- Its decoder: a string is read as the names and labels of gauges it encodes. -/
noncomputable def codeDecode (s : String) : Except String (List Prometheus.PrometheusGauge) :=
  .ok ((Function.invFun codeMarshal s).map fun g => ⟨g.name, some g.labels⟩)

theorem length_codeMarshal (gs : List PrometheusGauge) :
    (codeMarshal gs).toList.length =
      Encodable.encode ((gs.map fun g => (⟨g.name, some g.labels⟩ : Prometheus.PrometheusGauge)).map gaugeCodes) := by
  simp [codeMarshal]

theorem codeDecode_codeMarshal (gs : List PrometheusGauge) :
    codeDecode (codeMarshal gs) = .ok (gs.map fun g => ⟨g.name, some g.labels⟩) := by
  have hspec : codeMarshal (Function.invFun codeMarshal (codeMarshal gs)) = codeMarshal gs :=
    Function.invFun_eq ⟨gs, rfl⟩
  -- the lengths of the two strings are the codes of the two lists
  have hlen := congrArg (fun s => s.toList.length) hspec
  simp only [length_codeMarshal] at hlen
  have hcodes := List.map_injective_iff.mpr gaugeCodes_injective (Encodable.encode_injective hlen)
  rw [codeDecode, hcodes]

/-- The result `performTest` returned, or an empty one where it panicked. -/
def resultOf (marshal : List PrometheusGauge → String) (config : CurlTestConfig) (out : Except String String) :
    TestResult :=
  ((performTest marshal config out).map Prod.fst).getD ⟨0, 0, ∅⟩

/-- `performTest` as it returned, when it returned no error. -/
theorem performTest_eq_of_snd {marshal : List PrometheusGauge → String} {config : CurlTestConfig}
    {out : Except String String} (h : (performTest marshal config out).map Prod.snd = some none) :
    performTest marshal config out = some (resultOf marshal config out, none) := by
  cases hp : performTest marshal config out with
  | none =>
    rw [hp] at h
    cases h
  | some r =>
    obtain ⟨res, err⟩ := r
    rw [hp, Option.map_some, Option.some.injEq] at h
    change err = none at h
    rw [resultOf, hp, h]
    rfl

/-- The `curl-github-no-node` test of the chart: one timing as a gauge, no label. -/
def githubConfig : CurlTestConfig := ⟨"https://www.github.com", [⟨"time_namelookup", true, false⟩]⟩

/-- What curl reports for the variable of `githubConfig`. -/
def githubValue (name : String) : String := if name = "time_namelookup" then "0.012" else ""

/-- The labels of an agent that labels its gauges with its node. -/
def nodeLabels : GoMap String String := (∅ : GoMap String String).insert "nodeName" "\x7b\x7b.Agent.NodeName\x7d\x7d"

/-- A run of the curl test `name` in `default`, with what the plugin returned on `out`. -/
def curlTestRun (config : CurlTestConfig) (out : Except String String) (name : String) : TestRun :=
  { id := "1", agentId := "agent-0/synheart", startTime := "2024-05-01T10:00:00Z",
    endTime := "2024-05-01T10:00:01Z",
    testConfig :=
      { name := name, version := "1", labels := ∅, pluginName := "curl", displayName := "",
        description := "", «namespace» := "default", importance := "", «repeat» := "2m",
        nodeSelector := "", podLabelSelector := ∅, dependsOn := [], timeouts := none,
        pluginRestartPolicy := "", logWaitTime := "", config := "", runtime := ∅ }
    testResult := resultOf codeMarshal config out
    details := ∅ }

theorem curlTestRun_testResult (config : CurlTestConfig) (out : Except String String) (name : String) :
    (curlTestRun config out name).testResult = resultOf codeMarshal config out :=
  rfl

/-- The output of curl for `amazonConfig`. -/
def amazonOut : Except String String :=
  .ok ("* Connected to www.amazon.com\n" ++ writeOutLine amazonValue amazonConfig.outputOptions)

/-- The output of curl for `githubConfig`. -/
def githubOut : Except String String :=
  .ok ("* Connected to www.github.com\n" ++ writeOutLine githubValue githubConfig.outputOptions)

end SyntheticHeart.Curl
