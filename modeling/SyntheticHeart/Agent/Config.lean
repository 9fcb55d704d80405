import SyntheticHeart.Go.Strings
import SyntheticHeart.Go.Map

/-!
# The pod labels of the agent (`parseLabelFile`)

The agent learns the labels of its pod from the file that the downward-API volume of
`deployment-agent.yaml` mounts at `/etc/podinfo/labels` (`DefaultLabelFilePath`): one line
`key="value"` per label. `parseLabelFile` splits the file at newlines, skips empty lines and
lines that do not split at `=` into exactly two parts, and sets each key to its value with
the quotes trimmed; a later line of a key wins.

* `parseLabelFile_labelFile`: the file of any labels whose keys and values hold no `=` or
  newline, and whose values neither start nor end with a quote (`LabelFileSafe`, which
  every Kubernetes label is), parses back to those labels, whatever the order of its lines.
* `labelFileSafe_parseLabelFile`: every label `parseLabelFile` returns, from any file, is of
  that kind; so the labels it returns, written out again, parse back to themselves.
-/

namespace SyntheticHeart

open GoMap

/-- The body of the loop of `parseLabelFile`, on one line. -/
def labelLine (labels : GoMap String String) (line : String) : GoMap String String :=
  if line = "" then labels
  else
    match Strings.split line '=' with
    | [k, v] => labels.insert k (Strings.trim v '"')
    | _ => labels

/-- `parseLabelFile`, with what reading the file returned. -/
def parseLabelFile (labelFileData : Except String String) : Except String (GoMap String String) :=
  match labelFileData with
  | .error err => .error ("error reading label file: " ++ err)
  | .ok data => .ok ((Strings.split data '\n').foldl labelLine ∅)

/-- The line of one label in the label file of the downward API. -/
def labelFileLine (k v : String) : String := k ++ "=\"" ++ v ++ "\""

/-- The label file of the downward API for the labels `labels`, its lines in the order of
the entries. -/
def labelFile (labels : GoMap String String) : String :=
  "\n".intercalate (labels.entries.map fun e => labelFileLine e.1 e.2)

/-- A label that the file carries unchanged: no `=` or newline in its key or its value, and
no quote at either end of its value. -/
structure LabelFileSafe (k v : String) : Prop where
  key_eq : '=' ∉ k.toList
  key_newline : '\n' ∉ k.toList
  value_eq : '=' ∉ v.toList
  value_newline : '\n' ∉ v.toList
  value_head : v.toList.head? ≠ some '"'
  value_last : v.toList.getLast? ≠ some '"'

instance (k v : String) : Decidable (LabelFileSafe k v) :=
  decidable_of_iff ('=' ∉ k.toList ∧ '\n' ∉ k.toList ∧ '=' ∉ v.toList ∧ '\n' ∉ v.toList ∧
      v.toList.head? ≠ some '"' ∧ v.toList.getLast? ≠ some '"')
    ⟨fun ⟨a, b, c, d, e, f⟩ => ⟨a, b, c, d, e, f⟩, fun ⟨a, b, c, d, e, f⟩ => ⟨a, b, c, d, e, f⟩⟩

/-! ## Writing labels and reading them back -/

section RoundTrip

variable {k v : String}

theorem labelFileLine_eq (k v : String) :
    labelFileLine k v = k ++ String.singleton '=' ++ (String.singleton '"' ++ v ++ String.singleton '"') := by
  have h : "=\"" = String.singleton '=' ++ String.singleton '"' := rfl
  simp only [labelFileLine, h, String.append_assoc]
  rfl

theorem newline_not_mem_labelFileLine (h : LabelFileSafe k v) : '\n' ∉ (labelFileLine k v).toList := by
  rw [labelFileLine_eq]
  simp [String.toList_append, h.key_newline, h.value_newline]

theorem labelLine_labelFileLine (labels : GoMap String String) (h : LabelFileSafe k v) :
    labelLine labels (labelFileLine k v) = labels.insert k v := by
  have hne : labelFileLine k v ≠ "" := by
    intro he
    have hlen := congrArg String.length he
    simp [labelFileLine_eq] at hlen
  -- the line splits at its only `=`, after the key
  have hvalue : '=' ∉ (String.singleton '"' ++ v ++ String.singleton '"').toList := by
    simp [String.toList_append, h.value_eq]
  have hsplit : Strings.split (labelFileLine k v) '=' = [k, String.singleton '"' ++ v ++ String.singleton '"'] := by
    rw [labelFileLine_eq, Strings.split_append h.key_eq, Strings.split_of_not_mem hvalue]
  rw [labelLine, if_neg hne, hsplit]
  dsimp only
  rw [Strings.trim_wrap h.value_head h.value_last]

/-- The lines of labels that are all safe are read as their assignments, in order. -/
theorem foldl_labelLine_map (l : List (Σ _ : String, String)) (hl : ∀ e ∈ l, LabelFileSafe e.1 e.2)
    (labels : GoMap String String) :
    (l.map fun e => labelFileLine e.1 e.2).foldl labelLine labels = l.foldl (fun m e => m.insert e.1 e.2) labels := by
  induction l generalizing labels with
  | nil => rfl
  | cons e l ih =>
    rw [List.map_cons, List.foldl_cons, List.foldl_cons, labelLine_labelFileLine labels (hl e List.mem_cons_self)]
    exact ih (fun e' he' => hl e' (List.mem_cons_of_mem e he')) _

theorem parseLabelFile_labelFile (labels : GoMap String String)
    (hsafe : ∀ k v, labels.lookup k = some v → LabelFileSafe k v) :
    ∃ m, parseLabelFile (.ok (labelFile labels)) = .ok m ∧ ∀ k, m.lookup k = labels.lookup k := by
  have hentries : ∀ e ∈ labels.entries, LabelFileSafe e.1 e.2 :=
    (forall_entries_iff_lookup labels).mpr hsafe
  refine ⟨(Strings.split (labelFile labels) '\n').foldl labelLine ∅, rfl, fun k => ?_⟩
  by_cases hnil : labels.entries = []
  · -- no label: the file is empty, and its one line is skipped
    have hfile : labelFile labels = "" := by simp [labelFile, hnil]
    have hnone : labels.lookup k = none := by simp [AList.lookup, hnil]
    rw [hfile, hnone]
    rfl
  · have hlines : Strings.split (labelFile labels) '\n' = labels.entries.map fun e => labelFileLine e.1 e.2 := by
      refine Strings.split_intercalate ?_ (by simpa using hnil)
      intro s hs
      obtain ⟨e, he, rfl⟩ := List.mem_map.mp hs
      exact newline_not_mem_labelFileLine (hentries e he)
    rw [hlines, foldl_labelLine_map _ hentries, lookup_foldl_insert_entries]

/-- The labels of an agent pod of the chart: the discover label and an app label. -/
def agentPodLabels : GoMap String String :=
  ((∅ : GoMap String String).insert "synheart.infra.webex.com/discover" "true").insert "app" "synheart-agent"

theorem parseLabelFile_agentPodLabels :
    (∀ k v, agentPodLabels.lookup k = some v → LabelFileSafe k v) ∧
      ∃ m, parseLabelFile (.ok (labelFile agentPodLabels)) = .ok m ∧ ∀ k, m.lookup k = agentPodLabels.lookup k := by
  have hsafe : ∀ k v, agentPodLabels.lookup k = some v → LabelFileSafe k v :=
    (forall_entries_iff_lookup agentPodLabels).mp (by decide)
  exact ⟨hsafe, parseLabelFile_labelFile agentPodLabels hsafe⟩

end RoundTrip

/-! ## What any file gives -/

section Parsed

theorem labelFileSafe_of_split {line k v : String} (hline : '\n' ∉ line.toList)
    (hsplit : Strings.split line '=' = [k, v]) : LabelFileSafe k (Strings.trim v '"') := by
  have hk := Strings.mem_split (hsplit ▸ List.mem_cons_self : k ∈ Strings.split line '=')
  have hv := Strings.mem_split (hsplit ▸ List.mem_cons_of_mem k List.mem_cons_self : v ∈ Strings.split line '=')
  have htrim := Strings.trim_subset (c := '"') v
  exact ⟨hk.1, fun hn => hline (hk.2 hn), fun he => hv.1 (htrim he), fun hn => hline (hv.2 (htrim hn)),
    Strings.head?_trim v, Strings.getLast?_trim v⟩

/-- A line without a newline adds only a safe label. -/
theorem labelLine_safe {labels : GoMap String String} (h : ∀ k v, labels.lookup k = some v → LabelFileSafe k v)
    {line : String} (hline : '\n' ∉ line.toList) :
    ∀ k v, (labelLine labels line).lookup k = some v → LabelFileSafe k v := by
  unfold labelLine
  split_ifs
  · exact h
  · split
    · rename_i k' v' hsplit
      intro k v hkv
      rcases (lookup_insert_eq_some labels).mp hkv with ⟨rfl, rfl⟩ | ⟨-, hkv⟩
      · exact labelFileSafe_of_split hline hsplit
      · exact h k v hkv
    · exact h

theorem labelFileSafe_parseLabelFile {data : String} {m : GoMap String String}
    (hm : parseLabelFile (.ok data) = .ok m) : ∀ k v, m.lookup k = some v → LabelFileSafe k v := by
  rw [parseLabelFile, Except.ok.injEq] at hm
  subst hm
  -- every line of the file is a part of the split at newlines, and holds none
  refine List.foldlRecOn (motive := fun labels : GoMap String String =>
      ∀ k v, labels.lookup k = some v → LabelFileSafe k v) _ _ (by simp) fun labels h line hline => ?_
  exact labelLine_safe h (Strings.mem_split hline).1

/-- A label file with a line that is no label, and a value that holds an `=`. -/
def messyLabelFile : String := "app=\"synheart-agent\"\nnot a label\nquery=\"a=b\"\n"

theorem labelFileSafe_parseLabelFile_messy :
    ∃ m, parseLabelFile (.ok messyLabelFile) = .ok m ∧ ∀ k v, m.lookup k = some v → LabelFileSafe k v :=
  ⟨_, rfl, labelFileSafe_parseLabelFile rfl⟩

end Parsed

end SyntheticHeart
