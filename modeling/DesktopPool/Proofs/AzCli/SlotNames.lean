import DesktopPool.AzCli.Directory
import DesktopPool.Proofs.Value.Whole

/-! Slot names read back. A slot of workload `w` is named `prefix ++ w ++ suffix`, and the
directory reads an application group's workload from its `vmid` tag, or else from the text its
name holds strictly between the prefix and the suffix. For every text prefix and suffix, even
ones that overlap inside a short name, the reading gives back exactly the workloads that are
not empty, and a name read as a workload is that workload's slot name
(`slot_names_round_trip`). -/
namespace DesktopPool.AzCli


theorem endsWith_iff (s p : String) : s.endsWith p = true ↔ p.toList <:+ s.toList := by
  simp [← String.endsWith_toSlice, String.Slice.endsWith_string_eq_endsWith_toSlice]

theorem between_joined (pre w suf : String) (filled : w ≠ "") :
    between pre suf (pre ++ w ++ suf) = some w := by
  have size : (pre ++ w ++ suf).length = pre.length + w.length + suf.length := by
    simp [String.length_append]
  have inner : ((pre ++ w ++ suf).toList.drop pre.length).take
      ((pre ++ w ++ suf).length - pre.length - suf.length) = w.toList := by
    rw [size, show pre.length + w.length + suf.length - pre.length - suf.length = w.length by omega]
    simp [← String.length_toList]
  have full : w.toList.isEmpty = false := by simpa using filled
  unfold between
  dsimp only
  rw [inner, size, full, if_neg (by simp), String.ofList_toList]

theorem eq_joined_of_between {pre suf name w : String} (starts : pre.toList <+: name.toList)
    (ends : suf.toList <:+ name.toList) (found : between pre suf name = some w) :
    name = pre ++ w ++ suf ∧ w ≠ "" := by
  unfold between at found
  dsimp only at found
  split at found
  · cases found
  · next long =>
    simp only [Bool.or_eq_true, decide_eq_true_eq, not_or, List.isEmpty_iff] at long
    obtain ⟨fits, full⟩ := long
    cases found
    rw [List.prefix_iff_eq_take] at starts
    rw [List.suffix_iff_eq_drop] at ends
    refine ⟨?_, by simpa using full⟩
    rw [← String.toList_inj]
    simp only [String.toList_append, String.toList_ofList]
    rw [starts, ends]
    simp only [String.length_toList]
    -- the prefix and the text between run up to where the suffix starts
    rw [← List.take_add, show pre.length + (name.length - pre.length - suf.length) =
      name.length - suf.length by omega, ← String.length_toList, List.take_append_drop]


/-- An application group entry with no workload tag: its tags are missing or false, or a table
whose `vmid` entry is missing or false. -/
def Untagged (kvs : List (String × Value)) : Prop :=
  match (kvs.lookup "tags").getD .null with
  | .table tags => ((tags.lookup workloadTag).getD .null).truthy = false
  | v => v.truthy = false

theorem untagged_tag {kvs : List (String × Value)} (untagged : Untagged kvs) :
    ∃ v, ((((kvs.lookup "tags").getD .null).orElse (.table [])).entry workloadTag) = .ok v ∧
      v.truthy = false := by
  unfold Untagged at untagged
  split at untagged
  · next tags read =>
    rw [read]
    by_cases filled : (Value.table tags).truthy = true
    · exact ⟨_, by simp [Value.orElse, filled, Value.entry, Value.entryD], untagged⟩
    · have empty : tags = [] := by simpa [Value.truthy] using filled
      subst empty
      exact ⟨.null, rfl, rfl⟩
  · next v notTable =>
    exact ⟨.null, by simp [Value.orElse, untagged, Value.entry, Value.entryD], rfl⟩

/-- An untagged entry named by text is read by its name alone: the text between the prefix and
the suffix when it has both and something lies between them, null otherwise. -/
theorem workloadOf_text {t : DirectoryTarget} {kvs : List (String × Value)} {x pre suf : String}
    (untagged : Untagged kvs) (named : ((kvs.lookup "name").getD .null).orElse (.str "") = .str x)
    (prefixText : t.slotPrefix = .str pre) (suffixText : t.slotSuffix = .str suf) :
    workloadOf t (.table kvs) =
      .ok (if x.startsWith pre && x.endsWith suf then ((between pre suf x).map .str).getD .null
        else .null) := by
  obtain ⟨v, tagged, falsy⟩ := untagged_tag untagged
  have entry (k : String) : (Value.table kvs).entry k = .ok ((kvs.lookup k).getD .null) := rfl
  unfold workloadOf
  simp only [entry, Outcome.ok_bind, tagged, falsy, named, prefixText, suffixText, Value.startsWith,
    Value.endsWith, Value.textFor, Value.argumentFor, Bool.false_eq_true, if_false, Outcome.pure_ok]
  cases x.startsWith pre <;> cases x.endsWith suf <;> rfl

/-- An untagged entry whose name, read as `name or ""`, is not text cannot be read: the prefix
test needs text. -/
theorem workloadOf_untextual {t : DirectoryTarget} {kvs : List (String × Value)} {pre : String}
    (untagged : Untagged kvs) (notText : ∀ x, ((kvs.lookup "name").getD .null).orElse (.str "") ≠ .str x)
    (prefixText : t.slotPrefix = .str pre) : ∃ e, workloadOf t (.table kvs) = .error e := by
  obtain ⟨v, tagged, falsy⟩ := untagged_tag untagged
  have entry (k : String) : (Value.table kvs).entry k = .ok ((kvs.lookup k).getD .null) := rfl
  unfold workloadOf
  simp only [entry, Outcome.ok_bind, tagged, falsy, prefixText, Value.startsWith, Value.textFor,
    Bool.false_eq_true, if_false]
  exact ⟨_, rfl⟩

/-- A truthy workload tag is the workload, whatever the name says. -/
theorem workloadOf_tagged {t : DirectoryTarget} {kvs tags : List (String × Value)} {tag : Value}
    (tagged : kvs.lookup "tags" = some (.table tags)) (found : tags.lookup workloadTag = some tag)
    (truthy : tag.truthy = true) : workloadOf t (.table kvs) = .ok tag := by
  have filled : (Value.table tags).truthy = true := by
    cases tags with
    | nil => cases found
    | cons _ _ => rfl
  unfold workloadOf
  simp [Value.entry, Value.entryD, tagged, Value.orElse, filled, found, truthy]

theorem ofSettings_slots {s : Settings} {t : DirectoryTarget} (built : DirectoryTarget.ofSettings s = .ok t) :
    t.slotPrefix = s.appGroupPrefix ∧ t.slotSuffix = s.slotSuffix := by
  unfold DirectoryTarget.ofSettings at built
  dsimp only at built
  split at built
  · cases built
  · cases built
    exact ⟨rfl, rfl⟩

theorem name_orElse {kvs : List (String × Value)} {x : String} (named : kvs.lookup "name" = some (.str x))
    (filled : x ≠ "") : ((kvs.lookup "name").getD .null).orElse (.str "") = .str x := by
  simp [named, Value.orElse, Value.truthy, filled]

theorem lookup_of_orElse {kvs : List (String × Value)} {x : String}
    (named : ((kvs.lookup "name").getD .null).orElse (.str "") = .str x) (filled : x ≠ "") :
    kvs.lookup "name" = some (.str x) := by
  unfold Value.orElse at named
  split at named
  · cases found : kvs.lookup "name" with
    | none => simp [found, Value.truthy] at *
    | some v => simp_all
  · cases named
    exact absurd rfl filled

/-- Slot names read back. With text prefix `pre` and suffix `suf` in the settings, the directory
built from them reads the workload `w` from an untagged entry named by the slot name of `w`, for
every `w` that is not empty; an untagged entry read as a workload at all is named by that
workload's slot name; and a truthy workload tag is read whatever the name. -/
theorem slot_names_round_trip {s : Settings} {t : DirectoryTarget} {pre suf : String}
    (built : DirectoryTarget.ofSettings s = .ok t) (prefixText : s.appGroupPrefix = .str pre)
    (suffixText : s.slotSuffix = .str suf) :
    (∀ (w : String) (kvs : List (String × Value)), w ≠ "" → Untagged kvs →
      kvs.lookup "name" = some (.str (s.slotName (.str w))) → workloadOf t (.table kvs) = .ok (.str w)) ∧
    (∀ (kvs : List (String × Value)) (v : Value), Untagged kvs → workloadOf t (.table kvs) = .ok v →
      v ≠ .null → ∃ w, v = .str w ∧ w ≠ "" ∧ kvs.lookup "name" = some (.str (s.slotName (.str w)))) ∧
    (∀ (kvs tags : List (String × Value)) (tag : Value), kvs.lookup "tags" = some (.table tags) →
      tags.lookup workloadTag = some tag → tag.truthy = true → workloadOf t (.table kvs) = .ok tag) := by
  obtain ⟨tPrefix, tSuffix⟩ := ofSettings_slots built
  rw [prefixText] at tPrefix
  rw [suffixText] at tSuffix
  have slot (w : String) : s.slotName (.str w) = pre ++ w ++ suf := by
    simp [Settings.slotName, prefixText, suffixText, Value.text]
  refine ⟨?_, ?_, fun kvs tags tag => workloadOf_tagged⟩
  · intro w kvs filled untagged named
    rw [slot] at named
    have joinedFilled : pre ++ w ++ suf ≠ "" := by
      simp [filled]
    rw [workloadOf_text untagged (name_orElse named joinedFilled) tPrefix tSuffix]
    have starts : (pre ++ w ++ suf).startsWith pre = true := by
      simp [String.startsWith_string_iff]
    have ends : (pre ++ w ++ suf).endsWith suf = true := by
      rw [endsWith_iff, String.toList_append]
      exact List.suffix_append _ _
    simp [starts, ends, between_joined pre w suf filled]
  · intro kvs v untagged read present
    -- an entry read at all is named by text, and read by its name alone
    by_cases text : ∃ x, ((kvs.lookup "name").getD .null).orElse (.str "") = .str x
    · obtain ⟨x, named⟩ := text
      rw [workloadOf_text untagged named tPrefix tSuffix] at read
      have value := Except.ok.inj read
      by_cases both : (x.startsWith pre && x.endsWith suf) = true
      · rw [if_pos both] at value
        cases found : between pre suf x with
        | none =>
          rw [found] at value
          exact absurd value.symm present
        | some w =>
          rw [Bool.and_eq_true] at both
          obtain ⟨joined, filled⟩ := eq_joined_of_between (String.startsWith_string_iff.mp both.1)
            ((endsWith_iff _ _).mp both.2) found
          rw [found] at value
          refine ⟨w, value.symm, filled, ?_⟩
          rw [slot, ← joined]
          exact lookup_of_orElse named (by simp [joined, filled])
      · rw [if_neg both] at value
        exact absurd value.symm present
    · obtain ⟨e, failed⟩ := workloadOf_untextual untagged (by simpa using text) tPrefix
      rw [failed] at read
      cases read

/-- A prefix and a suffix that overlap in `aba`: the slot of `x` is `abxba`, read back as `x`. -/
theorem overlapping_affixes_read_back :
    let s : Settings := { resourceGroup := .str "rg", appGroupPrefix := .str "ab", slotSuffix := .str "ba" }
    let t : DirectoryTarget := ⟨.str "rg", .str "ab", .str "ba", s.timeouts.readyPoll, s.location⟩
    DirectoryTarget.ofSettings s = .ok t ∧ s.appGroupPrefix = .str "ab" ∧ s.slotSuffix = .str "ba" ∧
      workloadOf t (.table [("name", .str (s.slotName (.str "x")))]) = .ok (.str "x") := by
  intro s t
  have built : DirectoryTarget.ofSettings s = .ok t := rfl
  have untagged : Untagged [("name", .str (s.slotName (.str "x")))] := rfl
  exact ⟨built, rfl, rfl,
    (slot_names_round_trip built rfl rfl).1 "x" _ (by decide) untagged rfl⟩

end DesktopPool.AzCli
