import DesktopPool.Config.Store
import DesktopPool.Proofs.Config.ReadBack

/-! Saving settings and loading them again. A save that succeeds leaves the file it chose
holding the text it wrote, and a load from the same place finds that file and reads it. What
reading the text gives is the TOML layer's part. Where the layer reads the written document as
the entries written laid over those kept from the old file, the load gives the saved settings
back, provided no kept entry is under the key of a field the settings leave null. Such an entry
is the one thing a save does not overwrite: no entry is written for a null field, so an old
value under its key survives and is read in place of the default. -/
namespace DesktopPool

theorem Table.lookup_of_mem_keys {kvs : List (String × Value)} {k : String}
    (held : k ∈ Table.keys kvs) : ∃ v, kvs.lookup k = some v := by
  cases found : kvs.lookup k with
  | some v => exact ⟨v, rfl⟩
  | none =>
    obtain ⟨e, member, rfl⟩ := List.mem_map.mp held
    have differ := List.lookup_eq_none_iff.mp found e member
    simp at differ

namespace Disk

/-- A file put last, after every entry at its path was taken out, is found with its text. -/
theorem lookup_filter_append (files : List (Path × String)) {p : Path}
    {keep : Path × String → Bool} (drops : ∀ e, e.1 = p → keep e = false) (t : String) :
    ((files.filter keep) ++ [(p, t)]).lookup p = some t := by
  induction files with
  | nil => simp
  | cons e rest later =>
    obtain ⟨f, u⟩ := e
    by_cases kept : keep (f, u) = true
    · have elsewhere : (p == f) = false := by
        rw [beq_eq_false_iff_ne]
        intro same
        simp [drops (f, u) same.symm] at kept
      simp [kept, List.lookup_cons, elsewhere, later]
    · simp [kept, later]

theorem write_lookup {d d' : Disk} {p : Path} {text : String} (wrote : d.write p text = .ok d') :
    d'.files.lookup p = some text := by
  unfold write at wrote
  split at wrote
  · cases wrote
  split at wrote
  · cases wrote
  split at wrote
  · cases wrote
  cases wrote
  exact lookup_filter_append d.files (fun e same => by simp [same]) text

theorem replace_lookup {d d' : Disk} {src dst : Path} {t : String}
    (found : d.files.lookup src = some t) (moved : d.replace src dst = .ok d') :
    d'.files.lookup dst = some t := by
  unfold replace at moved
  split at moved
  · cases moved
  simp only [found, Except.ok.injEq] at moved
  subst moved
  refine lookup_filter_append d.files (fun e same => ?_) t
  obtain ⟨f, u⟩ := e
  simp only at same
  simp [same]

theorem readRaw_of_lookup {d : Disk} {p : Path} {t : String} (found : d.files.lookup p = some t) :
    d.readRaw p = .ok t := by
  simp [readRaw, found]

theorem mem_of_lookup {files : List (Path × String)} {p : Path} {t : String}
    (found : files.lookup p = some t) : (p, t) ∈ files := by
  induction files with
  | nil => simp at found
  | cons e rest later =>
    obtain ⟨f, u⟩ := e
    by_cases same : p = f
    · subst same
      simp only [List.lookup_cons, beq_self_eq_true, Option.some.injEq] at found
      simp [found]
    · have differ : (p == f) = false := by simpa using same
      simp only [List.lookup_cons, differ] at found
      exact List.mem_cons_of_mem _ (later found)

theorem present_of_lookup {d : Disk} {p : Path} {t : String} (found : d.files.lookup p = some t) :
    d.present p = true := by
  have file : d.isFile p = true := List.any_eq_true.mpr ⟨(p, t), mem_of_lookup found, by simp⟩
  simp [present, file]

/-- A save that succeeds chose its file as `target` does, made the text of the settings for it,
and left that text in the file. -/
theorem saveSteps_ok {d d' : Disk} {p : Places} {s : Settings} {given : Option String}
    {path : Path} {temp : Option Path} (saved : d.saveSteps p s given = (.ok path, temp, d')) :
    ∃ d₁ text, d.target p given = .ok (path, d₁) ∧ d₁.settingsText path s = .ok text ∧
      d'.files.lookup path = some text := by
  cases placed : d.target p given with
  | error f => simp [saveSteps, placed] at saved
  | ok chosen =>
    obtain ⟨path₀, d₁⟩ := chosen
    cases named : tempOf path₀ with
    | error f => simp [saveSteps, placed, named] at saved
    | ok t =>
      cases written : d₁.settingsText path₀ s with
      | error f => simp [saveSteps, placed, named, written] at saved
      | ok text =>
        cases wrote : d₁.write t text with
        | error f => simp [saveSteps, placed, named, written, wrote] at saved
        | ok d₂ =>
          cases moved : d₂.replace t path₀ with
          | error f => simp [saveSteps, placed, named, written, wrote, moved] at saved
          | ok d₃ =>
            simp only [saveSteps, placed, named, written, wrote, moved, Prod.mk.injEq,
              Except.ok.injEq] at saved
            obtain ⟨rfl, -, rfl⟩ := saved
            exact ⟨d₁, text, rfl, written, replace_lookup (write_lookup wrote) moved⟩

theorem saveSettings_ok {d d' : Disk} {p : Places} {s : Settings} {given : Option String}
    {path : Path} (saved : d.saveSettings p s given = (.ok path, d')) :
    ∃ d₁ text, d.target p given = .ok (path, d₁) ∧ d₁.settingsText path s = .ok text ∧
      d'.files.lookup path = some text := by
  rcases steps : d.saveSteps p s given with ⟨outcome, temp, d₂⟩
  unfold saveSettings at saved
  rw [steps] at saved
  cases outcome with
  | ok path₀ =>
    simp only [Prod.mk.injEq, Except.ok.injEq] at saved
    obtain ⟨rfl, rfl⟩ := saved
    exact saveSteps_ok steps
  | error f =>
    rcases temp with _ | t
    · simp at saved
    · simp only at saved
      split at saved
      · cases saved
      split at saved <;> cases saved

/-- The file a save chose is the one a load looks for, once it is there. -/
theorem locate_target {d d₁ e : Disk} {p : Places} {given : Option String} {path : Path}
    (placed : d.target p given = .ok (path, d₁)) (there : e.present path = true) :
    e.locate p given = .ok path := by
  cases given with
  | none =>
    simp only [target, target.ensureDefault] at placed
    split at placed
    · simp only [Except.ok.injEq, Prod.mk.injEq] at placed
      obtain ⟨rfl, -⟩ := placed
      rfl
    · cases placed
  | some text =>
    by_cases empty : text.isEmpty = true
    · simp only [target, empty, if_true, target.ensureDefault] at placed
      split at placed
      · simp only [Except.ok.injEq, Prod.mk.injEq] at placed
        obtain ⟨rfl, -⟩ := placed
        simp [locate, empty]
      · cases placed
    · cases checked : p.check text with
      | error f => simp [target, empty, checked] at placed
      | ok path₀ =>
        cases made : d.makeDirs path₀.parent with
        | error f => simp [target, empty, checked, made] at placed
        | ok d₂ =>
          simp only [target, empty, checked, made, Bool.false_eq_true, if_false, bind, Except.bind,
            pure, Except.pure, Except.ok.injEq, Prod.mk.injEq] at placed
          obtain ⟨rfl, -⟩ := placed
          simp [locate, empty, checked, there]

theorem loadSettings_found {e : Disk} {p : Places} {given : Option String} {path : Path}
    {text : String} (located : e.locate p given = .ok path) (found : e.files.lookup path = some text) :
    e.loadSettings p given =
      (Toml.read text >>= Settings.ofValue).mapError (Fault.wrap "Failed to load config: ") := by
  simp [loadSettings, located, present_of_lookup found, readSettings, readRaw_of_lookup found]

/-- Settings saved and loaded again come back, where the TOML layer reads the file the save
left as the entries written laid over entries kept from before, and no kept entry is under the
key of a field the settings leave null. -/
theorem saved_settings_load_back {d d' : Disk} {p : Places} {s : Settings} {given : Option String}
    {path : Path} (checked : s.Checked) (back : s.readsBack = true)
    (saved : d.saveSettings p s given = (.ok path, d')) {kept : List (String × Value)}
    (unstale : ∀ k v, s.toTable.lookup k = some v → v.isNull = true → kept.lookup k = none)
    (identity : ∀ text, d'.files.lookup path = some text → ∃ kvs,
      Toml.read text = .ok (.table kvs) ∧
        ∀ k, kvs.lookup k = ((Value.dropNullEntries s.toTable).lookup k).or (kept.lookup k)) :
    d'.loadSettings p given = .ok s := by
  obtain ⟨d₁, text, placed, -, found⟩ := saveSettings_ok saved
  obtain ⟨kvs, reads, overlaid⟩ := identity text found
  have agree : ∀ k ∈ Table.keys ({} : Settings).toTable,
      kvs.lookup k = (Value.dropNullEntries s.toTable).lookup k := by
    intro k known
    rw [overlaid k]
    -- a field is written unless it is null, and no kept entry stands under a null field
    cases written : (Value.dropNullEntries s.toTable).lookup k with
    | some v => rfl
    | none =>
      obtain ⟨v, field⟩ : ∃ v, s.toTable.lookup k = some v := Table.lookup_of_mem_keys known
      have null : v.isNull = true := by
        rw [lookup_dropNullEntries (Settings.keys_distinct s), field] at written
        cases isNull : v.isNull
        · simp [isNull, Option.filter_some] at written
        · rfl
      simp [unstale k v field null]
  rw [loadSettings_found (locate_target placed (present_of_lookup found)) found, reads,
    Outcome.ok_bind, Settings.ofValue_agreeing checked back agree]
  rfl

end Disk

end DesktopPool
