import DesktopPool.Config.Settings
import DesktopPool.Proofs.Value.Whole

/-! Reading back the table view of settings. The view leaves out null entries at every depth of
nested tables, and reading fills in a default for each field that is missing, section by
section. The two agree on a field exactly when it is null only where its default is null and
holds no null inside one of its tables. For settings whose fields all agree so and whose
sections pass their checks, reading the table view gives the settings back. -/
namespace DesktopPool

namespace Value

mutual
/-- No table inside the value, at any depth, has a null entry. -/
def nullFree : Value → Bool
  | .table kvs => entriesNullFree kvs
  | _ => true

def entriesNullFree : List (String × Value) → Bool
  | [] => true
  | (_, v) :: rest => !v.isNull && v.nullFree && entriesNullFree rest
end

mutual
theorem dropNulls_of_nullFree : ∀ v : Value, v.nullFree = true → v.dropNulls = v
  | .table kvs, free => by
    rw [dropNulls, dropNullEntries_of_nullFree kvs free]
  | .null, _ | .bool _, _ | .int _, _ | .float _, _ | .str _, _ | .list _, _ | .moment _, _ => rfl

theorem dropNullEntries_of_nullFree :
    ∀ kvs : List (String × Value), entriesNullFree kvs = true → dropNullEntries kvs = kvs
  | [], _ => rfl
  | (k, v) :: rest, free => by
    simp only [entriesNullFree, Bool.and_eq_true, Bool.not_eq_true'] at free
    obtain ⟨⟨present, inner⟩, later⟩ := free
    rw [dropNullEntries, if_neg (by simp [present]), dropNulls_of_nullFree v inner,
      dropNullEntries_of_nullFree rest later]
end

/-- A field value that the table view gives back against its default `dflt`: null only where
the default is null, and no null inside one of its tables. -/
def readsBack (dflt v : Value) : Bool := (!v.isNull || dflt.isNull) && v.nullFree

theorem readsBack_restores {dflt v : Value} (back : dflt.readsBack v = true) :
    (if v.isNull then dflt else v.dropNulls) = v := by
  simp only [readsBack, Bool.and_eq_true, Bool.or_eq_true, Bool.not_eq_true'] at back
  obtain ⟨nulls, free⟩ := back
  cases null : v.isNull
  · simp [dropNulls_of_nullFree v free]
  · -- a null field falls back on its default, which is null as well
    have fallback : dflt.isNull = true := by simpa [null] using nulls
    cases v <;> cases dflt <;> simp_all [isNull]

end Value

def entriesReadBack (defaults kvs : List (String × Value)) : Bool :=
  (List.zipWith (fun d e => Value.readsBack d.2 e.2) defaults kvs).and

theorem key_of_mem_dropNullEntries {kvs : List (String × Value)} {e : String × Value}
    (kept : e ∈ Value.dropNullEntries kvs) : e.1 ∈ Table.keys kvs := by
  induction kvs with
  | nil => simp [Value.dropNullEntries] at kept
  | cons entry rest later =>
    obtain ⟨k, v⟩ := entry
    simp only [Value.dropNullEntries] at kept
    split at kept
    · exact List.mem_cons_of_mem _ (later kept)
    · rcases List.mem_cons.mp kept with first | inRest
      · exact first ▸ List.mem_cons_self
      · exact List.mem_cons_of_mem _ (later inRest)

/-- Looking a key up in the view of a table with distinct keys: the entry, unless it is null,
seen without its own nulls. -/
theorem lookup_dropNullEntries {kvs : List (String × Value)} (distinct : (Table.keys kvs).Nodup)
    (key : String) :
    (Value.dropNullEntries kvs).lookup key =
      ((kvs.lookup key).filter (!·.isNull)).map Value.dropNulls := by
  induction kvs with
  | nil => rfl
  | cons entry rest later =>
    obtain ⟨k, v⟩ := entry
    simp only [Table.keys, List.map_cons, List.nodup_cons] at distinct
    have inRest := later distinct.2
    by_cases same : key = k
    · subst same
      -- the key is held once, so the rest of the table does not hold it
      have absent : rest.lookup key = none := by
        rw [List.lookup_eq_none_iff]
        intro p member
        have held : p.1 ∈ rest.map (·.1) := List.mem_map_of_mem member
        have other : p.1 ≠ key := fun eq => distinct.1 (eq ▸ held)
        exact bne_iff_ne.mpr (Ne.symm other)
      cases null : v.isNull <;> simp [Value.dropNullEntries, null, inRest, absent, Option.filter_some]
    · have differ : (key == k) = false := by simpa using same
      cases null : v.isNull <;> simp [Value.dropNullEntries, null, inRest, List.lookup_cons, differ]

/-- A field read from the view of a table with distinct keys is the field as given, when it
reads back against the default the reading falls back on. -/
theorem fieldOr_dropNullEntries {kvs : List (String × Value)} {dflt v : Value}
    (distinct : (Table.keys kvs).Nodup) (key : String) (found : kvs.lookup key = some v)
    (back : dflt.readsBack v = true) :
    fieldOr (Value.dropNullEntries kvs) key dflt = v := by
  rw [fieldOr, lookup_dropNullEntries distinct, found]
  have restored := Value.readsBack_restores back
  cases null : v.isNull <;> simpa [null, Option.filter_some] using restored

theorem getD_dropNullEntries {kvs : List (String × Value)} {dflt v : Value}
    (distinct : (Table.keys kvs).Nodup) (key : String) (found : kvs.lookup key = some v)
    (back : dflt.readsBack v = true) :
    (Value.table (Value.dropNullEntries kvs)).getD key dflt = v :=
  fieldOr_dropNullEntries distinct key found back

theorem getD_dropNullEntries_table {kvs inner : List (String × Value)}
    (distinct : (Table.keys kvs).Nodup) (key : String) (found : kvs.lookup key = some (.table inner))
    (dflt : Value) :
    (Value.table (Value.dropNullEntries kvs)).getD key dflt = .table (Value.dropNullEntries inner) := by
  simp only [Value.getD, Value.get?, lookup_dropNullEntries distinct, found]
  rfl

theorem supplied_dropNullEntries {r : RecordShape} {kvs : List (String × Value)}
    (known : ∀ k ∈ Table.keys kvs, k ≠ "self" ∧ k ∈ r.fields) :
    r.supplied (.table (Value.dropNullEntries kvs)) = .ok (Value.dropNullEntries kvs) := by
  rw [RecordShape.supplied, List.find?_eq_none.mpr]
  rintro ⟨k, v⟩ kept
  obtain ⟨notSelf, field⟩ := known k (key_of_mem_dropNullEntries kept)
  simp [notSelf, field]

namespace Scaling

theorem ofValue_dropNullEntries {sc : Scaling} (checked : sc.validate = .ok sc)
    (back : entriesReadBack ({} : Scaling).toTable sc.toTable = true) :
    ofValue (.table (Value.dropNullEntries sc.toTable)) = .ok sc := by
  have distinct : (Table.keys sc.toTable).Nodup := by simp [toTable, Table.keys]
  simp only [entriesReadBack, toTable, List.zipWith_cons_cons, List.zipWith_nil_left,
    List.and_cons, List.and_nil, Bool.and_true, Bool.and_eq_true] at back
  obtain ⟨sessions, least, most, surplus⟩ := back
  rw [ofValue, supplied_dropNullEntries (by simp [toTable, shape, Table.keys]), Outcome.ok_bind]
  simp only []
  rw [fieldOr_dropNullEntries distinct "max_sessions_per_host" rfl sessions,
    fieldOr_dropNullEntries distinct "min_hosts" rfl least,
    fieldOr_dropNullEntries distinct "max_hosts" rfl most,
    fieldOr_dropNullEntries distinct "delete_on_scale_down" rfl surplus]
  exact checked

end Scaling

namespace Timeouts

theorem ofValue_dropNullEntries {t : Timeouts} (checked : t.validate = .ok t)
    (back : entriesReadBack ({} : Timeouts).toTable t.toTable = true) :
    ofValue (.table (Value.dropNullEntries t.toTable)) = .ok t := by
  have distinct : (Table.keys t.toTable).Nodup := by simp [toTable, Table.keys]
  simp only [entriesReadBack, toTable, List.zipWith_cons_cons, List.zipWith_nil_left,
    List.and_cons, List.and_nil, Bool.and_true, Bool.and_eq_true] at back
  obtain ⟨lock, resume, create, script, scriptPoll, readyPoll⟩ := back
  rw [ofValue, supplied_dropNullEntries (by simp [toTable, shape, Table.keys]), Outcome.ok_bind]
  simp only []
  rw [fieldOr_dropNullEntries distinct "lock_timeout_seconds" rfl lock,
    fieldOr_dropNullEntries distinct "resume_ready_timeout" rfl resume,
    fieldOr_dropNullEntries distinct "create_ready_timeout" rfl create,
    fieldOr_dropNullEntries distinct "script_timeout" rfl script,
    fieldOr_dropNullEntries distinct "script_poll_interval" rfl scriptPoll,
    fieldOr_dropNullEntries distinct "ready_poll_interval" rfl readyPoll]
  exact checked

end Timeouts

namespace HostTemplate

theorem ofValue_dropNullEntries {h : HostTemplate}
    (back : entriesReadBack ({} : HostTemplate).toTable h.toTable = true) :
    ofValue (.table (Value.dropNullEntries h.toTable)) = .ok h := by
  have distinct : (Table.keys h.toTable).Nodup := by simp [toTable, Table.keys]
  simp only [entriesReadBack, toTable, List.zipWith_cons_cons, List.zipWith_nil_left,
    List.and_cons, List.and_nil, Bool.and_true, Bool.and_eq_true] at back
  obtain ⟨prefix_, image, size, security, system, admin, password, tags⟩ := back
  rw [ofValue, supplied_dropNullEntries (by simp [toTable, shape, Table.keys]), Outcome.ok_bind]
  simp only []
  rw [fieldOr_dropNullEntries distinct "name_prefix" rfl prefix_,
    fieldOr_dropNullEntries distinct "image" rfl image,
    fieldOr_dropNullEntries distinct "size" rfl size,
    fieldOr_dropNullEntries distinct "security_type" rfl security,
    fieldOr_dropNullEntries distinct "operating_system" rfl system,
    fieldOr_dropNullEntries distinct "admin_username" rfl admin,
    fieldOr_dropNullEntries distinct "admin_password_env" rfl password,
    fieldOr_dropNullEntries distinct "tags" rfl tags]
  rfl

end HostTemplate

namespace SetupOptions

theorem ofValue_dropNullEntries {o : SetupOptions}
    (back : entriesReadBack ({} : SetupOptions).toTable o.toTable = true) :
    ofValue (.table (Value.dropNullEntries o.toTable)) = .ok o := by
  have distinct : (Table.keys o.toTable).Nodup := by simp [toTable, Table.keys]
  simp only [entriesReadBack, toTable, List.zipWith_cons_cons, List.zipWith_nil_left,
    List.and_cons, List.and_nil, Bool.and_true, Bool.and_eq_true] at back
  obtain ⟨domain, user, password, unit, agent, bootloader, restart, delay⟩ := back
  rw [ofValue, supplied_dropNullEntries (by simp [toTable, shape, Table.keys]), Outcome.ok_bind]
  simp only []
  rw [fieldOr_dropNullEntries distinct "domain_name" rfl domain,
    fieldOr_dropNullEntries distinct "domain_username" rfl user,
    fieldOr_dropNullEntries distinct "domain_password_env" rfl password,
    fieldOr_dropNullEntries distinct "organizational_unit_path" rfl unit,
    fieldOr_dropNullEntries distinct "avd_agent_url" rfl agent,
    fieldOr_dropNullEntries distinct "avd_bootloader_url" rfl bootloader,
    fieldOr_dropNullEntries distinct "restart_after_setup" rfl restart,
    fieldOr_dropNullEntries distinct "restart_delay_seconds" rfl delay]
  rfl

end SetupOptions

namespace Settings

/-- Settings whose sections pass their checks: the scaling bounds, the waits and the worker
count. -/
structure Checked (s : Settings) : Prop where
  scaling : s.scaling.validate = .ok s.scaling
  timeouts : s.timeouts.validate = .ok s.timeouts
  workers : s.checkWorkers = .ok s

def plainEntries (s : Settings) : List (String × Value) :=
  s.toTable.filter fun (k, _) => !sections.contains k

/-- Every field of the settings, at the top and in each section, reads back against its
default. -/
def readsBack (s : Settings) : Bool :=
  let d : Settings := {}
  entriesReadBack d.plainEntries s.plainEntries &&
    entriesReadBack d.scaling.toTable s.scaling.toTable &&
    entriesReadBack d.timeouts.toTable s.timeouts.toTable &&
    entriesReadBack d.template.toTable s.template.toTable &&
    entriesReadBack d.setup.toTable s.setup.toTable

theorem toValue_table (s : Settings) : s.toValue = .table (Value.dropNullEntries s.toTable) := rfl

theorem keys_distinct (s : Settings) : (Table.keys s.toTable).Nodup := by
  simp [toTable, Table.keys]

/-- Reading settings looks at their own keys only: tables that agree on those read alike. -/
theorem ofValue_congr {kvs kvs' : List (String × Value)}
    (agree : ∀ k ∈ Table.keys ({} : Settings).toTable, kvs.lookup k = kvs'.lookup k) :
    ofValue (.table kvs) = ofValue (.table kvs') := by
  simp only [Table.keys, toTable, List.map_cons, List.map_nil, List.mem_cons, List.not_mem_nil,
    or_false, forall_eq_or_imp, forall_eq] at agree
  obtain ⟨name, group, location, subnet, slotPrefix, suffix, spacePrefix, users, workers, sweep,
    scaling, timeouts, template, setup⟩ := agree
  simp only [ofValue, Value.getD, Value.get?, name, group, location, subnet, slotPrefix, suffix,
    spacePrefix, users, workers, sweep, scaling, timeouts, template, setup]

/-- A table that agrees with the view of checked settings on their keys, every field reading
back, gives the settings. -/
theorem ofValue_agreeing {s : Settings} (checked : s.Checked) (back : s.readsBack = true)
    {kvs : List (String × Value)} (agree : ∀ k ∈ Table.keys ({} : Settings).toTable,
      kvs.lookup k = (Value.dropNullEntries s.toTable).lookup k) :
    ofValue (.table kvs) = .ok s := by
  rw [ofValue_congr agree]
  simp only [readsBack, Bool.and_eq_true] at back
  obtain ⟨⟨⟨⟨plain, scaling⟩, timeouts⟩, template⟩, setup⟩ := back
  simp only [entriesReadBack, plainEntries, toTable, sections, List.filter_cons, List.contains_cons,
    List.contains_nil, String.reduceBEq, Bool.or_false, Bool.or_true, Bool.not_false,
    Bool.not_true, Bool.false_eq_true, ↓reduceIte, List.filter_nil, List.zipWith_cons_cons,
    List.zipWith_nil_left, List.and_cons, List.and_nil, Bool.and_true, Bool.and_eq_true] at plain
  obtain ⟨name, group, location, subnet, slotPrefix, suffix, spacePrefix, users, workers, sweep⟩ :=
    plain
  have distinct := keys_distinct s
  rw [ofValue]
  simp only [getD_dropNullEntries_table distinct "scaling" rfl,
    getD_dropNullEntries_table distinct "timeouts" rfl,
    getD_dropNullEntries_table distinct "host_template" rfl,
    getD_dropNullEntries_table distinct "setup_script" rfl,
    Scaling.ofValue_dropNullEntries checked.scaling scaling,
    Timeouts.ofValue_dropNullEntries checked.timeouts timeouts,
    HostTemplate.ofValue_dropNullEntries template, SetupOptions.ofValue_dropNullEntries setup,
    Outcome.ok_bind]
  rw [getD_dropNullEntries distinct "name" rfl name,
    getD_dropNullEntries distinct "resource_group" rfl group,
    getD_dropNullEntries distinct "location" rfl location,
    getD_dropNullEntries distinct "subnet_id" rfl subnet,
    getD_dropNullEntries distinct "app_group_prefix" rfl slotPrefix,
    getD_dropNullEntries distinct "slot_suffix" rfl suffix,
    getD_dropNullEntries distinct "workspace_prefix" rfl spacePrefix,
    getD_dropNullEntries distinct "users_group_id" rfl users,
    getD_dropNullEntries distinct "max_workers" rfl workers,
    getD_dropNullEntries distinct "sweep_orphaned_nodes" rfl sweep]
  exact checked.workers

theorem ofValue_toValue {s : Settings} (checked : s.Checked) (back : s.readsBack = true) :
    ofValue s.toValue = .ok s :=
  ofValue_agreeing checked back fun _ _ => rfl

/-- Settings of a pool whose hosts join a domain, with no subnet, users group or unit path
given: their table view leaves those out, and reading it gives the settings back. -/
theorem joined_settings_read_back :
    let s : Settings :=
      { name := .str "lab", resourceGroup := .str "rg-lab",
        timeouts := { lock := .int 60, resumeReady := .int 300, createReady := .int 600,
                      script := .int 1200, scriptPoll := .int 15, readyPoll := .int 10 },
        setup := { domainName := .str "corp.example", domainUsername := .str "joiner" } }
    s.Checked ∧ s.readsBack = true ∧ ofValue s.toValue = .ok s := by
  intro s
  have checked : s.Checked := ⟨rfl, rfl, rfl⟩
  have back : s.readsBack = true := by decide
  exact ⟨checked, back, ofValue_toValue checked back⟩

end Settings

end DesktopPool
