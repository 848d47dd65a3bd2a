import DesktopPool.Proofs.AzCli.Secrets

/-! Masking is positional. The masked form of a command has its length, holds `***` right after
each sensitive flag of the command as given, and the command's own argument everywhere else.
The test reads the command as given, so a flag right after a flag is masked and still masks its
own successor. A masked argument is no flag, so masking a masked command changes nothing
(`mask_positional_idempotent`). -/
namespace DesktopPool.Command

theorem isSensitive_iff (a : Value) : isSensitive a = true ↔ ∃ f ∈ sensitiveFlags, a = .str f := by
  cases a <;> simp [isSensitive, Value.isText]

theorem hides_iff (cmd : List Value) (j : Nat) :
    hides cmd j = true ↔ 1 ≤ j ∧ ∃ f ∈ sensitiveFlags, cmd[j - 1]? = some (.str f) := by
  unfold hides
  rw [List.getD_eq_getElem?_getD]
  cases cmd[j - 1]? <;> simp [isSensitive_iff]

theorem isSensitive_mask_word : isSensitive (.str "***") = false := by decide

theorem length_mask (cmd : List Value) : (mask cmd).length = cmd.length := by
  simp [mask]

/-- A position hidden in the masked command was hidden in the command: the argument before it
is still a flag after masking, so masking kept it. -/
theorem hides_of_hides_mask {cmd : List Value} {j : Nat} (hidden : hides (mask cmd) j = true) :
    hides cmd j = true := by
  unfold hides at hidden ⊢
  rw [List.getD_eq_getElem?_getD, getElem?_mask] at hidden
  rw [List.getD_eq_getElem?_getD]
  cases before : cmd[j - 1]? with
  | none => simp [before, isSensitive, Value.isText] at hidden
  | some a =>
    by_cases masked : hides cmd (j - 1) = true
    · simp [before, masked, isSensitive_mask_word] at hidden
    · simpa [before, masked] using hidden

theorem mask_mask (cmd : List Value) : mask (mask cmd) = mask cmd := by
  apply List.ext_getElem?
  intro j
  rw [getElem?_mask (mask cmd), getElem?_mask cmd]
  -- a position the second pass hides already holds the mask after the first
  by_cases again : hides (mask cmd) j = true
  · simp [again, hides_of_hides_mask again, Option.map_map, Function.comp_def]
  · simp [again, Function.comp_def]

/-- Masking keeps the length of a command, puts `***` at every position right after a
sensitive flag of the command as given and keeps every other argument; masking twice is masking
once. -/
theorem mask_positional_idempotent (cmd : List Value) :
    (mask cmd).length = cmd.length ∧
    (∀ j, j < cmd.length → (1 ≤ j ∧ ∃ f ∈ sensitiveFlags, cmd[j - 1]? = some (.str f)) →
      (mask cmd)[j]? = some (.str "***")) ∧
    (∀ j, ¬(1 ≤ j ∧ ∃ f ∈ sensitiveFlags, cmd[j - 1]? = some (.str f)) → (mask cmd)[j]? = cmd[j]?) ∧
    mask (mask cmd) = mask cmd := by
  refine ⟨length_mask cmd, ?_, ?_, mask_mask cmd⟩
  · intro j inside flagged
    rw [getElem?_mask, List.getElem?_eq_getElem inside, (hides_iff cmd j).mpr flagged]
    rfl
  · intro j plain
    have shown : hides cmd j = false := by
      simpa [← hides_iff] using plain
    rw [getElem?_mask, shown]
    simp

/-- Two flags in a row: the second is masked, and masks the argument after it. -/
example : mask (AzCli.words ["az", "--password", "--script", "x"]) =
    AzCli.words ["az", "--password", "***", "***"] := by
  rfl

end DesktopPool.Command
