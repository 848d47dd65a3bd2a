import Mathlib.Data.List.TakeWhile
import DesktopPool.Host.Name
import DesktopPool.Pass.Lifecycle

/-! Host names read back. A directory that names the host of node `n` in pool `p` as `p/n.d`,
for a domain `d`, gives back `n` as the node id when the pool name starts with a character
other than `/`, the node id is nonempty and holds no `.` and no `/`, and the domain holds no
`/`. The node ids a pass draws are its name prefix followed by hex digits, so they hold a `.` or
a `/` exactly when the prefix does. -/
namespace DesktopPool

namespace HostName

theorem takeWhile_slash (p r : List Char) :
    (p ++ '/' :: r).takeWhile (· != '/') = p.takeWhile (· != '/') := by
  induction p with
  | nil => simp
  | cons c p ih => by_cases slash : c = '/' <;> simp [slash, ih]

theorem dropWhile_slash (p r : List Char) :
    (p ++ '/' :: r).dropWhile (· != '/') = p.dropWhile (· != '/') ++ '/' :: r := by
  rw [List.dropWhile_append]
  split
  · next done =>
    rw [List.isEmpty_iff.mp done]
    simp
  · rfl

theorem lastSegment_after (x r : List Char) (plain : '/' ∉ r) :
    (x ++ '/' :: r).reverse.takeWhile (· != '/') = r.reverse := by
  have kept : ∀ c ∈ r.reverse, (c != '/') = true := by
    intro c member
    have other : c ≠ '/' := fun same => plain (same ▸ List.mem_reverse.mp member)
    simpa using other
  rw [List.reverse_append, List.reverse_cons, List.append_assoc, List.takeWhile_append_of_pos kept]
  simp

theorem lastSegment_whole (r : List Char) (plain : '/' ∉ r) :
    r.reverse.takeWhile (· != '/') = r.reverse := by
  rw [List.takeWhile_eq_self_iff]
  intro c member
  have other : c ≠ '/' := fun same => plain (same ▸ List.mem_reverse.mp member)
  simpa using other

theorem firstLabel_built (node domain : List Char) (plain : '.' ∉ node) :
    (node ++ '.' :: domain).takeWhile (· != '.') = node := by
  have kept : ∀ c ∈ node, (c != '.') = true := by
    intro c member
    have other : c ≠ '.' := fun same => plain (same ▸ member)
    simpa using other
  rw [List.takeWhile_append_of_pos kept]
  simp

theorem rest_built (p rest : List Char) :
    ((p.dropWhile (· != '/') ++ '/' :: rest).drop 1 = rest) ∨
      ∃ x, (p.dropWhile (· != '/') ++ '/' :: rest).drop 1 = x ++ '/' :: rest := by
  rcases p.dropWhile (· != '/') with _ | ⟨c, x⟩
  · exact .inl rfl
  · exact .inr ⟨x, rfl⟩

/-- A name built as the in-memory directory builds it parses back to its node id. -/
theorem parse_built (pool node domain : String) (poolStart : ∃ c cs, pool.toList = c :: cs ∧ c ≠ '/')
    (nodeFilled : node ≠ "") (nodeDot : '.' ∉ node.toList) (nodeSlash : '/' ∉ node.toList)
    (domainSlash : '/' ∉ domain.toList) :
    parse (pool ++ "/" ++ node ++ "." ++ domain) =
      .ok ⟨String.ofList (pool.toList.takeWhile (· != '/')), node ++ "." ++ domain, node⟩ := by
  obtain ⟨c, cs, starts, notSlash⟩ := poolStart
  have hostPart : (node ++ "." ++ domain).toList = node.toList ++ '.' :: domain.toList := by
    simp [String.toList_append]
  have restPlain : '/' ∉ node.toList ++ '.' :: domain.toList := by
    simp [nodeSlash, domainSlash]
  -- the first slash is the one after the pool name, or one inside it
  have split : splitFirst (pool ++ "/" ++ node ++ "." ++ domain) =
      some (String.ofList (pool.toList.takeWhile (· != '/')), String.ofList
        ((pool.toList.dropWhile (· != '/') ++ '/' :: (node.toList ++ '.' :: domain.toList)).drop 1)) := by
    have whole : (pool ++ "/" ++ node ++ "." ++ domain).toList =
        pool.toList ++ '/' :: (node.toList ++ '.' :: domain.toList) := by
      simp [String.toList_append]
    unfold splitFirst
    simp only [whole, List.contains_iff_mem, List.mem_append, List.mem_cons, true_or, or_true,
      if_true, takeWhile_slash, dropWhile_slash]
  have poolFilled : String.ofList (pool.toList.takeWhile (· != '/')) ≠ "" := by
    simp [String.ofList_eq_empty_iff, starts, notSlash]
  have restFilled : String.ofList ((pool.toList.dropWhile (· != '/') ++
      '/' :: (node.toList ++ '.' :: domain.toList)).drop 1) ≠ "" := by
    rw [Ne, String.ofList_eq_empty_iff]
    rcases rest_built pool.toList (node.toList ++ '.' :: domain.toList) with same | ⟨x, after⟩
    · simp [same]
    · simp [after]
  have display : lastSegment (String.ofList
      ((pool.toList.dropWhile (· != '/') ++ '/' :: (node.toList ++ '.' :: domain.toList)).drop 1)) =
      node ++ "." ++ domain := by
    unfold lastSegment
    rw [String.toList_ofList]
    rcases rest_built pool.toList (node.toList ++ '.' :: domain.toList) with same | ⟨x, after⟩
    · rw [same, lastSegment_whole _ restPlain, List.reverse_reverse, ← hostPart, String.ofList_toList]
    · rw [after, lastSegment_after x _ restPlain, List.reverse_reverse, ← hostPart,
        String.ofList_toList]
  have label : firstLabel (node ++ "." ++ domain) = node := by
    unfold firstLabel
    rw [hostPart, firstLabel_built _ _ nodeDot, String.ofList_toList]
  unfold parse
  simp only [split, String.isEmpty_eq_false_iff.mpr poolFilled, String.isEmpty_eq_false_iff.mpr restFilled,
    Bool.or_false, Bool.false_eq_true, if_false, display, label,
    String.isEmpty_eq_false_iff.mpr nodeFilled]

end HostName

namespace Lifecycle

theorem digitChar_plain (d : Nat) : d.digitChar ≠ '.' ∧ d.digitChar ≠ '/' := by
  match d with
  | 0 | 1 | 2 | 3 | 4 | 5 | 6 | 7 | 8 | 9 | 10 | 11 | 12 | 13 | 14 | 15 => decide
  | d + 16 => simp [Nat.digitChar]

theorem mem_toDigitsCore {b fuel n : Nat} {cs : List Char} {c : Char}
    (member : c ∈ Nat.toDigitsCore b fuel n cs) : c ∈ cs ∨ ∃ d : Nat, c = d.digitChar := by
  induction fuel generalizing n cs with
  | zero => exact .inl member
  | succ fuel later =>
    simp only [Nat.toDigitsCore] at member
    have front : c ∈ (n % b).digitChar :: cs → c ∈ cs ∨ ∃ d : Nat, c = d.digitChar := by
      intro placed
      rcases List.mem_cons.mp placed with first | rest
      · exact .inr ⟨_, first⟩
      · exact .inl rest
    split at member
    · exact front member
    · rcases later member with placed | digit
      · exact front placed
      · exact .inr digit

theorem hexDigits_plain (width n : Nat) {c : Char} (member : c ∈ (Text.hexDigits width n).toList) :
    c ≠ '.' ∧ c ≠ '/' := by
  simp only [Text.hexDigits, String.toList_append, String.toList_ofList, List.mem_append,
    List.mem_replicate] at member
  rcases member with ⟨-, zero⟩ | digit
  · rw [zero]
    decide
  · rcases mem_toDigitsCore digit with none | ⟨d, rfl⟩
    · cases none
    · exact digitChar_plain d

/-- A node id a pass draws is never empty, and holds a `.` or a `/` only where the name prefix
does. -/
theorem nodeIdFor_plain (s : Settings) (n : Nat) (noDot : '.' ∉ s.template.namePrefix.text.toList)
    (noSlash : '/' ∉ s.template.namePrefix.text.toList) :
    nodeIdFor s n ≠ "" ∧ '.' ∉ (nodeIdFor s n).toList ∧ '/' ∉ (nodeIdFor s n).toList := by
  have digits : (Text.hexDigits 10 n).toList ≠ [] := by
    simp [Text.hexDigits, String.toList_append, String.toList_ofList, Nat.toDigits_ne_nil]
  refine ⟨?_, ?_, ?_⟩
  · intro empty
    apply digits
    have whole := congrArg String.toList empty
    simp only [nodeIdFor, String.toList_append] at whole
    exact List.append_eq_nil_iff.mp whole |>.2
  · intro dot
    simp only [nodeIdFor, String.toList_append, List.mem_append] at dot
    rcases dot with named | digit
    · exact noDot named
    · exact (hexDigits_plain 10 n digit).1 rfl
  · intro slash
    simp only [nodeIdFor, String.toList_append, List.mem_append] at slash
    rcases slash with named | digit
    · exact noSlash named
    · exact (hexDigits_plain 10 n digit).2 rfl

end Lifecycle

end DesktopPool
