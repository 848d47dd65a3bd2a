import Mathlib.Data.List.TakeWhile
import DesktopPool.Host.Name

/-! The grammar of session host names. A name is cut at its first `/` into a pool and a rest;
the host part is the last `/`-separated segment of the rest, and the node id is the host part up
to its first `.`. Each cut is stated as a relation between the text and its parts, and each
cutting function of `HostName` is shown to compute exactly its relation.

Main statements: `parse` accepts exactly the names whose pool, rest and node id are nonempty and
returns those parts (`parse_eq_ok_iff`); it refuses every other name, always with a host name
fault (`parse_fails_iff`, `parse_error_kind`); and a name built as `pool/node.domain` or
`pool/node` reads back to its parts (`parse_qualified`, `parse_bare`). -/
namespace DesktopPool.HostName

/-! ## Cutting a list at its first occurrence of a character -/

/-- The part of a list before its first `c` holds no `c`, and is the whole list or is followed by
a `c`; and only that part is. -/
theorem takeWhile_ne_eq_iff {c : Char} {l p : List Char} :
    l.takeWhile (· != c) = p ↔ c ∉ p ∧ (l = p ∨ ∃ r, l = p ++ c :: r) := by
  constructor
  · rintro rfl
    refine ⟨fun member => by simpa using List.mem_takeWhile_imp member, ?_⟩
    have whole := List.takeWhile_append_dropWhile (p := (· != c)) (l := l)
    rcases dropped : l.dropWhile (· != c) with _ | ⟨d, r⟩
    · left
      simpa [dropped] using whole.symm
    · right
      have stop := List.head_dropWhile_not (· != c) (l := l) (by simp [dropped])
      simp only [dropped, List.head_cons, bne_eq_false_iff_eq] at stop
      subst stop
      exact ⟨r, by rw [← dropped, whole]⟩
  · have kept : c ∉ p → ∀ x ∈ p, (x != c) = true := fun plain x member => by
      simpa using fun (same : x = c) => plain (same ▸ member)
    rintro ⟨plain, rfl | ⟨r, rfl⟩⟩
    · exact List.takeWhile_eq_self_iff.mpr (kept plain)
    · rw [List.takeWhile_append_of_pos (kept plain)]
      simp

theorem dropWhile_ne_cut {c : Char} {p : List Char} (plain : c ∉ p) (r : List Char) :
    (p ++ c :: r).dropWhile (· != c) = c :: r := by
  rw [List.dropWhile_append, if_pos]
  · simp
  · refine List.isEmpty_iff.mpr (List.dropWhile_eq_nil_iff.mpr fun x member => ?_)
    simpa using fun (same : x = c) => plain (same ▸ member)

/-! ## The three cuts of a host name -/

/-- `pool` is the text of `s` before its first `/`, and `rest` the text after that `/`. -/
def SplitAtSlash (s pool rest : String) : Prop := '/' ∉ pool.toList ∧ s = pool ++ "/" ++ rest

/-- `seg` is the last `/`-separated segment of `rest`: all of it, or what follows its last `/`. -/
def LastSegmentOf (rest seg : String) : Prop :=
  '/' ∉ seg.toList ∧ (rest = seg ∨ ∃ pre, rest = pre ++ "/" ++ seg)

/-- `label` is `host` up to its first `.`: all of it, or what comes before a `.`. -/
def FirstLabelOf (host label : String) : Prop :=
  '.' ∉ label.toList ∧ (host = label ∨ ∃ post, host = label ++ "." ++ post)

theorem splitFirst_eq_some_iff {s pool rest : String} :
    splitFirst s = some (pool, rest) ↔ SplitAtSlash s pool rest := by
  have spelled : s = pool ++ "/" ++ rest ↔ s.toList = pool.toList ++ '/' :: rest.toList := by
    simp [String.ext_iff, String.toList_append]
  rw [SplitAtSlash, spelled]
  dsimp only [splitFirst]
  constructor
  · intro split
    split at split
    · next found =>
      -- the text has a `/`, so the part before the first one is not the whole text
      generalize before : s.toList.takeWhile (· != '/') = t at split
      obtain ⟨plain, whole | ⟨r, whole⟩⟩ := takeWhile_ne_eq_iff.mp before
      · exact absurd (List.contains_iff_mem.mp found) (whole ▸ plain)
      · rw [whole, dropWhile_ne_cut plain] at split
        simp only [List.drop_succ_cons, List.drop_zero, Option.some.injEq, Prod.mk.injEq] at split
        obtain ⟨rfl, rfl⟩ := split
        simpa using ⟨plain, whole⟩
    · cases split
  · rintro ⟨plain, whole⟩
    have before : s.toList.takeWhile (· != '/') = pool.toList :=
      takeWhile_ne_eq_iff.mpr ⟨plain, .inr ⟨rest.toList, whole⟩⟩
    rw [if_pos (by simp [whole]), before, whole, dropWhile_ne_cut plain]
    simp

theorem splitFirst_eq_none_iff {s : String} : splitFirst s = none ↔ '/' ∉ s.toList := by
  dsimp only [splitFirst]
  split <;> simp_all

theorem lastSegment_eq_iff {rest seg : String} : lastSegment rest = seg ↔ LastSegmentOf rest seg := by
  have spelled : lastSegment rest = seg ↔
      rest.toList.reverse.takeWhile (· != '/') = seg.toList.reverse := by
    rw [lastSegment, String.ext_iff, String.toList_ofList, List.reverse_eq_iff]
  rw [spelled, takeWhile_ne_eq_iff, LastSegmentOf, List.mem_reverse]
  refine and_congr_right fun _ => or_congr ?_ ⟨?_, ?_⟩
  · rw [String.ext_iff, List.reverse_eq_iff, List.reverse_reverse]
  · rintro ⟨r, whole⟩
    refine ⟨String.ofList r.reverse, ?_⟩
    rw [String.ext_iff, ← List.reverse_reverse rest.toList, whole]
    simp [String.toList_append]
  · rintro ⟨pre, rfl⟩
    exact ⟨pre.toList.reverse, by simp [String.toList_append]⟩

theorem firstLabel_eq_iff {host label : String} : firstLabel host = label ↔ FirstLabelOf host label := by
  rw [firstLabel, String.ext_iff, String.toList_ofList, takeWhile_ne_eq_iff, FirstLabelOf]
  refine and_congr_right fun _ => or_congr String.ext_iff.symm ⟨?_, ?_⟩
  · rintro ⟨r, whole⟩
    exact ⟨String.ofList r, by rw [String.ext_iff, whole]; simp [String.toList_append]⟩
  · rintro ⟨post, rfl⟩
    exact ⟨post.toList, by simp [String.toList_append]⟩

/-! ## Parsing -/

/-- `s` is a session host name with parts `h`: a nonempty pool before the first `/`, a nonempty
rest after it, the host part the last segment of the rest, and a nonempty node id before the
host part's first `.`. -/
def Grammar (s : String) (h : HostName) : Prop :=
  ∃ rest, SplitAtSlash s h.pool rest ∧ LastSegmentOf rest h.display ∧ FirstLabelOf h.display h.node ∧
    h.pool ≠ "" ∧ rest ≠ "" ∧ h.node ≠ ""

/-- A name with no `/`, or whose pool, rest or node id is empty. -/
def Malformed (s : String) : Prop :=
  '/' ∉ s.toList ∨ ∃ pool rest seg label, SplitAtSlash s pool rest ∧ LastSegmentOf rest seg ∧
    FirstLabelOf seg label ∧ (pool = "" ∨ rest = "" ∨ label = "")

theorem parse_of_split {s pool rest : String} (split : splitFirst s = some (pool, rest)) :
    parse s = if pool = "" ∨ rest = "" then .error (unsplittable (Text.quote s))
      else if firstLabel (lastSegment rest) = "" then
        fail .hostName s!"Session host name has no node identifier: {Text.quote s}"
      else .ok ⟨pool, lastSegment rest, firstLabel (lastSegment rest)⟩ := by
  simp only [parse, split, Bool.or_eq_true, String.isEmpty_iff]

theorem parse_eq_ok_iff {s : String} {h : HostName} : parse s = .ok h ↔ Grammar s h := by
  constructor
  · intro parsed
    rcases split : splitFirst s with _ | ⟨pool, rest⟩
    · simp [parse, split] at parsed
    · rw [parse_of_split split] at parsed
      split_ifs at parsed with short noNode
      · exact absurd parsed (by simp [fail])
      obtain rfl := Except.ok.inj parsed
      obtain ⟨poolFilled, restFilled⟩ := not_or.mp short
      exact ⟨rest, splitFirst_eq_some_iff.mp split, lastSegment_eq_iff.mp rfl,
        firstLabel_eq_iff.mp rfl, poolFilled, restFilled, noNode⟩
  · rintro ⟨rest, split, last, label, poolFilled, restFilled, nodeFilled⟩
    rw [parse_of_split (splitFirst_eq_some_iff.mpr split), lastSegment_eq_iff.mpr last,
      firstLabel_eq_iff.mpr label, if_neg (not_or.mpr ⟨poolFilled, restFilled⟩), if_neg nodeFilled]

theorem parse_error_kind {s : String} {f : Fault} (refused : parse s = .error f) :
    f.kind = .hostName := by
  rcases split : splitFirst s with _ | ⟨pool, rest⟩
  · simp only [parse, split, Except.error.injEq] at refused
    rw [← refused]
    rfl
  · rw [parse_of_split split] at refused
    split_ifs at refused <;> cases refused <;> rfl

theorem parse_fails_iff {s : String} : (∃ f, parse s = .error f) ↔ Malformed s := by
  constructor
  · rintro ⟨f, refused⟩
    rcases split : splitFirst s with _ | ⟨pool, rest⟩
    · exact .inl (splitFirst_eq_none_iff.mp split)
    · refine .inr ⟨pool, rest, _, _, splitFirst_eq_some_iff.mp split, lastSegment_eq_iff.mp rfl,
        firstLabel_eq_iff.mp rfl, ?_⟩
      rw [parse_of_split split] at refused
      split_ifs at refused with short noNode
      · exact short.elim .inl (.inr ∘ .inl)
      · exact .inr (.inr noNode)
  · rintro (noSlash | ⟨pool, rest, seg, label, split, last, first, empty⟩)
    · exact ⟨unsplittable (Text.quote s), by simp [parse, splitFirst_eq_none_iff.mpr noSlash]⟩
    · rw [parse_of_split (splitFirst_eq_some_iff.mpr split), lastSegment_eq_iff.mpr last,
        firstLabel_eq_iff.mpr first]
      rcases empty with empty | empty | empty
      · exact ⟨_, if_pos (.inl empty)⟩
      · exact ⟨_, if_pos (.inr empty)⟩
      · by_cases short : pool = "" ∨ rest = ""
        · exact ⟨_, if_pos short⟩
        · exact ⟨_, by rw [if_neg short, if_pos empty]; rfl⟩

/-- A name built as `pool/node.domain` parses back to its parts, for a nonempty pool with no `/`,
a nonempty node id with no `.` and no `/`, and a domain with no `/`. -/
theorem parse_qualified {pool node domain : String} (poolFilled : pool ≠ "")
    (poolPlain : '/' ∉ pool.toList) (nodeFilled : node ≠ "") (nodeDot : '.' ∉ node.toList)
    (nodeSlash : '/' ∉ node.toList) (domainSlash : '/' ∉ domain.toList) :
    parse (pool ++ "/" ++ node ++ "." ++ domain) = .ok ⟨pool, node ++ "." ++ domain, node⟩ := by
  have hostFilled : node ++ "." ++ domain ≠ "" := by
    simp [← String.toList_eq_nil_iff, String.toList_append]
  refine parse_eq_ok_iff.mpr ⟨node ++ "." ++ domain, ⟨poolPlain, by simp [String.append_assoc]⟩,
    ⟨?_, .inl rfl⟩, ⟨nodeDot, .inr ⟨domain, rfl⟩⟩, poolFilled, hostFilled, nodeFilled⟩
  simp [String.toList_append, nodeSlash, domainSlash]

theorem parse_bare {pool node : String} (poolFilled : pool ≠ "") (poolPlain : '/' ∉ pool.toList)
    (nodeFilled : node ≠ "") (nodeDot : '.' ∉ node.toList) (nodeSlash : '/' ∉ node.toList) :
    parse (pool ++ "/" ++ node) = .ok ⟨pool, node, node⟩ :=
  parse_eq_ok_iff.mpr ⟨node, ⟨poolPlain, rfl⟩, ⟨nodeSlash, .inl rfl⟩, ⟨nodeDot, .inl rfl⟩,
    poolFilled, nodeFilled, nodeFilled⟩

/-- Parsing accepts exactly the grammar of host names and returns the parts it names; it refuses
exactly the malformed names, with a host name fault; and the names a directory builds read back. -/
theorem parse_follows_grammar :
    (∀ s h, parse s = .ok h ↔ Grammar s h) ∧
    (∀ s, (∃ f, parse s = .error f ∧ f.kind = .hostName) ↔ Malformed s) ∧
    ∀ pool node domain : String, pool ≠ "" → '/' ∉ pool.toList → node ≠ "" →
      '.' ∉ node.toList → '/' ∉ node.toList → '/' ∉ domain.toList →
      parse (pool ++ "/" ++ node ++ "." ++ domain) = .ok ⟨pool, node ++ "." ++ domain, node⟩ ∧
        parse (pool ++ "/" ++ node) = .ok ⟨pool, node, node⟩ := by
  refine ⟨fun _ _ => parse_eq_ok_iff, fun s => ?_, ?_⟩
  · rw [← parse_fails_iff]
    exact ⟨fun ⟨f, refused, _⟩ => ⟨f, refused⟩, fun ⟨f, refused⟩ => ⟨f, refused, parse_error_kind refused⟩⟩
  · intro pool node domain poolFilled poolPlain nodeFilled nodeDot nodeSlash domainSlash
    exact ⟨parse_qualified poolFilled poolPlain nodeFilled nodeDot nodeSlash domainSlash,
      parse_bare poolFilled poolPlain nodeFilled nodeDot nodeSlash⟩

/-- A name as a directory reports it, with and without its domain. -/
theorem parse_reads_directory_name :
    parse ("E2E-HP-Pooled-root" ++ "/" ++ "shvm-0m9rf333q1" ++ "." ++ "dev.example.local") =
      .ok ⟨"E2E-HP-Pooled-root", "shvm-0m9rf333q1" ++ "." ++ "dev.example.local", "shvm-0m9rf333q1"⟩ ∧
    parse ("E2E-HP-Pooled-root" ++ "/" ++ "shvm-0m9rf333q1") =
      .ok ⟨"E2E-HP-Pooled-root", "shvm-0m9rf333q1", "shvm-0m9rf333q1"⟩ :=
  parse_follows_grammar.2.2 _ _ _ (by decide) (by decide) (by decide) (by decide) (by decide) (by decide)

-- a trailing `/` leaves an empty host part, and a doubled `/` an empty middle segment
example : (parse "p/x/").toOption = none := by decide +kernel

example : (parse "p//x").toOption = some ⟨"p", "x", "x"⟩ := by decide +kernel

end DesktopPool.HostName
