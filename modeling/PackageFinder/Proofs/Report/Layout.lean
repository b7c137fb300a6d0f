import Mathlib.Tactic.FinCases
import PackageFinder.Proofs.Json.Nesting
import PackageFinder.Proofs.Report.RoundTrip

/-!
# The lines of written reports

What a report holds does not show in how it is laid out (`Report.render_layout`): the lines of its
text can be counted, every one of them starts with as many spaces as it stands deep, and what stands
at which depth is known (`Report.IsLine`).
-/

namespace PackageFinder
open PackageFinder.Json

/-! ## Counting lines -/

/-- A written package has four lines. -/
lemma Package.length_lines (p : Package) (depth : Nat) (before after : List Char) :
    (p.toValue.lines depth before after).length = 4 := by
  cases url : p.url <;> simp [Package.toValue, url, Value.lines, memberLines]

/-- A written failure has five. -/
lemma Failure.length_lines (f : Failure) (depth : Nat) (before after : List Char) :
    (f.toValue.lines depth before after).length = 5 := by
  simp [Failure.toValue, Value.lines, memberLines]

/-- A written report has a line for each of its braces and for the count, and those of its lists. -/
lemma Report.length_lines (r : Report) : (r.toValue.lines 0 [] []).length
    = 3 + (if r.packages = [] then 1 else 4 * r.packages.length + 2)
      + (if r.failures = [] then 0 else 5 * r.failures.length + 2) := by
  have packages (before after : List Char) :=
    length_lines_list 1 before after (fun p => Package.length_lines p 2) r.packages
  have failures (before after : List Char) :=
    length_lines_list 1 before after (fun f => Failure.length_lines f 2) r.failures
  cases none : r.failures with
  | nil =>
    simp only [toValue, none, List.isEmpty_nil, if_true, List.append_nil, Value.lines_object,
      memberLines, Value.lines_number, List.length_cons, List.length_append, List.length_nil,
      packages]
    omega
  | cons f fs =>
    rw [none] at failures
    simp only [toValue, none, List.isEmpty_cons, Bool.false_eq_true, if_false, List.cons_append,
      List.nil_append, Value.lines_object, memberLines, Value.lines_number, List.length_cons,
      List.length_append, List.length_nil, packages, failures, reduceCtorEq]
    omega

/-! ## What stands where -/

/-- What may stand at which depth of a written report: its braces at none, its members and their
closing brackets at the first, the braces of packages and failures at the second, and their members
at the third. -/
inductive Report.IsLine (r : Report) : Nat → List Char → Prop
  | outer {brace} : brace ∈ ["\x7b", "\x7d"] → IsLine r 0 brace.toList
  | member {name rest} : name ∈ ["count", "packages"] ∨ (name = "failures" ∧ r.isPartial = true) →
    IsLine r 1 (writeString name ++ [':', ' '] ++ rest)
  | bracket {bracket} : bracket ∈ ["]", "],"] → IsLine r 1 bracket.toList
  | inner {brace} : brace ∈ ["\x7b", "\x7d", "\x7d,"] → IsLine r 2 brace.toList
  | field {name rest} : name ∈ ["title", "url", "stage", "target", "error"] →
    IsLine r 3 (writeString name ++ [':', ' '] ++ rest)

namespace Report
variable {r : Report} {l : Line}

/-- A line of a record whose members are strings or `null` is one of its braces or a member. -/
lemma isLine_of_record {m : String × Value} {ms : List (String × Value)} {more : List Value}
    (names : ∀ n ∈ (m :: ms).map (·.1), n ∈ ["title", "url", "stage", "target", "error"])
    (short : ∀ v ∈ (m :: ms).map (·.2), v = .null ∨ ∃ s, v = .text s)
    (h : l ∈ (Value.object (m :: ms)).lines 2 [] (comma more)) : r.IsLine l.depth l.content := by
  rcases mem_lines_object h with rfl | rfl | member
  · exact @IsLine.inner r "\x7b" (by decide)
  · cases more with
    | nil => exact @IsLine.inner r "\x7d" (by decide)
    | cons v vs => exact @IsLine.inner r "\x7d," (by decide)
  · obtain ⟨⟨name, v⟩, hm, rest, line⟩ := mem_memberLines member
    have known := names name (List.mem_map_of_mem hm)
    rcases short v (List.mem_map_of_mem hm) with rfl | ⟨s, rfl⟩
    all_goals
      cases List.mem_singleton.1 line
      rw [List.append_assoc]
      exact .field known

/-- A line of a package is one of its braces or a member. -/
lemma isLine_of_package {p : Package} {more : List Value}
    (h : l ∈ p.toValue.lines 2 [] (comma more)) : r.IsLine l.depth l.content := by
  refine isLine_of_record ?_ ?_ h
  · simp
  · cases url : p.url <;> simp

/-- A line of a failure is one of its braces or a member. -/
lemma isLine_of_failure {f : Failure} {more : List Value}
    (h : l ∈ f.toValue.lines 2 [] (comma more)) : r.IsLine l.depth l.content :=
  isLine_of_record (by simp) (by simp) h

/-- A line of a list of records is its key, its closing bracket, or a line of a record. -/
lemma isLine_of_list {name : String} {vs : List Value} {more : List (String × Value)}
    (known : name ∈ ["count", "packages"] ∨ (name = "failures" ∧ r.isPartial = true))
    (items : ∀ v ∈ vs, ∀ more : List Value, ∀ l ∈ v.lines 2 [] (comma more),
      r.IsLine l.depth l.content)
    (h : l ∈ (Value.list vs).lines 1 (writeString name ++ [':', ' ']) (comma more)) :
    r.IsLine l.depth l.content := by
  rcases mem_lines_list h with ⟨rest, rfl⟩ | rfl | item
  · exact .member known
  · cases more with
    | nil => exact @IsLine.bracket r "]" (by decide)
    | cons m ms => exact @IsLine.bracket r "]," (by decide)
  · obtain ⟨v, hv, more, line⟩ := mem_itemLines item
    exact items v hv more l line

/-- Every line of a report stands at the depth of what it holds. -/
lemma isLine_of_mem (h : l ∈ r.toValue.lines 0 [] []) : r.IsLine l.depth l.content := by
  rw [toValue, List.cons_append] at h
  rcases mem_lines_object h with rfl | rfl | member
  · exact @IsLine.outer r "\x7b" (by decide)
  · exact @IsLine.outer r "\x7d" (by decide)
  · obtain ⟨⟨name, v⟩, hm, more, line⟩ := mem_memberLines member
    rcases List.mem_cons.1 hm with count | rest
    · obtain ⟨rfl, rfl⟩ := Prod.mk.inj count
      cases List.mem_singleton.1 line
      rw [List.append_assoc]
      exact .member (.inl (by simp))
    rcases List.mem_append.1 rest with packages | failures
    · obtain ⟨rfl, rfl⟩ := Prod.mk.inj (List.mem_singleton.1 packages)
      refine isLine_of_list (.inl (by simp)) (fun v hv more l line => ?_) line
      obtain ⟨p, _, rfl⟩ := List.mem_map.1 hv
      exact isLine_of_package line
    · cases none : r.failures.isEmpty with
      | true =>
        rw [none, if_pos rfl] at failures
        cases failures
      | false =>
        have listed : r.isPartial = true := by
          rw [isPartial, none]
          rfl
        rw [none, if_neg Bool.false_ne_true] at failures
        obtain ⟨rfl, rfl⟩ := Prod.mk.inj (List.mem_singleton.1 failures)
        refine isLine_of_list (.inr ⟨rfl, listed⟩) (fun v hv more l line => ?_) line
        obtain ⟨f, _, rfl⟩ := List.mem_map.1 hv
        exact isLine_of_failure line

/-- The line that the failures start on. -/
def failuresLine : List Char := " \"failures\": [".toList

/-- A line that reads like the one that the failures start on is that line. -/
lemma IsLine.isPartial_of_eq {depth : Nat} {content : List Char} (h : r.IsLine depth content)
    (eq : List.replicate depth ' ' ++ content = failuresLine) : r.isPartial = true := by
  cases h with
  | outer known => fin_cases known <;> cases eq
  | member known =>
    rcases known with known | ⟨-, listed⟩
    · fin_cases known <;> cases eq
    · exact listed
  | bracket known => fin_cases known <;> cases eq
  | inner => cases eq
  | field => cases eq

/-- If there are failures, they start on a line. -/
lemma mem_lines_of_isPartial (h : r.isPartial = true) :
    ⟨1, writeString "failures" ++ [':', ' '] ++ ['[']⟩ ∈ r.toValue.lines 0 [] [] := by
  cases eq : r.failures with
  | nil =>
    rw [isPartial, eq] at h
    cases h
  | cons f fs =>
    rw [toValue, eq, List.isEmpty_cons, if_neg Bool.false_ne_true, List.cons_append,
      List.singleton_append, Value.lines_object, memberLines, memberLines, memberLines, List.map_cons,
      Value.lines_list]
    simp only [List.mem_cons, List.mem_append, true_or, or_true]

/-- What a report holds does not show in the lines of its text. They can be counted, hold no control
characters, start with as many spaces as they stand deep, and are what stands at their depth; and
the failures start on a line if there are any. -/
theorem render_layout (r : Report) :
    (∀ c ∈ r.render.toList, c.toNat < 0x20 → c = '\n') ∧
    (r.render.toList.splitOn '\n').length
      = 3 + (if r.packages = [] then 1 else 4 * r.packages.length + 2)
        + (if r.failures = [] then 0 else 5 * r.failures.length + 2) ∧
    (∀ before line after, r.render.toList.splitOn '\n' = before ++ line :: after →
      indentation line = (before.foldl Nesting.read (.outside 0)).lineDepth line) ∧
    (∀ line ∈ r.render.toList.splitOn '\n', ∃ depth content,
      line = List.replicate depth ' ' ++ content ∧ indentation line = depth ∧
        r.IsLine depth content) ∧
    (failuresLine ∈ r.render.toList.splitOn '\n' ↔ r.isPartial = true) := by
  rw [toList_render]
  refine ⟨fun c => eq_newLine_of_mem_pretty, ?_, fun before line after => indentation_of_pretty,
    ?_, ?_⟩
  all_goals rw [splitOn_pretty]
  · rw [List.length_map, length_lines]
  · intro line hl
    obtain ⟨l, inside, rfl⟩ := List.mem_map.1 hl
    exact ⟨l.depth, l.content, rfl, ((nested_lines .nil .nil r.toValue).forall_mem l inside).2,
      isLine_of_mem inside⟩
  · constructor
    · intro hl
      obtain ⟨l, inside, eq⟩ := List.mem_map.1 hl
      exact (isLine_of_mem inside).isPartial_of_eq eq
    · intro listed
      exact List.mem_map.2 ⟨_, mem_lines_of_isPartial listed, rfl⟩

end Report

end PackageFinder
