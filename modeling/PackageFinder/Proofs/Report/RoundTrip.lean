import PackageFinder.Proofs.Json.Record
import PackageFinder.Proofs.Text.Utf8
import PackageFinder.Report.Printer
import PackageFinder.Report.Reader

/-!
# Reading written reports

A report that has been written is read back as it was.  Each kind of record is read from its
members, and its members from what is written for their values.
-/

namespace PackageFinder
open PackageFinder.Json

namespace Package

/-- A written package begins with a brace. -/
lemma pretty_toValue (depth : Nat) (p : Package) : ∃ s, p.toValue.pretty depth = '{' :: s :=
  pretty_object depth _

/-- A written package is read back. -/
lemma read_toValue (depth : Nat) (p : Package) (fuel : Nat) (r : List Char) (hf : 2 ≤ fuel) :
    shape.read fuel (p.toValue.pretty depth ++ r) = .ok (p, r) := by
  -- each field is found by its name, and is still open when its member is met
  have ht : shape.Takes 0 (depth + 1) {} "title" _ _ := .of_text p.title rfl rfl
  have hu : shape.Takes 0 (depth + 1) { title := some p.title } "url" _ _ :=
    .of_field p.url rfl rfl fun _ r _ _ => readTextOrNull_pretty p.url _ r
  exact RecordShape.read_pretty (.cons ht (.cons hu .nil)) rfl hf r

end Package

/-- The name of a stage is read as that stage. -/
lemma Stage.read_name (stage : Stage) (r : List Char) :
    Stage.read (' ' :: (writeString stage.name ++ r)) = .ok (stage, r) := by
  have ht := readText_writeString stage.name r
  have hn : ofName? stage.name = some stage := by cases stage <;> decide
  have hb (s : List Char) : skipBlanks (' ' :: s) = skipBlanks s := rfl
  rw [writeString_append] at ht ⊢
  rw [read, hb, skipBlanks_of_not_blank (by decide)]
  simp [ht, bind, Except.bind, ofText, hn]

namespace Failure

/-- A written failure begins with a brace. -/
lemma pretty_toValue (depth : Nat) (f : Failure) : ∃ s, f.toValue.pretty depth = '{' :: s :=
  pretty_object depth _

/-- A written failure is read back. -/
lemma read_toValue (depth : Nat) (f : Failure) (fuel : Nat) (r : List Char) (hf : 3 ≤ fuel) :
    shape.read fuel (f.toValue.pretty depth ++ r) = .ok (f, r) := by
  have hs : shape.Takes 0 (depth + 1) {} "stage" (.text f.stage.name) _ :=
    .of_field f.stage rfl rfl fun _ r _ _ => Stage.read_name f.stage r
  have ht : shape.Takes 0 (depth + 1) { stage := some f.stage } "target" _ _ :=
    .of_text f.target rfl rfl
  have he : shape.Takes 0 (depth + 1) { stage := some f.stage, target := some f.target } "error"
      _ _ :=
    .of_text f.error rfl rfl
  exact RecordShape.read_pretty (.cons hs (.cons ht (.cons he .nil))) rfl hf r

end Failure

namespace Report

/-- A written report is read back, if there are enough steps for its lists. -/
lemma read_toValue (r : Report) (hc : r.count < 2 ^ 64) {fuel : Nat}
    (hp : r.packages.length + 6 ≤ fuel) (hf : r.failures.length + 6 ≤ fuel) (s : List Char) :
    shape.read fuel (r.toValue.pretty 0 ++ s) = .ok (r, s) := by
  obtain ⟨count, packages, failures⟩ := r
  obtain ⟨steps, rfl⟩ : ∃ n, fuel = n + 3 := ⟨fuel - 3, by omega⟩
  dsimp only at hc hp hf
  have hcount : shape.Takes steps 1 {} "count" _ _ :=
    .of_field count rfl rfl fun _ _ _ hr => readNatural_pretty hc 1 hr
  have hpackages : shape.Takes steps 1 { count := some count } "packages" _ _ :=
    .of_field packages rfl rfl fun _ r hn _ =>
      readListWith_pretty (Package.pretty_toValue _) (Package.read_toValue _) packages (by omega) r
  have hfailures :
      shape.Takes steps 1 { count := some count, packages := some packages } "failures" _ _ :=
    .of_field failures rfl rfl fun _ r hn _ =>
      readListWith_pretty (Failure.pretty_toValue _) (Failure.read_toValue _) failures (by omega) r
  -- without failures their member is not written, and the field keeps its default
  cases failures with
  | nil =>
    have h := RecordShape.Collects.cons hcount (.cons hpackages .nil)
    exact RecordShape.read_pretty h rfl (by simp only [List.length_cons, List.length_nil]; omega) s
  | cons f fs =>
    have h := RecordShape.Collects.cons hcount (.cons hpackages (.cons hfailures .nil))
    exact RecordShape.read_pretty h rfl (by simp only [List.length_cons, List.length_nil]; omega) s

/-- No byte of a written report is replaced. -/
lemma toList_render (r : Report) : r.render.toList = r.toValue.pretty 0 := by
  rw [render, bytes, Text.ofUtf8Lossy_utf8, String.toList_ofList]

/-- A written report is longer than its lists. -/
lemma length_le_length_render (r : Report) :
    r.packages.length + 4 ≤ r.render.toList.length
      ∧ r.failures.length + 4 ≤ r.render.toList.length := by
  have hp : r.packages.length + 4 ≤ r.render.toList.length := by
    rw [toList_render, toValue]
    exact length_le_of_list_member 0 "packages" Package.toValue r.packages (.tail _ (.head _))
  refine ⟨hp, ?_⟩
  cases hf : r.failures with
  | nil => exact Nat.le_trans (Nat.add_le_add_right (Nat.zero_le _) 4) hp
  | cons f fs =>
    rw [toList_render, toValue, hf]
    exact length_le_of_list_member 0 "failures" Failure.toValue (f :: fs)
      (.tail _ (.tail _ (.head _)))

/-- A written report is read as the report that it was.  Its bytes are those of its text, so none
of them is replaced; the failures are left out exactly if there are none; and a link is written as
`null` exactly if it is missing. -/
theorem parse_render (r : Report) (hc : r.count < 2 ^ 64) :
    parse r.render = .ok r
      ∧ Text.ofUtf8? r.bytes = some r.render.toList
      ∧ Text.utf8 r.render.toList = r.bytes
      ∧ (r.toValue.member? "failures" = none ↔ r.failures = [])
      ∧ ∀ p ∈ r.packages, (p.toValue.member? "url" = some .null ↔ p.url = none)
        ∧ ∀ u, p.toValue.member? "url" = some (.text u) ↔ p.url = some u := by
  refine ⟨?_, ?_, ?_, ?_, ?_⟩
  · obtain ⟨hp, hf⟩ := length_le_length_render r
    have hr : shape.read (2 * r.render.toList.length + 2) (r.toValue.pretty 0 ++ [])
        = .ok (r, []) :=
      read_toValue r hc (by omega) (by omega) []
    rw [List.append_nil, ← toList_render] at hr
    simp only [parse, readWhole, hr]
    rfl
  · rw [toList_render, bytes, Text.ofUtf8?_utf8]
  · rw [toList_render, bytes]
  · cases hf : r.failures with
    | nil => simp [toValue, hf, Value.member?, lookup?]
    | cons f fs => simp [toValue, hf, Value.member?, lookup?]
  · intro p _
    cases hu : p.url with
    | none => simp [Package.toValue, hu, Value.member?, lookup?]
    | some u => simp [Package.toValue, hu, Value.member?, lookup?]

/-- Quotes, backslashes, control characters, characters of four bytes, and a link that is spelt
`null`. -/
theorem parse_render_escapes :
    parse (render ⟨2, [⟨"\"\\\x00\x1f\n/", none⟩, ⟨"𝄞", some "null"⟩], [⟨.detail, "", "é\x7f"⟩]⟩)
      = .ok ⟨2, [⟨"\"\\\x00\x1f\n/", none⟩, ⟨"𝄞", some "null"⟩], [⟨.detail, "", "é\x7f"⟩]⟩ :=
  (parse_render _ (by decide)).1

end Report

end PackageFinder
