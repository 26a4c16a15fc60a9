import StoryExports.Proofs.EditPlan
import StoryExports.Proofs.ParsedStories

/-!
# Modules with a byte order mark

The parser does not count a mark at the start of a module, but the edits are made in the text that
has it. So a mark leaves all that is read from the module as it is, and with it the offsets of the
edits, which now lie three bytes further to the left.
-/
namespace StoryExports

namespace Script

/-- The byte order mark. -/
def mark : Char := '\ufeff'

theorem withoutMark_of_head? {t : Text} (h : t.head? ≠ some mark) : withoutMark t = t := by
  cases t with
  | nil => rfl
  | cons c cs =>
    have hne : c.toNat ≠ 0xFEFF := fun heq => h (by
      rw [List.head?_cons, Option.some.injEq]
      exact Char.toNat_inj.mp heq)
    simp [withoutMark, hne]

theorem parseModule_mark {t : Text} (h : t.head? ≠ some mark) (language : Language) :
    parseModule language (mark :: t) = parseModule language t := by
  have hmarked : withoutMark (mark :: t) = t := by simp [withoutMark, mark]
  simp only [parseModule, hmarked, withoutMark_of_head? h]

end Script

namespace Transform

open Story Edit
open Script (mark)

/-- An insertion at the end does not clash with edits that end before it. -/
theorem not_clash_end {e : Edit} {n : Nat} {text : Text} (h : e.span.stop ≤ n) :
    ¬Clash ⟨⟨n, n⟩, text⟩ e := by
  rintro (⟨k, hk, -⟩ | ⟨-, -, hlt⟩ | ⟨-, hlt, hgt⟩)
  · exact Nat.lt_irrefl _ (Nat.lt_of_le_of_lt hk.1 hk.2)
  · exact Nat.lt_irrefl _ (Nat.lt_of_lt_of_le hlt h)
  · exact Nat.lt_asymm hlt hgt

theorem clashFree_middle {first later : List Edit} {e : Edit} :
    ClashFree (first ++ e :: later) ↔
      (∀ f ∈ first ++ later, ¬Clash e f) ∧ ClashFree (first ++ later) := by
  have hperm : (first ++ e :: later).Perm (e :: (first ++ later)) := List.perm_middle
  exact ⟨fun h => List.pairwise_cons.mp (h.perm hperm),
    fun h => ClashFree.perm (List.pairwise_cons.mpr h) hperm.symm⟩

section Marked

variable {runtimeModule component : Text} {template : TemplateStories} {compiled : CompiledStories}
  {ps : Patches}

theorem runEdits_eq (code : Text) :
    runEdits runtimeModule component template compiled ps code =
      (metaEdits compiled.declared ++ Buffer.removal (exportSpan compiled.component)) ++
        ⟨⟨code.bytes, code.bytes⟩,
          (appendixOf runtimeModule component template compiled).textAfter code⟩ ::
          ps.flatMap Patch.edits := by
  simp [runEdits, frame]

/-- Edits that do not clash in a text do not clash in the text with a mark, where only the exports
go to another place. -/
theorem clashFree_mark {code : Text}
    (hfits : ∀ e ∈ runEdits runtimeModule component template compiled ps code, Fits code e)
    (hclash : ClashFree (runEdits runtimeModule component template compiled ps code)) :
    ClashFree (runEdits runtimeModule component template compiled ps (mark :: code)) := by
  rw [runEdits_eq] at hfits hclash ⊢
  refine clashFree_middle.mpr ⟨fun e he => not_clash_end ?_, (clashFree_middle.mp hclash).2⟩
  have hfit : Fits code e := by
    rcases List.mem_append.mp he with he | he
    · exact hfits e (List.mem_append_left _ he)
    · exact hfits e (List.mem_append_right _ (List.mem_cons_of_mem _ he))
  have hstop := Text.le_bytes_of_isBoundary hfit.stop
  rw [Text.bytes_cons]
  omega

end Marked

end Transform

/-- The file with a mark before its module. -/
def Input.marked (i : Input) : Input := { i with compiled := Script.mark :: i.compiled }

namespace Plugin

open Story Transform Edit
open Script (mark)

variable {p : Plugin} {i : Input}

theorem transform_eq_none_iff : p.transform i = .ok none ↔ p.handles i.id = false := by
  constructor
  · intro h
    rcases transform_eq_ok h with ⟨hskipped, -⟩ | ⟨out, -, -, -, -, hsome, -⟩
    · exact hskipped
    · cases hsome
  · intro h
    simp [transform, h]
    rfl

/-- A text that is parsed to the same module is given the same edits. -/
theorem transform_same_module {out : Output} (h : p.transform i = .ok (some out)) :
    ∃ file m template compiled, p.Produces i out file m template compiled ∧
      ∀ t, Script.parseModule .javaScript t = Script.parseModule .javaScript i.compiled →
        p.transform { i with compiled := t } =
          (exportStories i.id t p.options.runtimeModule (componentName file compiled.component)
            template compiled).map fun code => some ⟨code, out.storyExports⟩ := by
  obtain ⟨file, m, template, compiled, hproduces, hrerun⟩ := transform_recompiled h
  refine ⟨file, m, template, compiled, hproduces, fun t ht => ?_⟩
  rw [hrerun t, ht, hproduces.parsed]
  simp only [hproduces.compiled_read, bind, Except.bind]
  cases exportStories i.id t p.options.runtimeModule (componentName file compiled.component)
    template compiled <;> rfl

theorem exists_marked_output :
    ∃ p out out', read [] = .ok p ∧
      p.transform (storiesFile ['A'] "One".toList) = .ok (some out) ∧
      p.transform (storiesFile ['A'] "One".toList).marked = .ok (some out') ∧
      Script.withoutMark out'.code ≠ out.code := by
  have hcheck : outputs (fun p out =>
      (p.transform (storiesFile ['A'] "One".toList).marked).toOption.join.any fun out' =>
        decide (Script.withoutMark out'.code ≠ out.code))
      (storiesFile ['A'] "One".toList) = true := by decide +kernel
  obtain ⟨p, out, hp, hout, hcheck⟩ := exists_of_outputs hcheck
  obtain ⟨out', hout', hcode⟩ := (Option.any_eq_true _ _).mp hcheck
  have hsome := eq_ok_of_toOption (Option.join_eq_some_iff.mp hout')
  exact ⟨p, out, out', hp, hout, hsome, of_decide_eq_true hcode⟩

end Plugin

end StoryExports
