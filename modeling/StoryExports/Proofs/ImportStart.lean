import Mathlib
import StoryExports.Script.Module

/-!
# Where an import starts

An import on a line of its own, among the tokens of a module. A parser that starts before it stops
there or fails, since no construct goes on with the word `import` and a brace behind it. The word
alone can be taken as a name, say of a property; the brace on the same line then stops the parser.
After a dot any word is a name, so no dot may stand right before the import.

`Keeps` states this for one parser as a triple. The rules below are for the parsers that the rules
of the grammar are made of.
-/
namespace StoryExports.Script

open Std.Do

set_option mvcgen.warning false

/-- Whether a name, which may be any word, has to follow. -/
@[simp] def Tok.asksName : Tok → Bool
  | .punct .dot | .punct .questionDot => true
  | _ => false

/-- An import on a new line among tokens. -/
structure ImportStart where
  before : List Token
  word : Token
  brace : Token
  after : List Token
  opens : word.tok = .keyword .kwImport
  fresh : word.freshLine = true
  follows : brace.tok = .punct .lbrace
  joined : brace.freshLine = false
  apart : ∀ t ∈ before.getLast?, t.tok.asksName = false

namespace ImportStart

variable (i : ImportStart)

/-- The tokens from the import on. -/
def rest : List Token := i.word :: i.brace :: i.after

/-- The next token stands before the import. -/
def Inside (c : Cursor) : Prop := ∃ t u, c.tokens = t :: u ++ i.rest ∧ t :: u <:+ i.before

/-- No token of the import is taken yet, or, if `named` allows that, its first word is taken as the
name of something. -/
def At (named : Bool) (c : Cursor) : Prop :=
  (∃ u, c.tokens = u ++ i.rest ∧ u <:+ i.before) ∨ (named = true ∧ c.tokens = i.brace :: i.after)

end ImportStart

namespace Parse

variable {α β : Type}

/-- A triple says what holds after a parser that succeeds. -/
theorem triple_iff {p : Parse α} {P : Cursor → Prop} {Q : α → Cursor → Prop} :
    ⦃fun c => ⌜P c⌝⦄ p ⦃⇓? a c => ⌜Q a c⌝⦄ ↔ ∀ c a c', P c → p c = some (a, c') → Q a c' := by
  constructor
  · intro h c a c' hc hp
    have hrun := h c hc
    simp only [WP.wp, PredTrans.apply_pushArg, show StateT.run p c = some (a, c') from hp] at hrun
    exact hrun
  · intro h c hc
    simp only [WP.wp, PredTrans.apply_pushArg]
    cases hp : p c with
    | none =>
      rw [show StateT.run p c = none from hp]
      exact trivial
    | some r =>
      rw [show StateT.run p c = some r from hp]
      exact h c r.1 r.2 hc hp

/-- The next token. -/
def front (c : Cursor) : Token := c.tokens.headD (eofToken c.lastEnd)

def second (c : Cursor) : Token :=
  match c.tokens with
  | _ :: t :: _ => t
  | _ => eofToken c.lastEnd

/-- A parser that only looks. -/
theorem look_spec {p : Parse α} {f : Cursor → α} (h : ∀ c, p c = some (f c, c))
    {Q : PostCond α (.arg Cursor (.except PUnit .pure))} : ⦃fun c => Q.1 (f c) c⦄ p ⦃Q⦄ := by
  intro c hc
  simp only [WP.wp, PredTrans.apply_pushArg, show StateT.run p c = some (f c, c) from h c]
  exact hc

@[spec]
theorem peek_spec {Q : PostCond Token (.arg Cursor (.except PUnit .pure))} :
    ⦃fun c => Q.1 (front c) c⦄ peek ⦃Q⦄ :=
  look_spec fun c => by
    unfold peek front
    cases c.tokens <;> rfl

@[spec]
theorem spanFrom_spec (n : Nat) {Q : PostCond Span (.arg Cursor (.except PUnit .pure))} :
    ⦃fun c => Q.1 ⟨n, c.lastEnd⟩ c⦄ spanFrom n ⦃Q⦄ :=
  look_spec fun _ => rfl

@[spec]
theorem peekSecond_spec {Q : PostCond Token (.arg Cursor (.except PUnit .pure))} :
    ⦃fun c => Q.1 (second c) c⦄ peekSecond ⦃Q⦄ :=
  look_spec fun c => by
    unfold peekSecond second
    split <;> simp_all

def third (c : Cursor) : Token :=
  match c.tokens with
  | _ :: _ :: t :: _ => t
  | _ => eofToken c.lastEnd

@[spec]
theorem peekThird_spec {Q : PostCond Token (.arg Cursor (.except PUnit .pure))} :
    ⦃fun c => Q.1 (third c) c⦄ peekThird ⦃Q⦄ :=
  look_spec fun c => by
    unfold peekThird third
    split <;> simp_all

def behindMatching (skip : Nat) (c : Cursor) : Token :=
  match afterMatching 0 (c.tokens.drop skip) with
  | some (t :: _) => t
  | _ => eofToken c.lastEnd

@[spec]
theorem peekAfterMatching_spec (skip : Nat)
    {Q : PostCond Token (.arg Cursor (.except PUnit .pure))} :
    ⦃fun c => Q.1 (behindMatching skip c) c⦄ peekAfterMatching skip ⦃Q⦄ :=
  look_spec fun c => by
    unfold peekAfterMatching behindMatching
    split <;> simp_all

@[spec]
theorem failure_spec {Q : α → Cursor → Prop} :
    ⦃fun _ => ⌜True⌝⦄ (failure : Parse α) ⦃⇓? a c => ⌜Q a c⌝⦄ :=
  triple_iff.mpr fun _ _ _ _ h => by cases h

attribute [spec] peekTok startPos isPunct isKeyword isWord isName onFreshLine atStatementEnd guard

variable {i : ImportStart} {named : Bool}

theorem at_false {c : Cursor} : i.At false c ↔ ∃ u, c.tokens = u ++ i.rest ∧ u <:+ i.before := by
  simp [ImportStart.At]

theorem at_of_false {c : Cursor} (h : i.At false c) : i.At named c := by
  cases named
  · exact h
  · exact .inl (at_false.mp h)

theorem inside_of_at {c : Cursor} (hc : i.At false c) (h : (front c).tok ≠ .keyword .kwImport) :
    i.Inside c := by
  obtain ⟨u, htokens, hu⟩ := at_false.mp hc
  cases u with
  | nil =>
    have hword : front c = i.word := by simp [front, htokens, ImportStart.rest]
    rw [hword] at h
    exact absurd i.opens h
  | cons t u => exact ⟨t, u, htokens, hu⟩

theorem at_of_inside {c : Cursor} (hc : i.Inside c) : i.At false c := by
  obtain ⟨t, u, htokens, hu⟩ := hc
  exact at_false.mpr ⟨t :: u, htokens, hu⟩

/-- What is left when the next token is taken. -/
def next (c : Cursor) : Cursor := ⟨c.tokens.tail, (front c).span.stop⟩

theorem advance_eq_some {c c' : Cursor} {t : Token} (h : advance c = some (t, c')) :
    t = front c ∧ c' = next c := by
  unfold advance at h
  split at h
  · rename_i t' ts htokens
    have hnext : some (t', (⟨ts, t'.span.stop⟩ : Cursor)) = some (t, c') := by
      split at h
      · cases h
      · cases h
      · exact h
    cases hnext
    simp [front, next, htokens]
  · cases h

@[spec]
theorem advance_spec {Q : PostCond Token (.arg Cursor (.except PUnit .pure))}
    (h : (Q.2.1 ⟨⟩).down) : ⦃fun c => Q.1 (front c) (next c)⦄ advance ⦃Q⦄ := by
  intro c hc
  have hc : (Q.1 (front c) (next c)).down := hc
  simp only [WP.wp, PredTrans.apply_pushArg]
  cases hrun : advance c with
  | none =>
    rw [show StateT.run advance c = none from hrun]
    exact h
  | some r =>
    obtain ⟨t, c'⟩ := r
    obtain ⟨ht, hnext⟩ := advance_eq_some hrun
    rw [show StateT.run advance c = some (t, c') from hrun]
    rw [← ht, ← hnext] at hc
    exact hc

/-- A token before the import is taken. -/
@[simp]
theorem at_next {c : Cursor} (hc : i.At false c) (h : (front c).tok ≠ .keyword .kwImport) :
    i.At false (next c) := by
  obtain ⟨t, u, htokens, hu⟩ := inside_of_at hc h
  exact at_false.mpr ⟨u, by simp [next, htokens], (List.suffix_cons t u).trans hu⟩

/-- No dot stands directly before the import. -/
@[simp]
theorem inside_next {c : Cursor} (hc : i.At false c) (h : (front c).tok.asksName = true) :
    i.Inside (next c) := by
  obtain ⟨t, u, htokens, hu⟩ := inside_of_at hc (by rintro heq; rw [heq] at h; cases h)
  cases u with
  | nil =>
    obtain ⟨init, hinit⟩ := hu
    have hlast := i.apart t (by simp [← hinit])
    rw [show front c = t by simp [front, htokens], hlast] at h
    cases h
  | cons t' u => exact ⟨t', u, by simp [next, htokens], (List.suffix_cons t _).trans hu⟩

theorem front_of_past {c : Cursor} (h : c.tokens = i.brace :: i.after) : front c = i.brace := by
  simp [front, h]

/-- What is no brace is not read behind the first word. -/
theorem at_of_front {c : Cursor} (hc : i.At named c)
    (h : named = true → (front c).tok ≠ .punct .lbrace) : i.At false c := by
  rcases hc with hc | ⟨hnamed, hc⟩
  · exact at_false.mpr hc
  · exact absurd (by rw [front_of_past hc, i.follows]) (h hnamed)

@[simp]
theorem at_next_of_named {c : Cursor} (hc : i.At true c) (h : (front c).tok ≠ .keyword .kwImport)
    (hbrace : (front c).tok ≠ .punct .lbrace) : i.At false (next c) :=
  at_next (at_of_front hc fun _ => hbrace) h

@[simp] theorem at_true {c : Cursor} (h : i.At false c) : i.At true c := .inl (at_false.mp h)

theorem at_true_next {c : Cursor} (hc : i.At false c) : i.At true (next c) := by
  obtain ⟨u, htokens, hu⟩ := at_false.mp hc
  cases u with
  | nil => exact .inr ⟨rfl, by simp [next, htokens, ImportStart.rest]⟩
  | cons t u => exact .inl ⟨u, by simp [next, htokens], (List.suffix_cons t u).trans hu⟩

@[simp]
theorem at_next_of_joined {c : Cursor} (hc : i.At false c) (h : (front c).freshLine = false) :
    i.At false (next c) := by
  obtain ⟨u, htokens, hu⟩ := at_false.mp hc
  cases u with
  | nil => simp [front, htokens, ImportStart.rest, i.fresh] at h
  | cons t u => exact at_false.mpr ⟨u, by simp [next, htokens], (List.suffix_cons t u).trans hu⟩

/-- A parser that reads across no import. -/
abbrev Keeps (i : ImportStart) (p : Parse α) : Prop :=
  ⦃fun c => ⌜i.At false c⌝⦄ p ⦃⇓? _ c => ⌜i.At false c⌝⦄

@[spec]
theorem tok_spec (t : Tok) :
    ⦃fun c => ⌜i.At true c ∧ (t = .punct .lbrace ∨ t = .keyword .kwImport → i.At false c)⌝⦄ tok t
      ⦃⇓? _ c => ⌜i.At true c ∧ (t ≠ .keyword .kwImport → i.At false c)⌝⦄ := by
  unfold tok
  mvcgen [takeIf]
  rename_i c hc ht
  obtain rfl : (front c).tok = t := by simpa using ht
  by_cases himport : (front c).tok = .keyword .kwImport
  · exact ⟨at_true_next (hc.2 (.inr himport)), fun h => absurd himport h⟩
  · have hnext : i.At false (next c) := by
      by_cases hbrace : (front c).tok = .punct .lbrace
      · exact at_next (hc.2 (.inl hbrace)) himport
      · exact at_next_of_named hc.1 himport hbrace
    exact ⟨at_true hnext, fun _ => hnext⟩

/-- A token that is no brace is not taken behind the first word. -/
theorem eatTok_spec {t : Tok} (ht : t ≠ .keyword .kwImport) (hbrace : t ≠ .punct .lbrace) :
    ⦃fun c => ⌜i.At named c⌝⦄ eatTok t ⦃⇓? r c => ⌜i.At (named && !r) c⌝⦄ := by
  unfold eatTok
  mvcgen
  all_goals simp_all
  exact at_next (at_of_front ‹_› (by simp_all)) (by simp_all)

theorem eatTok_named (i : ImportStart) (t : Tok) (ht : t ≠ .keyword .kwImport)
    (hbrace : t ≠ .punct .lbrace) :
    ⦃fun c => ⌜i.At true c⌝⦄ eatTok t ⦃⇓? r c => ⌜i.At (!r) c⌝⦄ :=
  eatTok_spec ht hbrace

@[spec]
theorem eatTok_keeps (t : Tok) (ht : t ≠ .keyword .kwImport) : Keeps i (eatTok t) := by
  unfold eatTok
  mvcgen
  all_goals simp_all

attribute [spec] punct eatPunct keyword eatKeyword word eatWord

theorem ne_import_of_nameOf? {t : Tok} {id : Text} (h : nameOf? t = some id) :
    t ≠ .keyword .kwImport := by
  rintro rfl
  cases h

@[spec]
theorem name_keeps : Keeps i name := by
  unfold name
  mvcgen
  exact at_next ‹_› (ne_import_of_nameOf? ‹_›)

/-- No statement ends behind the first word. -/
theorem at_of_end {c : Cursor} (hc : i.At named c) (h : (front c).freshLine = true ∨
    (front c).tok = .punct .semicolon ∨ (front c).tok = .punct .rbrace ∨ (front c).tok = .eof) :
    i.At false c := by
  rcases hc with hc | ⟨-, hc⟩
  · exact at_false.mpr hc
  · rw [front_of_past hc, i.joined, i.follows] at h
    simp at h

theorem eatSemicolon_spec :
    ⦃fun c => ⌜i.At named c⌝⦄ eatSemicolon
      ⦃⇓? r c => ⌜i.At (named && !r) c ∧ (r = false → (front c).freshLine = false)⌝⦄ := by
  have heat : ⦃fun c => ⌜i.At named c⌝⦄ eatTok (.punct .semicolon)
      ⦃⇓? r c => ⌜i.At (named && !r) c⌝⦄ := eatTok_spec (by simp) (by simp)
  unfold eatSemicolon
  mvcgen [heat, -eatTok_keeps]
  all_goals simp_all
  rename_i c _ hc
  by_cases hend : (front c).freshLine = true ∨ (front c).tok = .punct .semicolon ∨
      (front c).tok = .punct .rbrace ∨ (front c).tok = .eof
  · exact at_of_false (at_of_end hc hend)
  · obtain ⟨hline, hsemicolon, hbrace, heof⟩ : _ ∧ _ ∧ _ ∧ _ := by simpa using hend
    simpa [hline, beq_false_of_ne hsemicolon, beq_false_of_ne hbrace, beq_false_of_ne heof]

@[spec]
theorem semicolon_spec : ⦃fun c => ⌜i.At true c⌝⦄ semicolon ⦃⇓? _ c => ⌜i.At false c⌝⦄ := by
  unfold semicolon
  mvcgen [eatSemicolon_spec]
  all_goals simp_all

@[spec]
theorem eatSemicolon_keeps : ⦃fun c => ⌜i.At false c⌝⦄ eatSemicolon
    ⦃⇓? r c => ⌜i.At false c ∧ (r = false → (front c).freshLine = false)⌝⦄ := by
  have hspec : ⦃fun c => ⌜i.At false c⌝⦄ eatSemicolon
      ⦃⇓? r c => ⌜i.At (false && !r) c ∧ (r = false → (front c).freshLine = false)⌝⦄ :=
    eatSemicolon_spec
  simpa using hspec

/-- A parser that fails is taken back. -/
theorem attempt_spec {p : Parse α} {P : Cursor → Prop}
    (h : ⦃fun c => ⌜i.At false c ∧ P c⌝⦄ p ⦃⇓? _ c => ⌜i.At false c⌝⦄) :
    ⦃fun c => ⌜i.At false c ∧ P c⌝⦄ attempt p ⦃⇓? _ c => ⌜i.At false c⌝⦄ := by
  refine triple_iff.mpr fun c a c' hc hattempt => ?_
  unfold attempt at hattempt
  split at hattempt
  · cases hattempt
    exact triple_iff.mp h c _ _ hc ‹_›
  · cases hattempt
    exact hc.1

@[spec]
theorem attempt_keeps {p : Parse α} (h : Keeps i p) : Keeps i (attempt p) := by
  have hp : ⦃fun c => ⌜i.At false c ∧ True⌝⦄ p ⦃⇓? _ c => ⌜i.At false c⌝⦄ := by simpa using h
  simpa using attempt_spec hp

/-- What every step keeps holds after any number of steps. -/
theorem keeps_of_steps {step : α → Parse (α ⊕ β)} {I : α → Cursor → Prop} {Q : β → Cursor → Prop}
    (h : ∀ a, ⦃fun c => ⌜I a c⌝⦄ step a ⦃⇓? r c => ⌜r.elim (I · c) (Q · c)⌝⦄) (a : α) :
    ⦃fun c => ⌜I a c⌝⦄ repeating step a ⦃⇓? b c => ⌜Q b c⌝⦄ := by
  have hiterate : ∀ (fuel : Nat) (a : α) (c : Cursor) (b : β) (c' : Cursor), I a c →
      iterate step fuel a c = some (b, c') → Q b c' := by
    intro fuel
    induction fuel with
    | zero =>
      intro a c b c' _ hrun
      cases hrun
    | succ fuel ih =>
      intro a c b c' hc hrun
      simp only [iterate] at hrun
      obtain ⟨⟨r, next⟩, hstep, hrun⟩ := Option.bind_eq_some_iff.mp hrun
      have hnext := triple_iff.mp (h a) c r next hc hstep
      cases r with
      | inl a' => exact ih a' next b c' hnext hrun
      | inr b' =>
        cases hrun
        exact hnext
  exact triple_iff.mpr fun c b c' hc hrun => hiterate _ a c b c' hc hrun

@[spec]
theorem repeating_keeps {step : α → Parse (α ⊕ β)} (a : α) (h : ∀ a, Keeps i (step a)) :
    Keeps i (repeating step a) := by
  refine keeps_of_steps (I := fun _ => i.At false) (Q := fun _ => i.At false) (fun a => ?_) a
  refine triple_iff.mpr fun c r c' hc hrun => ?_
  have hkept := triple_iff.mp (h a) c r c' hc hrun
  cases r <;> exact hkept

@[spec]
theorem itemsTo_keeps {close : Punct} {item : Parse α} (h : Keeps i item) :
    Keeps i (itemsTo close item) := by
  unfold itemsTo
  mvcgen [h]
  all_goals simp_all

@[spec]
theorem commaSeparated_keeps {item : Parse α} (h : Keeps i item) :
    Keeps i (commaSeparated item) := by
  unfold commaSeparated
  mvcgen [h]

/-- Any word can be taken as a name, that of the import too. -/
@[spec]
theorem anyWord_spec : ⦃fun c => ⌜i.At false c⌝⦄ anyWord ⦃⇓? _ c => ⌜i.At true c⌝⦄ := by
  unfold anyWord
  mvcgen
  exact at_true_next ‹_›

theorem at_next_of_inside {c : Cursor} (hc : i.Inside c) : i.At false (next c) := by
  obtain ⟨t, u, htokens, hu⟩ := hc
  exact at_false.mpr ⟨u, by simp [next, htokens], (List.suffix_cons t u).trans hu⟩

theorem anyWord_inside : ⦃fun c => ⌜i.Inside c⌝⦄ anyWord ⦃⇓? _ c => ⌜i.At false c⌝⦄ := by
  unfold anyWord
  mvcgen [-anyWord_spec]
  exact at_next_of_inside ‹_›

@[spec]
theorem commaList_keeps {close : Punct} (hclose : close ≠ .lbrace) {item : Parse α}
    (h : ⦃fun c => ⌜i.At false c⌝⦄ item ⦃⇓? _ c => ⌜i.At true c⌝⦄) :
    Keeps i (commaList close item) := by
  unfold commaList
  mvcgen [h]
  all_goals simp_all
  exact at_of_front ‹_› (by simp_all)

end Parse

end StoryExports.Script
