import StoryExports.Proofs.LexedAlike
import StoryExports.Proofs.SequelItems

/-!
# Texts that stand alone

A text stands alone if it is a script by itself, its brackets close, and nothing is open for the
lexer at its end. Such a text is read in the same way, token by token and item by item, whatever
statement follows it on the next line.
-/
namespace StoryExports.Script

open Parse

namespace LexState

/-- Whether a declaration may start on the next line, with nothing open around it. -/
def isSettled (s : LexState) : Bool :=
  s.nest.isEmpty && !s.startsOperand true && !s.namesProperty

end LexState

/-- Whether every bracket that opens among the tokens closes among them. -/
def bracketsClose : List Token → Bool
  | [] => true
  | t :: ts => (!t.tok.opens || (afterMatching 0 (t :: ts)).isSome) && bracketsClose ts

/-- Whether a text is a script by itself that takes nothing from the lines after it. -/
def standsAlone (t : Text) : Bool :=
  let tokens := lex (t ++ ['\n', '\n'])
  withoutMark t == t && tokens.getLast?.any (·.tok == .eof) && bracketsClose tokens &&
    (tokens.dropLast.foldl LexState.after (.start [])).isSettled &&
    (items (.strict (3 * tokens.length + 3)) (.script false) ⟨tokens, 0⟩).isSome

/-- A text that stands alone, with its tokens and the end behind them. -/
structure StandsAlone (t : Text) (tokens : List Token) (e : Token) : Prop where
  unmarked : withoutMark t = t
  lexed : lex (t ++ ['\n', '\n']) = tokens ++ [e]
  eof : e.tok = .eof
  closed : bracketsClose (tokens ++ [e]) = true
  settled : (tokens.foldl LexState.after (.start [])).isSettled = true
  readable : ∃ found, items (.strict (3 * (tokens.length + 1) + 3)) (.script false)
    ⟨tokens ++ [e], 0⟩ = some found

theorem exists_of_standsAlone {t : Text} (h : standsAlone t = true) :
    ∃ tokens e, StandsAlone t tokens e := by
  simp only [standsAlone, Bool.and_eq_true, beq_iff_eq, Option.isSome_iff_exists] at h
  obtain ⟨⟨⟨⟨hmark, hlast⟩, hcloses⟩, hsettled⟩, hitems⟩ := h
  obtain ⟨e, he, heof⟩ := (Option.any_eq_true _ _).mp hlast
  have hsplit : lex (t ++ ['\n', '\n']) = (lex (t ++ ['\n', '\n'])).dropLast ++ [e] :=
    (List.dropLast_append_getLast? e he).symm
  generalize (lex (t ++ ['\n', '\n'])).dropLast = tokens at hsplit hsettled
  rw [hsplit] at hcloses hitems
  rw [List.length_append, List.length_singleton] at hitems
  exact ⟨tokens, e, hmark, hsplit, by simpa using heof, hcloses, hsettled, hitems⟩

theorem bracketsClose_tail {t : Token} {ts : List Token} (h : bracketsClose (t :: ts) = true) :
    bracketsClose ts = true :=
  (Bool.and_eq_true_iff.mp h).2

/-- Tokens with a sequel in place of the end follow the tokens of a text whose brackets close. -/
theorem Sequel.Follows.of_bracketsClose (q : Sequel) {ts ts' : List Token} {e : Token}
    (he : e.tok = .eof) (hne : ∀ t ∈ ts, t.tok ≠ .eof) (halike : List.Forall₂ Token.Alike ts ts')
    (hcloses : bracketsClose (ts ++ [e]) = true) :
    q.Follows (ts ++ [e]) (ts' ++ q.word :: q.more) := by
  induction halike with
  | nil => exact .stop he
  | @cons t t' ts ts' ht _ ih =>
    obtain ⟨hfirst, hrest⟩ := Bool.and_eq_true_iff.mp hcloses
    refine .token ht (hne t List.mem_cons_self) (fun hopens => ?_)
      (ih (fun t ht => hne t (List.mem_cons_of_mem _ ht)) hrest)
    simpa [hopens] using hfirst

/-- Where the text ends, nothing but the sequel is left. -/
theorem Sequel.Follows.tokens_eq {q : Sequel} {c d : Cursor} (h : q.Follows c.tokens d.tokens)
    (heof : (Parse.front c).tok = .eof) : d.tokens = q.word :: q.more := by
  obtain ⟨ts, n⟩ := c
  obtain ⟨ts', n'⟩ := d
  cases h with
  | stop => rfl
  | token _ hne _ _ => exact absurd heof hne

/-- The items of a script, as a run over them. -/
theorem ReadsTo.of_items {g : Grammar} {s : Scope} {c c' : Cursor} {found : List Item}
    (h : items g s c = some (found, c')) :
    (front c').tok = .eof ∧ ∃ n ≤ c.tokens.length, ReadsTo g s n c c' := by
  have hrun : (repeating (itemStep g s) [] >>= fun found => pure found.reverse) c =
      some (found, c') := h
  obtain ⟨⟨all, c₁⟩, hiterate, hend⟩ := Option.bind_eq_some_iff.mp hrun
  cases hend
  obtain ⟨heof, n, hn, hreads⟩ := ReadsTo.of_iterate hiterate
  exact ⟨heof, n, Nat.le_of_lt_succ hn, hreads⟩

namespace LexState

variable {s s' : LexState}

theorem SameContext.symm (h : SameContext s s') : SameContext s' s :=
  ⟨h.before.symm, h.operand.symm, h.nest.symm⟩

theorem SameContext.startsOperand (h : SameContext s s') (fresh : Bool) :
    s.startsOperand fresh = s'.startsOperand fresh := by
  obtain ⟨pos, rest, before, operand, nest⟩ := s
  obtain ⟨pos', rest', before', operand', nest'⟩ := s'
  obtain ⟨rfl, rfl, rfl⟩ : before = before' ∧ operand = operand' ∧ nest = nest' :=
    ⟨h.before, h.operand, h.nest⟩
  rfl

theorem SameContext.isSettled (h : SameContext s s') : s.isSettled = s'.isSettled := by
  rw [LexState.isSettled, LexState.isSettled, h.startsOperand, h.nest, LexState.namesProperty,
    LexState.namesProperty, h.before]

theorem sameContext_on (s : LexState) (u : Text) : SameContext (s.on u) s := ⟨rfl, rfl, rfl⟩

theorem start_sameContext (t u : Text) : SameContext (start t) (start u) := ⟨rfl, rfl, rfl⟩

theorem after_alike (s : LexState) {t t' : Token} (h : t.Alike t') :
    SameContext (s.after t) (s.after t') := by
  obtain ⟨htok, hfresh⟩ := h
  exact ⟨by simp [after, htok], by simp [after, htok, hfresh], by simp [after, htok, hfresh]⟩

theorem Run.append {s'' : LexState} {tokens tokens' : List Token} (h : Run s tokens s')
    (h' : Run s' tokens' s'') : Run s (tokens ++ tokens') s'' := by
  induction h with
  | stay => exact h'
  | token hvalid _ ih => exact .token hvalid (ih h')

end LexState

namespace StandsAlone

variable {t : Text} {tokens : List Token} {e : Token}

/-- The lexer reads the tokens of the text whatever lines follow, and it is settled then. -/
theorem run (h : StandsAlone t tokens e) :
    (∀ t ∈ tokens, t.tok ≠ .eof) ∧ ∃ last : LexState, last.AtLineEnd ∧ last.isSettled = true ∧
      ∀ u, u ≠ [] → LexState.Run (.start (t ++ '\n' :: u)) tokens (last.on ('\n' :: u)) := by
  obtain ⟨-, hne, last, hlast, hrun⟩ := run_break h.eof h.lexed
  refine ⟨hne, last, hlast, ?_, hrun⟩
  have hcontext : LexState.SameContext (last.on ['\n', '\n'])
      (tokens.foldl LexState.after (.start [])) :=
    (hrun ['\n'] (by simp)).sameContext.trans ((LexState.start_sameContext _ _).foldl tokens)
  rw [← (last.sameContext_on ['\n', '\n']).isSettled, hcontext.isSettled, h.settled]

/-- The items of the text are read whatever statement follows. -/
theorem readsTo (h : StandsAlone t tokens e) (hne : ∀ t ∈ tokens, t.tok ≠ .eof) (q : Sequel)
    {m : Nat} (hm : 3 * (tokens.length + 1) + 3 ≤ m) (lastEnd : Nat) :
    ∃ n ≤ tokens.length + 1, ∃ lastEnd', ReadsTo (.nested m) (.script false) n
      ⟨tokens ++ q.word :: q.more, lastEnd⟩ ⟨q.word :: q.more, lastEnd'⟩ := by
  obtain ⟨⟨found, c'⟩, hitems⟩ := h.readable
  obtain ⟨heof, n, hn, hreads⟩ := ReadsTo.of_items hitems
  have hfollows : q.Follows (tokens ++ [e]) (tokens ++ q.word :: q.more) :=
    .of_bracketsClose q h.eof hne (List.forall₂_same.mpr fun _ _ => ⟨rfl, rfl⟩) h.closed
  obtain ⟨⟨ts, lastEnd'⟩, hreads', hend⟩ := hreads.follows (Grammar.strict_local hm) rfl
    (d := ⟨tokens ++ q.word :: q.more, lastEnd⟩) hfollows
  obtain rfl : ts = q.word :: q.more := hend.tokens_eq heof
  exact ⟨n, by simpa using hn, lastEnd', hreads'⟩

end StandsAlone

end StoryExports.Script
