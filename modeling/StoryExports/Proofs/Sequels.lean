import Mathlib.Data.List.Forall2
import StoryExports.Proofs.AppendedImport

/-!
# What follows a text

A text that is a script by itself is read in the same way when another line follows it that starts
with `import`, `export` or `function`: no statement goes on with such a word, and a statement ends
with its line as it ends with the text.

Two runs are compared, one on the tokens of the text and one on the same tokens with others behind
them. `Local` says of two parsers that the second one succeeds where the first one does. The rules
below are for the parsers that the rules of the grammar are made of.
-/
namespace StoryExports.Script

open Parse

/-- Two tokens that differ in their places only. -/
def Token.Alike (t t' : Token) : Prop := t.tok = t'.tok ∧ t.freshLine = t'.freshLine

/-- Whether a bracket has to close what the token opens. -/
def Tok.opens : Tok → Bool
  | .punct .lparen | .punct .lbracket | .punct .lbrace | .punct .dollarBrace => true
  | _ => false

/-- The tokens that follow a text: a new line with a word that starts a statement. -/
structure Sequel where
  word : Token
  more : List Token
  fresh : word.freshLine = true
  starts : word.tok = .keyword .kwImport ∨ word.tok = .keyword .kwExport ∨
    word.tok = .keyword .kwFunction

namespace Sequel

variable {q : Sequel} {ts ts' : List Token}

/-- The tokens of a text, and the same with the sequel in place of the end. Every bracket that opens
before the end closes before it. -/
inductive Follows (q : Sequel) : List Token → List Token → Prop
  | stop {e : Token} (he : e.tok = .eof) : Follows q [e] (q.word :: q.more)
  | token {t t' : Token} {ts ts' : List Token} (halike : t.Alike t') (hne : t.tok ≠ .eof)
      (hcloses : t.tok.opens = true → (afterMatching 0 (t :: ts)).isSome = true)
      (h : Follows q ts ts') : Follows q (t :: ts) (t' :: ts')

theorem Follows.length_le (h : q.Follows ts ts') : ts.length ≤ ts'.length := by
  induction h with
  | stop => simp
  | token _ _ _ _ ih => simpa using ih

/-- Where a bracket closes in the text, it does so with the sequel. -/
theorem Follows.afterMatching (h : q.Follows ts ts') {n : Nat} {rest : List Token}
    (hrest : afterMatching n ts = some rest) :
    ∃ rest', Parse.afterMatching n ts' = some rest' ∧ q.Follows rest rest' := by
  induction h generalizing n with
  | stop he => simp [Parse.afterMatching, he] at hrest
  | @token t t' ts ts' halike hne hcloses h ih =>
    revert hrest
    unfold Parse.afterMatching
    rw [← halike.1]
    split
    case h_5 | h_6 | h_7 =>
      split
      · rintro ⟨⟩
        exact ⟨ts', rfl, h⟩
      · exact ih
    all_goals exact ih

theorem word_ne (q : Sequel) {t : Tok}
    (h : t ≠ .keyword .kwImport ∧ t ≠ .keyword .kwExport ∧ t ≠ .keyword .kwFunction) :
    q.word.tok ≠ t := by
  rintro rfl
  rcases q.starts with hw | hw | hw <;> simp [hw] at h

/-- What does not tell the words apart that start a sequel from a token. -/
theorem apply_word {α : Type} {f : Tok → α} {t : Tok} (q : Sequel)
    (h : f (.keyword .kwImport) = f t ∧ f (.keyword .kwExport) = f t ∧
      f (.keyword .kwFunction) = f t) : f q.word.tok = f t := by
  rcases q.starts with hw | hw | hw <;> rw [hw]
  · exact h.1
  · exact h.2.1
  · exact h.2.2

theorem nameOf?_word (q : Sequel) : nameOf? q.word.tok = none := by
  rcases q.starts with h | h | h <;> rw [h] <;> rfl

/-- A token ahead is the same, or it is the first one of the sequel. -/
def Sees (q : Sequel) (t t' : Token) : Prop :=
  (t.Alike t' ∧ t.tok ≠ .eof) ∨ (t.tok = .eof ∧ t' = q.word)

namespace Sees

variable {t t' : Token} (h : q.Sees t t')
include h

theorem beq {u : Tok} (heof : u ≠ .eof) (hword : q.word.tok ≠ u) :
    (t.tok == u) = (t'.tok == u) := by
  rcases h with ⟨⟨htok, -⟩, -⟩ | ⟨htok, rfl⟩
  · rw [htok]
  · rw [htok, beq_false_of_ne heof.symm, beq_false_of_ne hword]

theorem beq_punct (p : Punct) : (t.tok == .punct p) = (t'.tok == .punct p) :=
  h.beq (by simp) (q.word_ne (by simp))

theorem nameOf? : nameOf? t.tok = nameOf? t'.tok := by
  rcases h with ⟨⟨htok, -⟩, -⟩ | ⟨htok, rfl⟩
  · rw [htok]
  · rw [htok, q.nameOf?_word]
    rfl

/-- A name or a punctuator ahead is no part of the sequel. -/
theorem freshLine (hne : t.tok ≠ .eof) : t.freshLine = t'.freshLine := by
  rcases h with ⟨⟨-, hfresh⟩, -⟩ | ⟨htok, -⟩
  · exact hfresh
  · exact absurd htok hne

/-- No token of the sequel is on the line of the text. -/
theorem sameLine {P : Tok → Bool} (heof : P .eof = false) :
    (P t.tok && !t.freshLine) = (P t'.tok && !t'.freshLine) := by
  rcases h with ⟨⟨htok, hfresh⟩, -⟩ | ⟨htok, rfl⟩
  · rw [htok, hfresh]
  · rw [htok, heof, q.fresh, Bool.false_and, Bool.not_true, Bool.and_false]

end Sees

/-- The text ends here, and the sequel starts. -/
structure Ends (q : Sequel) (c d : Cursor) : Prop where
  eof : (front c).tok = .eof
  word : front d = q.word
  follows : q.Follows c.tokens d.tokens

section Ahead

variable {c d : Cursor} (h : q.Follows c.tokens d.tokens)
include h

theorem Follows.front : q.Sees (front c) (front d) := by
  obtain ⟨ts, n⟩ := c
  obtain ⟨ts', n'⟩ := d
  cases h with
  | stop he => exact .inr ⟨he, rfl⟩
  | token halike hne _ _ => exact .inl ⟨halike, hne⟩

theorem Follows.ends (heof : (Parse.front c).tok = .eof) : q.Ends c d := by
  refine ⟨heof, ?_, h⟩
  rcases h.front with ⟨-, hne⟩ | ⟨-, hword⟩
  · exact absurd heof hne
  · exact hword

theorem Follows.second (hne : (Parse.front c).tok ≠ .eof) : q.Sees (second c) (second d) := by
  obtain ⟨ts, n⟩ := c
  obtain ⟨ts', n'⟩ := d
  cases h with
  | stop he => exact absurd he hne
  | token _ _ _ h =>
    cases h with
    | stop he => exact .inr ⟨he, rfl⟩
    | token halike hsecond _ _ => exact .inl ⟨halike, hsecond⟩

theorem Follows.last (hne : (Parse.front c).tok ≠ .eof) (heof : (Parse.second c).tok = .eof) :
    ∃ t e, c.tokens = [t, e] ∧ e.tok = .eof := by
  obtain ⟨ts, n⟩ := c
  obtain ⟨ts', n'⟩ := d
  cases h with
  | stop he => exact absurd he hne
  | token _ _ _ h =>
    cases h with
    | stop he => exact ⟨_, _, rfl, he⟩
    | token _ hsecond _ _ => exact absurd heof hsecond

theorem Follows.third (hne : (Parse.front c).tok ≠ .eof) (hne' : (Parse.second c).tok ≠ .eof) :
    q.Sees (third c) (third d) := by
  obtain ⟨ts, n⟩ := c
  obtain ⟨ts', n'⟩ := d
  cases h with
  | stop he => exact absurd he hne
  | token _ _ _ h =>
    cases h with
    | stop he => exact absurd he hne'
    | token _ _ _ h =>
      cases h with
      | stop he => exact .inr ⟨he, rfl⟩
      | token halike hthird _ _ => exact .inl ⟨halike, hthird⟩

theorem Follows.closes (hopens : (Parse.front c).tok.opens = true) :
    (Parse.afterMatching 0 c.tokens).isSome = true := by
  obtain ⟨ts, n⟩ := c
  obtain ⟨ts', n'⟩ := d
  cases h with
  | stop he => simp [Parse.front, he, Tok.opens] at hopens
  | token _ _ hcloses _ => exact hcloses hopens

theorem Follows.tail (hne : (Parse.front c).tok ≠ .eof) :
    q.Follows (next c).tokens (next d).tokens := by
  obtain ⟨ts, n⟩ := c
  obtain ⟨ts', n'⟩ := d
  cases h with
  | stop he => exact absurd he hne
  | token _ _ _ h => exact h

/-- Tests of the next two tokens. The first one fails where the text ends. -/
theorem Follows.and_second {P : Tok → Bool} {Q : Token → Bool} (heof : P .eof = false)
    (hword : P (.keyword .kwImport) = P .eof ∧ P (.keyword .kwExport) = P .eof ∧
      P (.keyword .kwFunction) = P .eof) (hQ : ∀ t t', q.Sees t t' → Q t = Q t') :
    (P (Parse.front c).tok && Q (Parse.second c)) =
      (P (Parse.front d).tok && Q (Parse.second d)) := by
  rcases h.front with ⟨⟨htok, -⟩, hne⟩ | ⟨hc, hd⟩
  · rw [← htok, hQ _ _ (h.second hne)]
  · rw [hc, hd, q.apply_word hword, heof, Bool.false_and, Bool.false_and]

end Ahead

/-- The token behind a bracket that closes in the text. -/
theorem Follows.behindMatching {c d : Cursor} {n : Nat}
    (h : q.Follows (c.tokens.drop n) (d.tokens.drop n))
    (hcloses : (Parse.afterMatching 0 (c.tokens.drop n)).isSome = true) :
    q.Sees (behindMatching n c) (behindMatching n d) := by
  obtain ⟨rest, hrest⟩ := Option.isSome_iff_exists.mp hcloses
  obtain ⟨rest', hrest', hfollows⟩ := h.afterMatching hrest
  simp only [Parse.behindMatching, hrest, hrest']
  cases hfollows with
  | stop he => exact .inr ⟨he, rfl⟩
  | token halike hne _ _ => exact .inl ⟨halike, hne⟩

end Sequel

namespace Parse

variable {α β γ δ : Type} {q : Sequel} {R : α → β → Prop} {S : γ → δ → Prop}

/-- At two places: where the first parser succeeds, so does the second. -/
def LocalAt (q : Sequel) (R : α → β → Prop) (c d : Cursor) (p : Parse α) (p' : Parse β) : Prop :=
  ∀ a c', p c = some (a, c') →
    ∃ b d', p' d = some (b, d') ∧ R a b ∧ q.Follows c'.tokens d'.tokens

/-- The second parser does on a text with a sequel what the first one does on the text. -/
def Local (q : Sequel) (R : α → β → Prop) (p : Parse α) (p' : Parse β) : Prop :=
  ∀ c d, q.Follows c.tokens d.tokens → LocalAt q R c d p p'

/-! ### Parsers in sequence -/

theorem LocalAt.bind {p : Parse α} {p' : Parse β} {f : α → Parse γ} {f' : β → Parse δ}
    {c d : Cursor} (hp : LocalAt q R c d p p') (hf : ∀ a b, R a b → Local q S (f a) (f' b)) :
    LocalAt q S c d (p >>= f) (p' >>= f') := by
  intro x c' hrun
  obtain ⟨⟨a, c₁⟩, ha, hx⟩ := Option.bind_eq_some_iff.mp hrun
  obtain ⟨b, d₁, hb, hab, h₁⟩ := hp a c₁ ha
  obtain ⟨y, d', hy, hxy, h'⟩ := hf a b hab c₁ d₁ h₁ x c' hx
  exact ⟨y, d', by rw [bind_apply, hb]; exact hy, hxy, h'⟩

theorem Local.bind {p : Parse α} {p' : Parse β} {f : α → Parse γ} {f' : β → Parse δ}
    (hp : Local q R p p') (hf : ∀ a b, R a b → Local q S (f a) (f' b)) :
    Local q S (p >>= f) (p' >>= f') :=
  fun c d hcd => (hp c d hcd).bind hf

/-- The results of the first parsers are the same. -/
theorem Local.then {p : Parse α} {p' : Parse α} {f : α → Parse γ} {f' : α → Parse δ}
    (hp : Local q Eq p p') (hf : ∀ a, Local q S (f a) (f' a)) :
    Local q S (p >>= f) (p' >>= f') :=
  hp.bind fun a _ h => h ▸ hf a

theorem LocalAt.pure {a : α} {b : β} {c d : Cursor} (hcd : q.Follows c.tokens d.tokens)
    (h : R a b) : LocalAt q R c d (Pure.pure a) (Pure.pure b) := by
  rintro x c' hrun
  cases hrun
  exact ⟨b, d, rfl, h, hcd⟩

theorem Local.pure {a : α} {b : β} (h : R a b) : Local q R (Pure.pure a) (Pure.pure b) :=
  fun _ _ hcd => .pure hcd h

theorem LocalAt.of_none {c d : Cursor} {p : Parse α} {p' : Parse β} (h : p c = none) :
    LocalAt q R c d p p' := by
  rintro x c' hrun
  rw [h] at hrun
  cases hrun

theorem Local.failure {p' : Parse β} : Local q R failure p' := fun _ _ _ => .of_none rfl

theorem Local.mono {T : α → β → Prop} {p : Parse α} {p' : Parse β} (h : Local q R p p')
    (himp : ∀ a b, R a b → T a b) : Local q T p p' := by
  intro c d hcd a c' hrun
  obtain ⟨b, d', hb, hab, hcd'⟩ := h c d hcd a c' hrun
  exact ⟨b, d', hb, himp a b hab, hcd'⟩

theorem Local.ite {b : Bool} {x y : Parse α} {x' y' : Parse β} (hx : Local q R x x')
    (hy : Local q R y y') : Local q R (if b then x else y) (if b then x' else y') := by
  cases b with
  | true => exact hx
  | false => exact hy

theorem LocalAt.ite {c d : Cursor} {b : Bool} {x y : Parse α} {x' y' : Parse β}
    (hx : b = true → LocalAt q R c d x x') (hy : b = false → LocalAt q R c d y y') :
    LocalAt q R c d (if b then x else y) (if b then x' else y') := by
  cases b with
  | true => exact hx rfl
  | false => exact hy rfl

theorem guard_local (b : Bool) : Local q Eq (guard b : Parse Unit) (guard b) := by
  cases b with
  | true => exact .pure rfl
  | false => exact .failure

/-! ### The end of the text -/

/-- A parser that fails where the text ends. -/
def AsksToken (p : Parse α) : Prop := ∀ c, (front c).tok = .eof → p c = none

theorem AsksToken.bind {p : Parse α} (h : AsksToken p) (f : α → Parse γ) : AsksToken (p >>= f) :=
  fun c hc => by rw [bind_apply, h c hc]; rfl

theorem peek_apply (c : Cursor) : peek c = some (front c, c) := by
  obtain ⟨ts, n⟩ := c
  cases ts <;> rfl

theorem peekTok_apply (c : Cursor) : peekTok c = some ((front c).tok, c) := by
  rw [peekTok, bind_apply, peek_apply]
  rfl

theorem peekSecond_apply (c : Cursor) : peekSecond c = some (second c, c) := by
  unfold peekSecond second
  split <;> simp_all

theorem peekThird_apply (c : Cursor) : peekThird c = some (third c, c) := by
  unfold peekThird third
  split <;> simp_all

theorem peekAfterMatching_apply (skip : Nat) (c : Cursor) :
    peekAfterMatching skip c = some (behindMatching skip c, c) := by
  unfold peekAfterMatching behindMatching
  split <;> simp_all

theorem onFreshLine_apply (c : Cursor) : onFreshLine c = some ((front c).freshLine, c) := by
  rw [onFreshLine, bind_apply, peek_apply]
  rfl

theorem startPos_apply (c : Cursor) : startPos c = some ((front c).span.start, c) := by
  rw [startPos, bind_apply, peek_apply]
  rfl

theorem isWord_apply (w : String) (c : Cursor) :
    isWord w c = some ((front c).tok == .name w.toList, c) := by
  rw [isWord, bind_apply, peekTok_apply]
  rfl

theorem isKeyword_apply (k : Keyword) (c : Cursor) :
    isKeyword k c = some ((front c).tok == .keyword k, c) := by
  rw [isKeyword, bind_apply, peekTok_apply]
  rfl

theorem isName_apply (c : Cursor) : isName c = some ((nameOf? (front c).tok).isSome, c) := by
  rw [isName, bind_apply, peekTok_apply]
  rfl

theorem peek_bind (f : Token → Parse γ) (c : Cursor) : (peek >>= f) c = f (front c) c := by
  rw [bind_apply, peek_apply]
  rfl

theorem peekTok_bind (f : Tok → Parse γ) (c : Cursor) : (peekTok >>= f) c = f (front c).tok c := by
  rw [bind_apply, peekTok_apply]
  rfl

/-- A parser that looks first and then asks for a token. -/
theorem AsksToken.of_peekTok {f : Tok → Parse γ} (h : AsksToken (f .eof)) :
    AsksToken (peekTok >>= f) := by
  intro c hc
  rw [peekTok_bind, hc]
  exact h c hc

/-- A parser that looks ahead and then asks for a token, whatever it has seen. -/
theorem AsksToken.look {p : Parse α} {f : α → Parse γ} (hp : ∀ c, ∃ a, p c = some (a, c))
    (h : ∀ a, AsksToken (f a)) : AsksToken (p >>= f) := by
  intro c hc
  obtain ⟨a, ha⟩ := hp c
  rw [bind_apply, ha]
  exact h a c hc

/-- A parser that takes nothing where the text ends, and then asks for a token. -/
theorem AsksToken.stays {p : Parse α} {f : α → Parse γ} {a : α}
    (hp : ∀ c, (front c).tok = .eof → p c = some (a, c)) (h : AsksToken (f a)) :
    AsksToken (p >>= f) := by
  intro c hc
  rw [bind_apply, hp c hc]
  exact h c hc

theorem AsksToken.startPos {f : Nat → Parse γ} (h : ∀ n, AsksToken (f n)) :
    AsksToken (startPos >>= f) :=
  .look (fun c => ⟨_, startPos_apply c⟩) h

theorem AsksToken.isPunct {p : Punct} {f : Bool → Parse γ} (h : ∀ b, AsksToken (f b)) :
    AsksToken (isPunct p >>= f) := by
  refine .look (fun c => ⟨(front c).tok == .punct p, ?_⟩) h
  rw [Parse.isPunct, bind_apply, peekTok_apply]
  rfl

theorem AsksToken.isKeyword {k : Keyword} {f : Bool → Parse γ} (h : AsksToken (f false)) :
    AsksToken (isKeyword k >>= f) :=
  .stays (fun c hc => by rw [isKeyword_apply, hc]; rfl) h

theorem commaSeparated_asks {item : Parse α} (h : AsksToken item) :
    AsksToken (commaSeparated item) :=
  h.bind _

theorem AsksToken.guard {b : Bool} {f : Unit → Parse γ} (h : AsksToken (f ())) :
    AsksToken (guard b >>= f) := by
  intro c hc
  cases b with
  | true => exact h c hc
  | false => rfl

theorem AsksToken.ite {b : Bool} {x y : Parse α} (hx : AsksToken x) (hy : AsksToken y) :
    AsksToken (if b then x else y) := by
  cases b with
  | true => exact hx
  | false => exact hy

theorem AsksToken.eatTok {t : Tok} (ht : t ≠ .eof) {f : Bool → Parse γ} (h : AsksToken (f false)) :
    AsksToken (eatTok t >>= f) := by
  intro c hc
  have hnone : Parse.eatTok t c = some (false, c) := by
    rw [Parse.eatTok, peekTok_bind, if_neg (by simpa [hc] using ht.symm)]
    rfl
  rw [bind_apply, hnone]
  exact h c hc

theorem AsksToken.eatPunct {p : Punct} {f : Bool → Parse γ} (h : AsksToken (f false)) :
    AsksToken (eatPunct p >>= f) := .eatTok (by simp) h

theorem advance_asks : AsksToken advance := by
  rintro ⟨ts, n⟩ h
  cases ts with
  | nil => rfl
  | cons t ts =>
    have ht : t.tok = .eof := h
    simp [advance, ht]

theorem takeIf_asks (p : Tok → Bool) : AsksToken (takeIf p) := by
  intro c h
  rw [takeIf, peek_bind]
  split
  · exact advance_asks c h
  · rfl

theorem tok_asks (t : Tok) : AsksToken (tok t) := (takeIf_asks _).bind _

theorem punct_asks (p : Punct) : AsksToken (punct p) := tok_asks _

theorem keyword_asks (k : Keyword) : AsksToken (keyword k) := tok_asks _

theorem name_asks : AsksToken name := .of_peekTok fun _ _ => rfl

theorem anyWord_asks : AsksToken anyWord := .of_peekTok fun _ _ => rfl

theorem AsksToken.localAt {p : Parse α} (h : AsksToken p) {p' : Parse β} {c d : Cursor}
    (hcd : q.Ends c d) : LocalAt q R c d p p' :=
  .of_none (h c hcd.eof)

/-- A parser that looks ahead and takes nothing. -/
theorem LocalAt.look {p : Parse α} {p' : Parse β} {f : α → Parse γ} {f' : β → Parse δ} {v : α}
    {v' : β} {c d : Cursor} (hv : p c = some (v, c)) (hv' : p' d = some (v', d))
    (h : LocalAt q S c d (f v) (f' v')) : LocalAt q S c d (p >>= f) (p' >>= f') := by
  unfold LocalAt
  rw [bind_apply, bind_apply, hv, hv']
  exact h

/-- A parser that asks for a token, on the same line or not. -/
theorem Local.of_onFreshLine {f : Bool → Parse γ} {f' : Bool → Parse δ}
    (hend : ∀ b, AsksToken (f b)) (hf : ∀ b, Local q S (f b) (f' b)) :
    Local q S (onFreshLine >>= f) (onFreshLine >>= f') := by
  intro c d hcd
  unfold LocalAt
  simp only [bind_apply, onFreshLine_apply, Option.bind_some]
  rcases hcd.front with ⟨⟨-, hfresh⟩, -⟩ | ⟨heof, -⟩
  · rw [← hfresh]
    exact hf _ c d hcd
  · exact LocalAt.of_none (hend _ c heof)

/-! ### Looking -/

theorem peek_local : Local q q.Sees peek peek := by
  rintro ⟨ts, n⟩ ⟨ts', n'⟩ h t c' hrun
  cases h with
  | stop he =>
    cases hrun
    exact ⟨_, _, rfl, .inr ⟨he, rfl⟩, .stop he⟩
  | token halike hne hcloses h =>
    cases hrun
    exact ⟨_, _, rfl, .inl ⟨halike, hne⟩, .token halike hne hcloses h⟩

/-- A parser that looks at the next token and then goes on. -/
theorem Local.of_peek {f : Token → Parse γ} {f' : Token → Parse δ}
    (hend : ∀ e c d, e.tok = .eof → q.Ends c d → LocalAt q S c d (f e) (f' q.word))
    (htoken : ∀ t t', t.Alike t' → t.tok ≠ .eof → Local q S (f t) (f' t')) :
    Local q S (peek >>= f) (peek >>= f') := by
  rintro ⟨ts, n⟩ ⟨ts', n'⟩ h
  cases h with
  | @stop e he => exact hend e ⟨[e], n⟩ ⟨_, n'⟩ he ⟨he, rfl, .stop he⟩
  | token halike hne hcloses h =>
    exact htoken _ _ halike hne ⟨_, n⟩ ⟨_, n'⟩ (.token halike hne hcloses h)

theorem Local.of_peekTok {f : Tok → Parse γ} {f' : Tok → Parse δ}
    (hend : ∀ c d, q.Ends c d → LocalAt q S c d (f .eof) (f' q.word.tok))
    (htoken : ∀ t, t ≠ .eof → Local q S (f t) (f' t)) :
    Local q S (peekTok >>= f) (peekTok >>= f') := by
  rintro ⟨ts, n⟩ ⟨ts', n'⟩ h
  cases h with
  | @stop e he =>
    have hlocal := hend ⟨[e], n⟩ ⟨_, n'⟩ ⟨he, rfl, .stop he⟩
    rw [← he] at hlocal
    exact hlocal
  | @token t t' _ _ halike hne hcloses h =>
    have hlocal := htoken t.tok hne ⟨_, n⟩ ⟨_, n'⟩ (.token halike hne hcloses h)
    intro a c' hrun
    obtain ⟨b, d', hb, hrest⟩ := hlocal a c' hrun
    rw [halike.1] at hb
    exact ⟨b, d', hb, hrest⟩

/-- A parser that looks at the next token and does not tell the sequel from the end. -/
theorem Local.of_peekTok_eq {f : Tok → Parse γ} {f' : Tok → Parse δ}
    (hend : f' (.keyword .kwImport) = f' .eof ∧ f' (.keyword .kwExport) = f' .eof ∧
      f' (.keyword .kwFunction) = f' .eof) (h : ∀ t, Local q S (f t) (f' t)) :
    Local q S (peekTok >>= f) (peekTok >>= f') :=
  .of_peekTok (fun c d hcd => q.apply_word hend ▸ h .eof c d hcd.follows) fun t _ => h t

theorem startPos_local : Local q (fun _ _ => True) startPos startPos :=
  peek_local.bind fun _ _ _ => .pure trivial

theorem spanFrom_local (n n' : Nat) : Local q (fun _ _ => True) (spanFrom n) (spanFrom n') := by
  rintro c d h _ _ hrun
  cases hrun
  exact ⟨_, _, rfl, trivial, h⟩

/-- A test of the next token that does not tell the sequel from the end. -/
theorem test_local {p : Tok → Bool} (h : p .eof = p q.word.tok) :
    Local q Eq (do return p (← peekTok)) (do return p (← peekTok)) := by
  refine Local.of_peekTok (fun c d hcd => ?_) fun t _ => .pure rfl
  rw [h]
  exact .pure hcd.follows rfl

theorem isPunct_local (p : Punct) : Local q Eq (isPunct p) (isPunct p) :=
  test_local (p := (· == .punct p)) (by
    rw [beq_false_of_ne (by simp), beq_false_of_ne (q.word_ne (by simp))])

theorem isWord_local (w : String) : Local q Eq (isWord w) (isWord w) :=
  test_local (p := (· == .name w.toList)) (by
    rw [beq_false_of_ne (by simp), beq_false_of_ne (q.word_ne (by simp))])

theorem isKeyword_local {k : Keyword} (h : k ≠ .kwImport ∧ k ≠ .kwExport ∧ k ≠ .kwFunction) :
    Local q Eq (isKeyword k) (isKeyword k) :=
  test_local (p := (· == .keyword k)) (by
    rw [beq_false_of_ne (by simp), beq_false_of_ne (q.word_ne (by simpa using h))])

theorem onFreshLine_local : Local q (fun _ _ => True) onFreshLine onFreshLine :=
  peek_local.bind fun _ _ _ => .pure trivial

theorem peekSecond_local : Local q (fun _ _ => True) peekSecond peekSecond := by
  rintro c d h t c' hrun
  rw [peekSecond_apply] at hrun
  cases hrun
  exact ⟨_, d, peekSecond_apply d, trivial, h⟩

theorem isName_local : Local q Eq isName isName :=
  test_local (p := fun t => (nameOf? t).isSome) (by rw [q.nameOf?_word]; rfl)

/-! ### Taking tokens -/

theorem advance_cons {t : Token} (h : t.tok ≠ .eof) (hvalid : t.tok ≠ .invalid) (ts : List Token)
    (n : Nat) : advance ⟨t :: ts, n⟩ = some (t, ⟨ts, t.span.stop⟩) := by
  simp [advance]

theorem advance_local : Local q Token.Alike advance advance := by
  rintro ⟨ts, n⟩ ⟨ts', n'⟩ h t c' hrun
  cases h with
  | stop he => simp [advance, he] at hrun
  | @token t t' _ _ halike hne hcloses h =>
    by_cases hvalid : t.tok = .invalid
    · simp [advance, hvalid] at hrun
    · rw [advance_cons hne hvalid] at hrun
      cases hrun
      rw [halike.1] at hne hvalid
      exact ⟨_, _, advance_cons hne hvalid _ _, halike, h⟩

theorem takeIf_local (p : Tok → Bool) : Local q Token.Alike (takeIf p) (takeIf p) := by
  have hfails : ∀ e, AsksToken (if p e then advance else failure : Parse Token) := by
    intro e
    split
    · exact advance_asks
    · exact fun _ _ => rfl
  unfold takeIf
  refine Local.of_peek (fun e c d _ hcd => (hfails e.tok).localAt hcd) ?_
  rintro t t' ⟨htok, -⟩ -
  rw [← htok]
  exact .ite advance_local .failure

theorem tok_local (t : Tok) : Local q Eq (tok t) (tok t) :=
  (takeIf_local _).bind fun _ _ _ => .pure rfl

theorem eatTok_local {t : Tok} (heof : t ≠ .eof) (h : q.word.tok ≠ t) :
    Local q Eq (eatTok t) (eatTok t) := by
  unfold eatTok
  refine Local.of_peekTok (fun c d hcd => ?_) fun t' _ => ?_
  · rw [if_neg (by simpa using heof.symm), if_neg (by simpa using h)]
    exact .pure hcd.follows rfl
  · exact .ite (advance_local.bind fun _ _ _ => .pure rfl) (.pure rfl)

theorem punct_local (p : Punct) : Local q Eq (punct p) (punct p) := tok_local _

theorem keyword_local (k : Keyword) : Local q Eq (keyword k) (keyword k) := tok_local _

theorem word_local (w : String) : Local q Eq (word w) (word w) := tok_local _

theorem eatPunct_local (p : Punct) : Local q Eq (eatPunct p) (eatPunct p) :=
  eatTok_local (by simp) (q.word_ne (by simp))

theorem eatWord_local (w : String) : Local q Eq (eatWord w) (eatWord w) :=
  eatTok_local (by simp) (q.word_ne (by simp))

theorem eatKeyword_local {k : Keyword} (h : k ≠ .kwImport ∧ k ≠ .kwExport ∧ k ≠ .kwFunction) :
    Local q Eq (eatKeyword k) (eatKeyword k) :=
  eatTok_local (by simp) (q.word_ne (by simpa using h))

theorem name_local : Local q Eq name name := by
  unfold name
  refine Local.of_peekTok (fun _ _ hcd => .of_none rfl) fun t _ => ?_
  cases nameOf? t with
  | some id => exact advance_local.bind fun _ _ _ => .pure rfl
  | none => exact .failure

theorem anyWord_local : Local q Eq anyWord anyWord := by
  unfold anyWord
  refine Local.of_peekTok (fun _ _ hcd => .of_none rfl) fun t _ => ?_
  cases wordOf? t with
  | some id => exact advance_local.bind fun _ _ _ => .pure rfl
  | none => exact .failure

/-! ### Ends of statements -/

theorem atStatementEnd_local : Local q Eq atStatementEnd atStatementEnd := by
  unfold atStatementEnd
  refine Local.of_peek (fun e c d he hcd => .pure hcd.follows ?_) ?_
  · simp [he, q.fresh]
  · rintro t t' ⟨htok, hfresh⟩ -
    exact .pure (by rw [htok, hfresh])

theorem eatSemicolon_local : Local q Eq eatSemicolon eatSemicolon :=
  (eatPunct_local .semicolon).then fun _ => .ite (.pure rfl) atStatementEnd_local

theorem semicolon_local : Local q Eq semicolon semicolon :=
  eatSemicolon_local.then fun b => guard_local b

/-! ### The last token -/

/-- One token is left before the end of the text. -/
def OneLeft (c : Cursor) : Prop := ∃ t e, c.tokens = [t, e] ∧ e.tok = .eof

def AtEnd (c : Cursor) : Prop := (front c).tok = .eof

/-- From a place where `P` holds, the parser leads to one where `Q` holds. -/
def Leads (P Q : Cursor → Prop) (p : Parse α) : Prop := ∀ c a c', P c → p c = some (a, c') → Q c'

section Leads

variable {P Q T : Cursor → Prop}

theorem Leads.bind {p : Parse α} {f : α → Parse γ} (hp : Leads P Q p) (hf : ∀ a, Leads Q T (f a)) :
    Leads P T (p >>= f) := by
  intro c x c' hc hrun
  obtain ⟨⟨a, c₁⟩, ha, hx⟩ := Option.bind_eq_some_iff.mp hrun
  exact hf a c₁ x c' (hp c a c₁ hc ha) hx

theorem Leads.look {p : Parse α} (h : ∀ c, ∃ a, p c = some (a, c)) : Leads P P p := by
  intro c x c' hc hrun
  obtain ⟨a, ha⟩ := h c
  rw [ha] at hrun
  cases hrun
  exact hc

theorem Leads.pure (a : α) : Leads P P (Pure.pure a : Parse α) := .look fun _ => ⟨a, rfl⟩

theorem Leads.guard (b : Bool) : Leads P P (guard b : Parse Unit) := by
  cases b with
  | true => exact .pure ()
  | false => rintro c x c' - ⟨⟩

theorem Leads.ite {b : Bool} {x y : Parse α} (hx : Leads P Q x) (hy : Leads P Q y) :
    Leads P Q (if b then x else y) := by
  cases b with
  | true => exact hx
  | false => exact hy

theorem Leads.peekTok : Leads P P peekTok := .look fun c => ⟨_, peekTok_apply c⟩

theorem Leads.isPunct (p : Punct) : Leads P P (isPunct p) := Leads.peekTok.bind fun _ => .pure _

theorem Leads.spanFrom (start : Nat) : Leads P P (spanFrom start) := .look fun _ => ⟨_, rfl⟩

theorem AsksToken.leads {p : Parse α} (h : AsksToken p) : Leads AtEnd T p := by
  intro c a c' hc hrun
  rw [h c hc] at hrun
  cases hrun

theorem advance_leads : Leads OneLeft AtEnd advance := by
  rintro ⟨ts, n⟩ a c' ⟨t, e, rfl, he⟩ hrun
  simp only [advance] at hrun
  split at hrun
  · cases hrun
  · cases hrun
  · cases hrun
    exact he

theorem Leads.anyWord : Leads OneLeft AtEnd anyWord := by
  refine Leads.peekTok.bind fun t => ?_
  cases wordOf? t with
  | some id => exact advance_leads.bind fun _ => .pure _
  | none => rintro c x c' - ⟨⟩

theorem Leads.eatPunct_atEnd (p : Punct) : Leads AtEnd AtEnd (eatPunct p) :=
  Leads.peekTok.bind fun _ => .ite (advance_asks.leads.bind fun _ => .pure _) (.pure _)

/-- A punctuator that may be the last token. -/
theorem Leads.eatPunct_bind {p : Punct} {f : Bool → Parse γ} (htrue : Leads AtEnd T (f true))
    (hfalse : Leads OneLeft T (f false)) : Leads OneLeft T (Parse.eatPunct p >>= f) := by
  intro c x c' hc hrun
  rw [bind_apply, Parse.eatPunct, eatTok, peekTok_bind] at hrun
  split at hrun
  · obtain ⟨⟨b, c₁⟩, hb, hx⟩ := Option.bind_eq_some_iff.mp hrun
    obtain ⟨⟨t, c₂⟩, ht, hb⟩ := Option.bind_eq_some_iff.mp hb
    cases hb
    exact htrue c₁ x c' (advance_leads c t c₁ hc ht) hx
  · exact hfalse c x c' hc hrun

theorem Leads.semicolon : Leads AtEnd AtEnd semicolon := by
  refine Leads.bind ((Leads.eatPunct_atEnd _).bind fun _ => .ite (.pure _) ?_) fun b => .guard b
  exact (Leads.look fun c => ⟨_, peek_apply c⟩).bind fun _ => .pure _

end Leads

/-! ### Repetition -/

theorem iterate_local {step : α → Parse (α ⊕ γ)} {step' : β → Parse (β ⊕ δ)}
    (h : ∀ a b, R a b → Local q (Sum.LiftRel R S) (step a) (step' b)) {fuel fuel' : Nat}
    (hfuel : fuel ≤ fuel') {a : α} {b : β} (hab : R a b) :
    Local q S (iterate step fuel a) (iterate step' fuel' b) := by
  induction fuel generalizing fuel' a b with
  | zero => exact .failure
  | succ fuel ih =>
    obtain ⟨fuel', rfl⟩ : ∃ k, fuel' = k + 1 := Nat.exists_eq_succ_of_ne_zero (by omega)
    refine (h a b hab).bind ?_
    rintro _ _ (⟨hr⟩ | ⟨hr⟩)
    · exact ih (by omega) hr
    · exact .pure hr

theorem repeating_local {step : α → Parse (α ⊕ γ)} {step' : β → Parse (β ⊕ δ)}
    (h : ∀ a b, R a b → Local q (Sum.LiftRel R S) (step a) (step' b)) {a : α} {b : β}
    (hab : R a b) : Local q S (repeating step a) (repeating step' b) :=
  fun c d hcd => iterate_local h (Nat.succ_le_succ hcd.length_le) hab c d hcd

/-- A parser that does the same on a text with a sequel unless it comes to the end of the text. -/
def LocalInside (q : Sequel) (R : α → β → Prop) (p : Parse α) (p' : Parse β) : Prop :=
  ∀ c d, q.Follows c.tokens d.tokens → ∀ a c', p c = some (a, c') → (front c').tok ≠ .eof →
    ∃ b d', p' d = some (b, d') ∧ R a b ∧ q.Follows c'.tokens d'.tokens

theorem Local.inside {p : Parse α} {p' : Parse β} (h : Local q R p p') : LocalInside q R p p' :=
  fun c d hcd a c' hrun _ => h c d hcd a c' hrun

theorem Local.bind_inside {p : Parse α} {p' : Parse β} {f : α → Parse γ} {f' : β → Parse δ}
    (hp : Local q R p p') (hf : ∀ a b, R a b → LocalInside q S (f a) (f' b)) :
    LocalInside q S (p >>= f) (p' >>= f') := by
  intro c d h x c' hrun hne
  obtain ⟨⟨a, c₁⟩, ha, hx⟩ := Option.bind_eq_some_iff.mp hrun
  obtain ⟨b, d₁, hb, hab, h₁⟩ := hp c d h a c₁ ha
  obtain ⟨y, d', hy, hxy, h'⟩ := hf a b hab c₁ d₁ h₁ x c' hx hne
  exact ⟨y, d', by rw [bind_apply, hb]; exact hy, hxy, h'⟩

theorem Local.then_inside {p p' : Parse α} {f : α → Parse γ} {f' : α → Parse δ}
    (hp : Local q Eq p p') (hf : ∀ a, LocalInside q S (f a) (f' a)) :
    LocalInside q S (p >>= f) (p' >>= f') :=
  hp.bind_inside fun a _ h => h ▸ hf a

theorem LocalInside.ite {b : Bool} {x y : Parse α} {x' y' : Parse β} (hx : LocalInside q R x x')
    (hy : LocalInside q R y y') :
    LocalInside q R (if b then x else y) (if b then x' else y') := by
  cases b with
  | true => exact hx
  | false => exact hy

/-- A parser that goes on after another one where the text has not ended. -/
theorem LocalInside.bind {p : Parse α} {p' : Parse β} {f : α → Parse γ} {f' : β → Parse δ}
    (hp : LocalInside q R p p') (hend : ∀ a, AsksToken (f a))
    (hf : ∀ a b, R a b → Local q S (f a) (f' b)) : Local q S (p >>= f) (p' >>= f') := by
  intro c d h x c' hrun
  obtain ⟨⟨a, c₁⟩, ha, hx⟩ := Option.bind_eq_some_iff.mp hrun
  have hne : (front c₁).tok ≠ .eof := by
    intro heof
    cases (hend a c₁ heof).symm.trans hx
  obtain ⟨b, d₁, hb, hab, h₁⟩ := hp c d h a c₁ ha hne
  obtain ⟨y, d', hy, hxy, h'⟩ := hf a b hab c₁ d₁ h₁ x c' hx
  exact ⟨y, d', by rw [bind_apply, hb]; exact hy, hxy, h'⟩

/-- A step of a loop that does the same on a text with a sequel unless the loop goes on where the
text ends. -/
def LocalStep {ε : Type} (q : Sequel) (R : α → β → Prop) (T : γ → ε → Prop) (p : Parse (α ⊕ γ))
    (p' : Parse (β ⊕ ε)) : Prop :=
  ∀ c d, q.Follows c.tokens d.tokens → ∀ r c', p c = some (r, c') →
    (r.isLeft = true → (front c').tok ≠ .eof) →
    ∃ r' d', p' d = some (r', d') ∧ Sum.LiftRel R T r r' ∧ q.Follows c'.tokens d'.tokens

theorem Local.step {p : Parse (α ⊕ γ)} {p' : Parse (β ⊕ δ)}
    (h : Local q (Sum.LiftRel R S) p p') : LocalStep q R S p p' :=
  fun c d hcd r c' hrun _ => h c d hcd r c' hrun

/-- A parser that is the last part of a step after which the loop goes on. -/
theorem LocalInside.inl {ε ζ : Type} {T : γ → δ → Prop} {U : ε → ζ → Prop} {p : Parse α}
    {p' : Parse β} (h : LocalInside q R p p') {f : α → γ} {f' : β → δ}
    (hf : ∀ a b, R a b → T (f a) (f' b)) :
    LocalStep q T U (p >>= fun a => Pure.pure (.inl (f a)))
      (p' >>= fun b => Pure.pure (.inl (f' b))) := by
  intro c d hcd r c' hrun hne
  obtain ⟨⟨a, c₁⟩, ha, hr⟩ := Option.bind_eq_some_iff.mp hrun
  cases hr
  obtain ⟨b, d', hb, hab, hcd'⟩ := h c d hcd a c' ha (hne rfl)
  exact ⟨.inl (f' b), d', by rw [bind_apply, hb]; rfl, .inl (hf a b hab), hcd'⟩

theorem Local.then_step {p p' : Parse α} {f : α → Parse (β ⊕ γ)} {f' : α → Parse (β ⊕ γ)}
    {T : β → β → Prop} {U : γ → γ → Prop} (hp : Local q Eq p p')
    (hf : ∀ a, LocalStep q T U (f a) (f' a)) : LocalStep q T U (p >>= f) (p' >>= f') := by
  intro c d h x c' hrun hne
  obtain ⟨⟨a, c₁⟩, ha, hx⟩ := Option.bind_eq_some_iff.mp hrun
  obtain ⟨_, d₁, hb, rfl, h₁⟩ := hp c d h a c₁ ha
  obtain ⟨y, d', hy, hxy, h'⟩ := hf a c₁ d₁ h₁ x c' hx hne
  exact ⟨y, d', by rw [bind_apply, hb]; exact hy, hxy, h'⟩

theorem LocalStep.ite {b : Bool} {x y : Parse (α ⊕ γ)} {x' y' : Parse (β ⊕ δ)}
    (hx : LocalStep q R S x x') (hy : LocalStep q R S y y') :
    LocalStep q R S (if b then x else y) (if b then x' else y') := by
  cases b with
  | true => exact hx
  | false => exact hy

theorem iterate_asks {step : α → Parse (α ⊕ γ)} (h : ∀ a, AsksToken (step a)) (fuel : Nat) (a : α) :
    AsksToken (iterate step fuel a) := by
  cases fuel with
  | zero => exact fun _ _ => rfl
  | succ fuel => exact (h a).bind _

theorem repeating_local_of_step {step : α → Parse (α ⊕ γ)} {step' : β → Parse (β ⊕ δ)}
    (hasks : ∀ a, AsksToken (step a)) (h : ∀ a b, R a b → LocalStep q R S (step a) (step' b))
    {a : α} {b : β} (hab : R a b) : Local q S (repeating step a) (repeating step' b) := by
  suffices hiterate : ∀ fuel fuel' a b, fuel ≤ fuel' → R a b →
      Local q S (iterate step fuel a) (iterate step' fuel' b) from
    fun c d hcd => hiterate _ _ a b (Nat.succ_le_succ hcd.length_le) hab c d hcd
  intro fuel
  induction fuel with
  | zero => exact fun _ _ _ _ _ => .failure
  | succ fuel ih =>
    intro fuel' a b hfuel hab c d hcd x c' hrun
    obtain ⟨fuel', rfl⟩ : ∃ k, fuel' = k + 1 := Nat.exists_eq_succ_of_ne_zero (by omega)
    obtain ⟨⟨r, c₁⟩, hr, hx⟩ := Option.bind_eq_some_iff.mp hrun
    have hne : r.isLeft = true → (front c₁).tok ≠ .eof := by
      rintro hleft heof
      obtain ⟨a', rfl⟩ := Sum.isLeft_iff.mp hleft
      cases (iterate_asks hasks fuel a' c₁ heof).symm.trans hx
    obtain ⟨r', d₁, hr', hrel, hcd₁⟩ := h a b hab c d hcd r c₁ hr hne
    cases hrel with
    | inl hrel =>
      obtain ⟨y, d', hy, hrest⟩ := ih fuel' _ _ (by omega) hrel c₁ d₁ hcd₁ x c' hx
      exact ⟨y, d', by rw [iterate, bind_apply, hr']; exact hy, hrest⟩
    | inr hrel =>
      obtain ⟨y, d', hy, hrest⟩ := LocalAt.pure hcd₁ hrel x c' hx
      exact ⟨y, d', by rw [iterate, bind_apply, hr']; exact hy, hrest⟩

theorem commaList_local {close : Punct} {item : Parse α} {item' : Parse β}
    (h : LocalInside q R item item') :
    Local q (List.Forall₂ R) (commaList close item) (commaList close item') := by
  unfold commaList
  refine (repeating_local (R := List.Forall₂ R) (S := List.Forall₂ R) ?_ .nil).bind
    fun xs ys hxs => .pure (List.rel_reverse hxs)
  intro xs ys hxs
  refine (eatPunct_local close).then fun b => .ite (.pure (.inr hxs)) ?_
  refine h.bind (fun a c hc => ?_) fun x y hxy => ?_
  · have hnone := punct_asks .comma c hc
    simp [isPunct, peekTok_apply, hc, hnone]
  · exact (isPunct_local close).then fun b =>
      .ite ((punct_local _).then fun _ => .pure (.inl (.cons hxy hxs)))
        (.pure (.inl (.cons hxy hxs)))

theorem commaSeparated_local {item : Parse α} {item' : Parse β} (h : Local q R item item') :
    Local q (List.Forall₂ R) (commaSeparated item) (commaSeparated item') := by
  unfold commaSeparated
  refine h.bind fun x y hxy => ?_
  refine (repeating_local (R := List.Forall₂ R) (S := List.Forall₂ R) (fun xs ys hxs => ?_)
    (.cons hxy .nil)).bind fun xs ys hxs => .pure (List.rel_reverse hxs)
  exact (eatPunct_local _).then fun b => .ite (h.bind fun x y hxy => .pure (.inl (.cons hxy hxs)))
    (.pure (.inr hxs))

theorem itemsTo_local {close : Punct} {item : Parse α} {item' : Parse β}
    (h : Local q R item item') :
    Local q (List.Forall₂ R) (itemsTo close item) (itemsTo close item') := by
  unfold itemsTo
  refine (repeating_local (R := List.Forall₂ R) (S := List.Forall₂ R) (fun xs ys hxs => ?_)
    .nil).bind fun xs ys hxs => .pure (List.rel_reverse hxs)
  exact (eatPunct_local _).then fun b => .ite (.pure (.inr hxs))
    (h.bind fun x y hxy => .pure (.inl (.cons hxy hxs)))

end Parse

end StoryExports.Script
