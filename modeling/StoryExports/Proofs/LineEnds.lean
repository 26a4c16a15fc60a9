import Mathlib.Data.List.Induction
import Mathlib.Data.Option.Basic
import StoryExports.Script.Lexer

/-!
# Lines that follow

What the scanners read off the beginning of a text does not depend on the lines that follow, unless
it goes on there.
-/
namespace StoryExports

theorem Text.stripStart?_append_break {beginning : Text} (h : '\n' ∉ beginning) (t u : Text) :
    stripStart? (t ++ '\n' :: u) beginning =
      (stripStart? t beginning).map (· ++ '\n' :: u) := by
  induction beginning generalizing t with
  | nil => simp [stripStart?]
  | cons b bs ih =>
    obtain ⟨hb, hbs⟩ : '\n' ≠ b ∧ '\n' ∉ bs := by simpa using h
    cases t with
    | nil => simp [stripStart?, hb]
    | cons c t =>
      simp only [List.cons_append, stripStart?, ih hbs]
      split <;> rfl

theorem Text.length_of_stripStart? {t beginning rest : Text}
    (h : stripStart? t beginning = some rest) : t.length = beginning.length + rest.length := by
  induction beginning generalizing t with
  | nil => simp_all [stripStart?]
  | cons b bs ih =>
    cases t with
    | nil => cases h
    | cons c t =>
      simp only [stripStart?] at h
      split at h
      · simp only [List.length_cons, ih h]
        omega
      · cases h

namespace Script

variable {α β : Type} {t : Text}

/-- The same piece in front of more text. -/
def Scan.extend (s : Scan α) (u : Text) : Scan α := { s with rest := s.rest ++ u }

namespace Scan

variable (s : Scan α) (u : Text)

@[simp] theorem extend_value : (s.extend u).value = s.value := rfl

@[simp] theorem extend_size : (s.extend u).size = s.size := rfl

@[simp] theorem extend_rest : (s.extend u).rest = s.rest ++ u := rfl

@[simp] theorem map_extend (f : α → β) : (s.extend u).map f = (s.map f).extend u := rfl

@[simp] theorem after_extend (n : Nat) : (s.extend u).after n = (s.after n).extend u := rfl

end Scan

theorem scanWhile_append_break {p : Char → Bool} (hp : p '\n' = false) (t u : Text) :
    scanWhile p (t ++ '\n' :: u) = (scanWhile p t).extend ('\n' :: u) := by
  induction t with
  | nil => simp [scanWhile, hp, Scan.extend]
  | cons c t ih =>
    simp only [List.cons_append, scanWhile, ih]
    split <;> rfl

theorem scanWhile_length (p : Char → Bool) (t : Text) :
    (scanWhile p t).value.length + (scanWhile p t).rest.length = t.length := by
  induction t with
  | nil => rfl
  | cons c t ih =>
    simp only [scanWhile]
    split
    · simp only [List.length_cons]
      omega
    · simp

theorem digitBelow?_break (base : Nat) : digitBelow? base '\n' = none := rfl

theorem scanHex_append_break (n : Nat) (t u : Text) :
    scanHex n (t ++ '\n' :: u) = (scanHex n t).map (·.extend ('\n' :: u)) := by
  induction n generalizing t with
  | zero => rfl
  | succ n ih =>
    cases t with
    | nil => rfl
    | cons c t =>
      simp only [List.cons_append, scanHex, ih]
      split
      · cases scanHex n t <;> rfl
      · rfl

theorem scanHex_length {n : Nat} {s : Scan Text} (h : scanHex n t = some s) :
    s.rest.length ≤ t.length := by
  induction n generalizing t s with
  | zero =>
    cases h
    exact Nat.le_refl _
  | succ n ih =>
    cases t with
    | nil => cases h
    | cons c t =>
      simp only [scanHex] at h
      split at h
      · obtain ⟨s', hs', rfl⟩ := Option.map_eq_some_iff.mp h
        have hlen := ih hs'
        simp only [List.length_cons]
        omega
      · cases h

theorem scanUnicode_cons {c : Char} (hc : c ≠ '\x7b') (t : Text) :
    scanUnicode (c :: t) = (scanHex 4 (c :: t)).map fun s =>
      s.map fun digits => match scalar? (hexValue digits) with
        | some c => [c]
        | none => '\\' :: 'u' :: digits := by
  unfold scanUnicode
  split
  · rename_i heq
    cases heq
    exact absurd rfl hc
  · rfl

theorem scanUnicode_append_break (t u : Text) :
    scanUnicode (t ++ '\n' :: u) = (scanUnicode t).map (·.extend ('\n' :: u)) := by
  cases t with
  | nil => rfl
  | cons c t =>
    by_cases hc : c = '\x7b'
    · subst hc
      have hwhile := scanWhile_append_break (p := fun c => (digitBelow? 16 c).isSome) rfl t u
      simp only [List.cons_append, scanUnicode, hwhile, Scan.extend_rest, Scan.extend_value,
        Scan.extend_size]
      cases hrest : (scanWhile (fun c => (digitBelow? 16 c).isSome) t).rest with
      | nil => rfl
      | cons d rest =>
        by_cases hd : d = '\x7d'
        · subst hd
          simp only [List.cons_append]
          split <;> rfl
        · simp [hd]
    · have hhex := scanHex_append_break 4 (c :: t) u
      rw [List.cons_append] at hhex ⊢
      rw [scanUnicode_cons hc, scanUnicode_cons hc, hhex]
      cases scanHex 4 (c :: t) <;> rfl

theorem scanUnicode_length {s : Scan Text} (h : scanUnicode t = some s) :
    s.rest.length ≤ t.length := by
  unfold scanUnicode at h
  split at h
  · rename_i cs
    have hlen := scanWhile_length (fun c => (digitBelow? 16 c).isSome) cs
    dsimp only at h
    split at h
    · rename_i rest hrest
      rw [hrest] at hlen
      split at h
      · cases h
      · cases h
        simp only [List.length_cons] at hlen ⊢
        omega
    · cases h
  · obtain ⟨s', hs', rfl⟩ := Option.map_eq_some_iff.mp h
    have hlen := scanHex_length hs'
    exact hlen

theorem takeWhile_append_break {p : Char → Bool} (hp : p '\n' = false) (t u : Text) :
    (t ++ '\n' :: u).takeWhile p = t.takeWhile p := by
  induction t with
  | nil => simp [hp]
  | cons c t ih => simp only [List.cons_append, List.takeWhile_cons, ih]

theorem scanOctal_append_break (t u : Text) :
    scanOctal (t ++ '\n' :: u) = (scanOctal t).extend ('\n' :: u) := by
  have hdigits := takeWhile_append_break (p := fun c => (digitBelow? 8 c).isSome) rfl t u
  have hdrop : ∀ taken : Text, taken <+: t.takeWhile (fun c => (digitBelow? 8 c).isSome) →
      (t ++ '\n' :: u).drop taken.length = t.drop taken.length ++ '\n' :: u := by
    intro taken htaken
    have hprefix := htaken.trans (List.takeWhile_prefix _)
    exact List.drop_append_of_le_length hprefix.length_le
  simp only [scanOctal, hdigits, Scan.extend]
  split
  · rw [hdrop _ (List.take_prefix _ _)]
  · rw [hdrop _ ((List.take_prefix _ _).trans (List.take_prefix _ _))]

/-- An escape that does not take the line break. -/
theorem scanEscape_append_break {t : Text} (hne : t ≠ []) (hcr : t ≠ ['\r']) (u : Text) :
    scanEscape (t ++ '\n' :: u) = (scanEscape t).map (·.extend ('\n' :: u)) := by
  cases t with
  | nil => exact absurd rfl hne
  | cons c t =>
    have hoctal := scanOctal_append_break (c :: t) u
    rw [List.cons_append] at hoctal ⊢
    simp only [scanEscape, scanHex_append_break, scanUnicode_append_break]
    split
    iterate 6 rfl
    · cases scanHex 2 t <;> rfl
    · cases scanUnicode t <;> rfl
    · cases t with
      | nil => exact absurd rfl hcr
      | cons d t =>
        by_cases hd : d = '\n'
        · subst hd
          rfl
        · simp [hd, Scan.extend]
    · split
      · rfl
      split
      · rw [hoctal]
        rfl
      · rfl

theorem scanEscape_length {s : Scan Text} (h : scanEscape t = some s) :
    s.rest.length ≤ t.length := by
  unfold scanEscape at h
  split at h
  · cases h
  · rename_i c cs
    dsimp only at h
    split at h
    iterate 6
      · cases h
        exact Nat.le_succ _
    · obtain ⟨s', hs', rfl⟩ := Option.map_eq_some_iff.mp h
      have hlen := scanHex_length hs'
      exact Nat.le_succ_of_le hlen
    · obtain ⟨s', hs', rfl⟩ := Option.map_eq_some_iff.mp h
      have hlen := scanUnicode_length hs'
      exact Nat.le_succ_of_le hlen
    · split at h <;> cases h <;> simp only [List.length_cons] <;> omega
    · split at h
      · cases h
        exact Nat.le_succ _
      split at h
      · cases h
        simp [Scan.map, scanOctal]
      · cases h
        exact Nat.le_succ _

/-- Two line breaks are more than a string can hold, so it ends before them. -/
theorem scanStringFrom_break {quote : Char} (hquote : quote ≠ '\n') {fuel : Nat} {s : Scan Text}
    (h : scanStringFrom quote fuel (t ++ ['\n', '\n']) = some s) :
    ∃ s₀ : Scan Text, s₀.rest.length ≤ t.length ∧ ∀ u fuel', fuel ≤ fuel' →
      scanStringFrom quote fuel' (t ++ '\n' :: u) = some (s₀.extend ('\n' :: u)) := by
  have hbreak : ∀ fuel u, scanStringFrom quote fuel ('\n' :: u) = none := by
    intro fuel u
    cases fuel with
    | zero => rfl
    | succ fuel => simp [scanStringFrom, hquote.symm]
  induction fuel generalizing t s with
  | zero => cases h
  | succ fuel ih =>
    cases t with
    | nil =>
      rw [List.nil_append, hbreak] at h
      cases h
    | cons c t =>
      simp only [List.cons_append, scanStringFrom] at h
      have hmore : ∀ {fuel' : Nat}, fuel + 1 ≤ fuel' → ∃ n, fuel' = n + 1 ∧ fuel ≤ n :=
        fun hle => ⟨_, (Nat.sub_add_cancel (Nat.le_of_add_left_le hle)).symm,
          Nat.le_sub_one_of_lt hle⟩
      split at h
      · rename_i hend
        refine ⟨⟨[], c.utf8Size, t⟩, Nat.le_succ _, fun u fuel' hle => ?_⟩
        obtain ⟨n, rfl, -⟩ := hmore hle
        simp only [List.cons_append, scanStringFrom, if_pos hend]
        rfl
      rename_i hend
      split at h
      · rename_i hslash
        by_cases hnil : t = []
        · have hjoin : scanEscape ['\n', '\n'] = some ⟨[], 1, ['\n']⟩ := rfl
          rw [hnil, List.nil_append, hjoin] at h
          simp [hbreak] at h
        by_cases hcr : t = ['\r']
        · have hjoin : scanEscape ['\r', '\n', '\n'] = some ⟨[], 2, ['\n']⟩ := rfl
          rw [hcr, List.cons_append, List.nil_append, hjoin] at h
          simp [hbreak] at h
        rw [scanEscape_append_break hnil hcr] at h
        cases hescape : scanEscape t with
        | none => simp [hescape] at h
        | some escape =>
          simp only [hescape, Option.map_some, Scan.extend_rest] at h
          obtain ⟨s', hs', rfl⟩ := Option.map_eq_some_iff.mp h
          obtain ⟨s₀, hlen, hread⟩ := ih hs'
          refine ⟨⟨escape.value ++ s₀.value, 1 + escape.size + s₀.size, s₀.rest⟩,
            Nat.le_succ_of_le (Nat.le_trans hlen (scanEscape_length hescape)),
            fun u fuel' hle => ?_⟩
          obtain ⟨n, rfl, hn⟩ := hmore hle
          simp only [List.cons_append, scanStringFrom, if_neg hend, if_pos hslash,
            scanEscape_append_break hnil hcr, hescape, Option.map_some, Scan.extend_rest,
            hread u n hn]
          rfl
      rename_i hslash
      split at h
      · cases h
      · rename_i hline
        obtain ⟨s', hs', rfl⟩ := Option.map_eq_some_iff.mp h
        obtain ⟨s₀, hlen, hread⟩ := ih hs'
        refine ⟨⟨c :: s₀.value, c.utf8Size + s₀.size, s₀.rest⟩, Nat.le_succ_of_le hlen,
          fun u fuel' hle => ?_⟩
        obtain ⟨n, rfl, hn⟩ := hmore hle
        simp only [List.cons_append, scanStringFrom, if_neg hend, if_neg hslash, if_neg hline,
          hread u n hn]
        rfl

theorem any_head?_append_break (t u : Text) :
    (t ++ '\n' :: u).head?.any isDigit = t.head?.any isDigit := by
  cases t <;> rfl

/-- Whether an escape in a template is valid does not depend on the lines that follow. -/
theorem isSome_scanEscape_append_break (c : Char) (t u : Text) :
    (scanEscape (c :: t ++ '\n' :: u)).isSome = (scanEscape (c :: t)).isSome := by
  by_cases hcr : c :: t = ['\r']
  · cases hcr
    rfl
  · rw [scanEscape_append_break (List.cons_ne_nil c t) hcr, Option.isSome_map]

theorem scanChunkFrom_cons {valid : Bool} {c : Char} {cs : Text} (hback : c ≠ '\x60')
    (hhole : c = '$' → cs.head? ≠ some '\x7b') (hslash : c ≠ '\\') :
    scanChunkFrom valid (c :: cs) = (scanChunkFrom valid cs).map (·.after c.utf8Size) := by
  rw [scanChunkFrom.eq_def]
  split
  · exact absurd ‹_› (List.cons_ne_nil _ _)
  all_goals
    rename_i heq
    obtain ⟨rfl, rfl⟩ := List.cons.inj heq
    simp at hback hhole hslash
  rfl

/-- A piece of a template ends before its last two line breaks, since the text ends there. -/
theorem scanChunkFrom_break {valid : Bool} {s : Scan Bool}
    (h : scanChunkFrom valid (t ++ ['\n', '\n']) = some s) :
    ∃ s₀ : Scan Bool, s₀.rest.length ≤ t.length ∧
      ((∀ cs, t ≠ '\x60' :: cs) → (∀ cs, t ≠ '$' :: '\x7b' :: cs) → s₀.rest.length < t.length) ∧
      ∀ u, scanChunkFrom valid (t ++ '\n' :: u) = some (s₀.extend ('\n' :: u)) := by
  fun_induction scanChunkFrom valid t generalizing s with
  | case1 => cases h
  | case2 valid cs =>
    exact ⟨⟨valid, 0, '\x60' :: cs⟩, Nat.le_refl _, fun hback => absurd rfl (hback cs),
      fun u => rfl⟩
  | case3 valid cs =>
    exact ⟨⟨valid, 0, '$' :: '\x7b' :: cs⟩, Nat.le_refl _, fun _ hhole => absurd rfl (hhole cs),
      fun u => rfl⟩
  | case4 valid c cs plain escape =>
    rename_i ih
    have hchunk : ∀ u, scanChunkFrom valid ('\\' :: c :: cs ++ '\n' :: u) =
        (scanChunkFrom (valid && ((scanEscape (c :: cs)).isSome && plain)) (cs ++ '\n' :: u)).map
          (·.after (1 + c.utf8Size)) := by
      intro u
      have hescape := isSome_scanEscape_append_break c cs u
      simp only [List.cons_append] at hescape ⊢
      simp only [scanChunkFrom, hescape, any_head?_append_break]
      rfl
    rw [hchunk] at h
    obtain ⟨s', hs', rfl⟩ := Option.map_eq_some_iff.mp h
    obtain ⟨s₀, hlen, -, hread⟩ := ih hs'
    have hlt := Nat.lt_succ_of_le (Nat.le_succ_of_le hlen)
    refine ⟨s₀.after (1 + c.utf8Size), Nat.le_of_lt hlt, fun _ _ => hlt, fun u => ?_⟩
    rw [hchunk, hread u]
    rfl
  | case5 valid c cs hback hhole hslash ih =>
    by_cases hjoin : c = '\\'
    · subst hjoin
      cases cs with
      | nil => cases h
      | cons d cs => exact absurd rfl (hslash d cs rfl)
    have hchunk : ∀ u, scanChunkFrom valid (c :: cs ++ '\n' :: u) =
        (scanChunkFrom valid (cs ++ '\n' :: u)).map (·.after c.utf8Size) := fun u =>
      scanChunkFrom_cons hback (by cases cs <;> simp_all) hjoin
    rw [hchunk] at h
    obtain ⟨s', hs', rfl⟩ := Option.map_eq_some_iff.mp h
    obtain ⟨s₀, hlen, -, hread⟩ := ih hs'
    have hlt := Nat.lt_succ_of_le hlen
    refine ⟨s₀.after c.utf8Size, Nat.le_of_lt hlt, fun _ _ => hlt, fun u => ?_⟩
    rw [hchunk, hread u]
    rfl

theorem scanRegexFrom_cons {inClass : Bool} {c : Char} {cs : Text} (hslash : c ≠ '\\') :
    scanRegexFrom inClass (c :: cs) =
      if isLineBreak c then none
      else if c = '/' && !inClass then some ⟨(), 1, cs⟩
      else (scanRegexFrom (if c = '[' then true else if c = ']' then false else inClass) cs).map
        (·.after c.utf8Size) := by
  rw [scanRegexFrom.eq_def]
  split
  · exact absurd ‹_› (List.cons_ne_nil _ _)
  all_goals
    rename_i heq
    obtain ⟨rfl, rfl⟩ := List.cons.inj heq
    simp at hslash
  rfl

theorem scanRegexFrom_append_break (inClass : Bool) (t u : Text) :
    scanRegexFrom inClass (t ++ '\n' :: u) =
      (scanRegexFrom inClass t).map (·.extend ('\n' :: u)) := by
  induction t using List.twoStepInduction generalizing inClass with
  | nil => rfl
  | singleton c =>
    by_cases hslash : c = '\\'
    · subst hslash
      rfl
    · simp only [List.cons_append, List.nil_append, scanRegexFrom_cons hslash]
      split
      · rfl
      split <;> rfl
  | cons_cons c d t ih ih' =>
    by_cases hslash : c = '\\'
    · subst hslash
      simp only [List.cons_append, scanRegexFrom, ih]
      split
      · rfl
      · cases scanRegexFrom inClass t <;> rfl
    · simp only [List.cons_append, scanRegexFrom_cons hslash] at ih' ⊢
      simp only [ih']
      split
      · rfl
      split
      · rfl
      · cases scanRegexFrom _ (d :: t) <;> rfl

theorem isNamePart_break : isNamePart '\n' = false := by decide

theorem isNameStart_break : isNameStart '\n' = false := by decide

theorem scanRegex_append_break (t u : Text) :
    scanRegex (t ++ '\n' :: u) = (scanRegex t).map (·.extend ('\n' :: u)) := by
  rw [scanRegex, scanRegex, scanRegexFrom_append_break]
  cases scanRegexFrom false t with
  | none => rfl
  | some body =>
    simp [scanWhile_append_break isNamePart_break]
    rfl

theorem scanDigits_append_break (base : Nat) (t u : Text) :
    scanDigits base (t ++ '\n' :: u) = (scanDigits base t).extend ('\n' :: u) := by
  rw [scanDigits, scanWhile_append_break (by rw [digitBelow?_break]; rfl)]
  rfl

theorem endsNumber_append_break (t u : Text) : endsNumber (t ++ '\n' :: u) = endsNumber t := by
  cases t with
  | nil =>
    have hbreak : endsNumber ['\n'] = true := by decide
    exact hbreak
  | cons c t => rfl

theorem finishInteger_of_head? {value : Decimal.Double} {size : Nat} (h : t.head? ≠ some 'n') :
    finishInteger value size t =
      if endsNumber t then some ⟨.number value, size, t⟩ else none := by
  unfold finishInteger
  split
  · simp at h
  · rfl

theorem finishInteger_append_break (value : Decimal.Double) (size : Nat) (t u : Text) :
    finishInteger value size (t ++ '\n' :: u) =
      (finishInteger value size t).map (·.extend ('\n' :: u)) := by
  by_cases hn : t.head? = some 'n'
  · obtain ⟨cs, rfl⟩ : ∃ cs, t = 'n' :: cs := by
      cases t <;> simp_all
    simp only [List.cons_append, finishInteger, endsNumber_append_break]
    split <;> rfl
  · have hn' : (t ++ '\n' :: u).head? ≠ some 'n' := by
      cases t <;> simp_all
    rw [finishInteger_of_head? hn, finishInteger_of_head? hn', endsNumber_append_break]
    split <;> rfl

theorem scanRadix_append_break (base : Nat) (t u : Text) :
    scanRadix base (t ++ '\n' :: u) = (scanRadix base t).map (·.extend ('\n' :: u)) := by
  simp only [scanRadix, scanDigits_append_break, Scan.extend_value, Scan.extend_size,
    Scan.extend_rest, finishInteger_append_break]
  split <;> rfl

theorem splitSign_append_break (t u : Text) :
    splitSign (t ++ '\n' :: u) =
      ((splitSign t).1, (splitSign t).2.1, (splitSign t).2.2 ++ '\n' :: u) := by
  cases t with
  | nil => rfl
  | cons c t =>
    by_cases hplus : c = '+'
    · subst hplus
      rfl
    by_cases hminus : c = '-'
    · subst hminus
      rfl
    · simp [splitSign, hplus, hminus]

theorem scanExponent_cons (c : Char) (t : Text) :
    scanExponent (c :: t) =
      if c == 'e' || c == 'E' then
        let s := scanDigits 10 (splitSign t).2.2
        let n : Int := ofDigits 10 s.value
        if s.value.isEmpty then none
        else some ⟨if (splitSign t).1 then -n else n, 1 + (splitSign t).2.1 + s.size, s.rest⟩
      else some ⟨0, 0, c :: t⟩ := rfl

theorem scanExponent_append_break (t u : Text) :
    scanExponent (t ++ '\n' :: u) = (scanExponent t).map (·.extend ('\n' :: u)) := by
  cases t with
  | nil => rfl
  | cons c t =>
    simp only [List.cons_append, scanExponent_cons, splitSign_append_break, scanDigits_append_break,
      Scan.extend_value, Scan.extend_size, Scan.extend_rest]
    split
    · split <;> rfl
    · rfl

theorem scanFraction_append_break (t u : Text) :
    scanFraction (t ++ '\n' :: u) = (scanFraction t).extend ('\n' :: u) := by
  cases t with
  | nil => rfl
  | cons c t =>
    by_cases hc : c = '.'
    · subst hc
      simp only [List.cons_append, scanFraction, scanDigits_append_break]
      rfl
    · simp [scanFraction, hc, Scan.extend]

theorem scanDecimal_of_bigint {rest : Text} (h : (scanDigits 10 t).rest = 'n' :: rest) :
    scanDecimal t =
      if (scanDigits 10 t).value.isEmpty then none
      else finishInteger (.finite 0 (-1074)) (scanDigits 10 t).size ('n' :: rest) := by
  simp only [scanDecimal, h]
  cases (scanDigits 10 t).value.isEmpty <;> rfl

theorem scanDecimal_of_head? (h : (scanDigits 10 t).rest.head? ≠ some 'n') :
    scanDecimal t =
      let whole := scanDigits 10 t
      let part := scanFraction whole.rest
      if whole.value.isEmpty && part.value.isEmpty then none
      else (scanExponent part.rest).bind fun exponent =>
        if endsNumber exponent.rest then
          some ⟨.number (Decimal.Double.ofDecimal (ofDigits 10 (whole.value ++ part.value))
            (exponent.value - part.value.length)),
            whole.size + part.size + exponent.size, exponent.rest⟩
        else none := by
  unfold scanDecimal
  dsimp only
  split
  · rename_i heq
    simp [heq] at h
  · cases (scanDigits 10 t).value.isEmpty &&
        (scanFraction (scanDigits 10 t).rest).value.isEmpty with
    | true => rfl
    | false =>
      cases scanExponent (scanFraction (scanDigits 10 t).rest).rest with
      | none => rfl
      | some exponent =>
        by_cases hends : endsNumber exponent.rest = true
        all_goals simp [guard, hends]

theorem scanDecimal_append_break (t u : Text) :
    scanDecimal (t ++ '\n' :: u) = (scanDecimal t).map (·.extend ('\n' :: u)) := by
  have hwhole := scanDigits_append_break 10 t u
  by_cases hn : (scanDigits 10 t).rest.head? = some 'n'
  · obtain ⟨rest, hrest⟩ : ∃ rest, (scanDigits 10 t).rest = 'n' :: rest := by
      cases hrest : (scanDigits 10 t).rest <;> simp_all
    have hfinish := finishInteger_append_break (.finite 0 (-1074)) (scanDigits 10 t).size
      ('n' :: rest) u
    have hrest' : (scanDigits 10 (t ++ '\n' :: u)).rest = 'n' :: (rest ++ '\n' :: u) := by
      rw [hwhole, Scan.extend_rest, hrest, List.cons_append]
    rw [List.cons_append] at hfinish
    rw [scanDecimal_of_bigint hrest, scanDecimal_of_bigint hrest', hwhole, Scan.extend_value,
      Scan.extend_size, hfinish]
    split <;> rfl
  · have hn' : (scanDigits 10 (t ++ '\n' :: u)).rest.head? ≠ some 'n' := by
      rw [hwhole, Scan.extend_rest]
      cases hrest : (scanDigits 10 t).rest <;> simp_all
    rw [scanDecimal_of_head? hn, scanDecimal_of_head? hn']
    simp only [hwhole, Scan.extend_value, Scan.extend_size, Scan.extend_rest,
      scanFraction_append_break, scanExponent_append_break]
    split
    · rfl
    · cases scanExponent (scanFraction (scanDigits 10 t).rest).rest with
      | none => rfl
      | some exponent =>
        simp only [Option.map_some, Option.bind_some, Scan.extend_rest, endsNumber_append_break,
          Scan.extend_value, Scan.extend_size]
        split <;> rfl

theorem scanNumber_of_head? (h : t.head? ≠ some '0') : scanNumber t = scanDecimal t := by
  unfold scanNumber
  split
  · simp at h
  · rfl

theorem scanNumber_append_break (t u : Text) :
    scanNumber (t ++ '\n' :: u) = (scanNumber t).map (·.extend ('\n' :: u)) := by
  have hdecimal := scanDecimal_append_break t u
  by_cases hzero : t.head? = some '0'
  · obtain ⟨cs, rfl⟩ : ∃ cs, t = '0' :: cs := by
      cases t <;> simp_all
    cases cs with
    | nil => exact hdecimal
    | cons d cs =>
      have hdigits := takeWhile_append_break (p := isDigit) rfl (d :: cs) u
      have hoctal := scanDigits_append_break 8 (d :: cs) u
      simp only [List.cons_append] at hdecimal hdigits hoctal ⊢
      simp only [scanNumber, scanRadix_append_break, hdecimal, hdigits, hoctal,
        Scan.extend_rest, Scan.extend_size, Scan.extend_value, endsNumber_append_break]
      split
      · rfl
      split
      · rfl
      split
      · rfl
      split
      · split <;> rfl
      · rfl
  · have hzero' : (t ++ '\n' :: u).head? ≠ some '0' := by
      cases t <;> simp_all
    rw [scanNumber_of_head? hzero, scanNumber_of_head? hzero', hdecimal]

theorem findPunct_append_break {table : List (String × Punct)}
    (htable : ∀ entry ∈ table, '\n' ∉ entry.1.toList) (t u : Text) :
    findPunct (t ++ '\n' :: u) table = (findPunct t table).map (·.extend ('\n' :: u)) := by
  induction table with
  | nil => rfl
  | cons entry table ih =>
    obtain ⟨hentry, htable⟩ := List.forall_mem_cons.mp htable
    simp only [findPunct, Text.stripStart?_append_break hentry, ih htable]
    cases Text.stripStart? t entry.1.toList with
    | none => rfl
    | some rest =>
      have hfits : entry.2.fits (rest ++ '\n' :: u) = entry.2.fits rest := by
        simp only [Punct.fits, any_head?_append_break]
      simp only [Option.map_some, hfits]
      by_cases hrest : entry.2.fits rest = true
      · simp only [hrest, if_true]
        rfl
      · simp only [hrest, Bool.false_eq_true, if_false]

theorem scanPunct_append_break (t u : Text) :
    scanPunct (t ++ '\n' :: u) = (scanPunct t).map (·.extend ('\n' :: u)) :=
  findPunct_append_break (by decide) t u

theorem scanWordChar_cons {p : Char → Bool} {c : Char} (hslash : c ≠ '\\') (t : Text) :
    scanWordChar p (c :: t) = if p c then some ⟨(c, false), c.utf8Size, t⟩ else none := by
  simp [scanWordChar, hslash]

theorem scanWordChar_append_break {p : Char → Bool} (hp : p '\n' = false) (t u : Text) :
    scanWordChar p (t ++ '\n' :: u) = (scanWordChar p t).map (·.extend ('\n' :: u)) := by
  cases t with
  | nil => simp [scanWordChar, hp]
  | cons c t =>
    by_cases hslash : c = '\\'
    · subst hslash
      cases t with
      | nil => rfl
      | cons d t =>
        by_cases hd : d = 'u'
        · subst hd
          simp only [List.cons_append, scanWordChar, scanUnicode_append_break]
          match scanUnicode t with
          | none | some ⟨[], _, _⟩ | some ⟨_ :: _ :: _, _, _⟩ => rfl
          | some ⟨[c], size, rest⟩ =>
            simp only [Option.map_some, Scan.extend]
            split <;> rfl
        · simp [scanWordChar, hd]
    · rw [List.cons_append, scanWordChar_cons hslash, scanWordChar_cons hslash]
      split <;> rfl

theorem scanWordChar_length {p : Char → Bool} {s : Scan (Char × Bool)}
    (h : scanWordChar p t = some s) : s.rest.length < t.length := by
  unfold scanWordChar at h
  split at h
  · split at h
    · rename_i hunicode
      have hlen := scanUnicode_length hunicode
      split at h
      · cases h
        simp only [List.length_cons] at hlen ⊢
        omega
      · cases h
    · cases h
  · cases h
  · split at h
    · cases h
      exact Nat.lt_succ_self _
    · cases h
  · cases h

theorem scanWordRest_append_break (fuel : Nat) (t u : Text) :
    scanWordRest fuel (t ++ '\n' :: u) =
      (scanWordRest fuel t).map (·.extend ('\n' :: u)) := by
  induction fuel generalizing t with
  | zero => rfl
  | succ fuel ih =>
    simp only [scanWordRest, scanWordChar_append_break isNamePart_break]
    cases scanWordChar isNamePart t with
    | some first =>
      simp only [Option.map_some, Scan.extend_rest, ih]
      cases scanWordRest fuel first.rest <;> rfl
    | none =>
      cases t with
      | nil => rfl
      | cons c t =>
        by_cases hslash : c = '\\'
        · subst hslash
          rfl
        · simp [hslash, Scan.extend]

theorem scanWordRest_length {fuel : Nat} {s : Scan (Text × Bool)}
    (h : scanWordRest fuel t = some s) : s.rest.length ≤ t.length := by
  induction fuel generalizing t s with
  | zero => cases h
  | succ fuel ih =>
    simp only [scanWordRest] at h
    split at h
    · rename_i first hfirst
      obtain ⟨s', hs', rfl⟩ := Option.map_eq_some_iff.mp h
      have hlen := ih hs'
      exact Nat.le_trans hlen (Nat.le_of_lt (scanWordChar_length hfirst))
    · split at h
      · cases h
      · cases h
        exact Nat.le_refl _

theorem scanWordRest_mono {fuel fuel' : Nat} (hle : fuel ≤ fuel') {s : Scan (Text × Bool)}
    (h : scanWordRest fuel t = some s) : scanWordRest fuel' t = some s := by
  induction fuel generalizing t s fuel' with
  | zero => cases h
  | succ fuel ih =>
    obtain ⟨fuel', rfl⟩ := Nat.exists_eq_succ_of_ne_zero (Nat.ne_zero_of_lt hle)
    simp only [scanWordRest] at h ⊢
    split at h
    · obtain ⟨s', hs', rfl⟩ := Option.map_eq_some_iff.mp h
      rw [ih (Nat.le_of_succ_le_succ hle) hs']
      rfl
    · exact h

/-- What is read off a text before two line breaks is the same before any other lines. -/
def LineBound (f : Text → Option (Scan α)) (t : Text) : Prop :=
  ∀ s, f (t ++ ['\n', '\n']) = some s → ∃ s₀ : Scan α, s₀.rest.length < t.length ∧
    ∀ u, u ≠ [] → f (t ++ '\n' :: u) = some (s₀.extend ('\n' :: u))

theorem LineBound.of_append {f : Text → Option (Scan α)}
    (happend : ∀ u, f (t ++ '\n' :: u) = (f t).map (·.extend ('\n' :: u)))
    (hlength : ∀ s, f t = some s → s.rest.length < t.length) : LineBound f t := by
  intro s hs
  rw [happend] at hs
  obtain ⟨s₀, hs₀, -⟩ := Option.map_eq_some_iff.mp hs
  exact ⟨s₀, hlength s₀ hs₀, fun u _ => by rw [happend, hs₀, Option.map_some]⟩

theorem LineBound.map {f : Text → Option (Scan α)} (h : LineBound f t)
    (g : Scan α → Option (Scan β)) (hg : ∀ s u, g (s.extend u) = (g s).map (·.extend u))
    (hrest : ∀ s s', g s = some s' → s'.rest = s.rest) :
    LineBound (fun t => (f t).bind g) t := by
  intro s hs
  obtain ⟨s', hs', hgs⟩ := Option.bind_eq_some_iff.mp hs
  obtain ⟨s₀, hlen, hread⟩ := h s' hs'
  obtain rfl : s₀.extend ['\n', '\n'] = s' := by
    have := hread ['\n'] (by simp)
    rw [hs'] at this
    exact (Option.some.inj this).symm
  rw [hg] at hgs
  obtain ⟨s₁, hs₁, -⟩ := Option.map_eq_some_iff.mp hgs
  refine ⟨s₁, by rw [hrest s₀ s₁ hs₁]; exact hlen, fun u hu => ?_⟩
  simp only [hread u hu, Option.bind_some, hg, hs₁, Option.map_some]

theorem scanWord_lineBound (t : Text) : LineBound scanWord t := by
  intro s hs
  simp only [scanWord, Option.bind_eq_bind, scanWordChar_append_break isNameStart_break,
    Option.bind_eq_some_iff, Option.pure_def, Option.map_eq_some_iff] at hs
  obtain ⟨_, ⟨first, hfirst, rfl⟩, s', hs', -⟩ := hs
  rw [Scan.extend_rest, scanWordRest_append_break] at hs'
  obtain ⟨rest, hrest, -⟩ := Option.map_eq_some_iff.mp hs'
  have hlen := scanWordRest_length hrest
  refine ⟨⟨(first.value.1 :: rest.value.1, first.value.2 || rest.value.2), first.size + rest.size,
    rest.rest⟩, Nat.lt_of_le_of_lt hlen (scanWordChar_length hfirst), fun u hu => ?_⟩
  have hmore : scanWordRest ((t ++ '\n' :: u).length + 1) first.rest = some rest := by
    refine scanWordRest_mono ?_ hrest
    have hpos := List.length_pos_iff.mpr hu
    simp only [List.length_append, List.length_cons, List.length_nil]
    omega
  simp only [scanWord, scanWordChar_append_break isNameStart_break, hfirst, Option.map_some,
    Option.bind_eq_bind, Option.bind_some, Scan.extend_rest, scanWordRest_append_break, hmore]
  rfl

theorem scanName_lineBound (t : Text) : LineBound scanName t := by
  refine (scanWord_lineBound t).map _ (fun s u => ?_) fun s s' h => ?_
  · simp only [Scan.extend_value]
    split
    · by_cases hescaped : s.value.2 = true
      all_goals simp [hescaped]
    · rfl
  · split at h
    · split at h <;> cases h
      rfl
    · cases h
      rfl

theorem scanDigits_length (base : Nat) (t : Text) :
    (scanDigits base t).value.length + (scanDigits base t).rest.length ≤ t.length := by
  have hlen := scanWhile_length (fun c => c == '_' || (digitBelow? base c).isSome) t
  have hfilter := List.length_filterMap_le (digitBelow? base)
    (scanWhile (fun c => c == '_' || (digitBelow? base c).isSome) t).value
  simp only [scanDigits, Scan.map]
  omega

theorem finishInteger_reads {value : Decimal.Double} {size : Nat} {s : Scan Tok}
    (h : finishInteger value size t = some s) : s.rest.length ≤ t.length ∧ s.value ≠ .eof := by
  unfold finishInteger at h
  split at h <;> split at h <;> cases h
  · exact ⟨Nat.le_succ _, by simp⟩
  · exact ⟨Nat.le_refl _, by simp⟩

theorem scanRadix_reads {base : Nat} {s : Scan Tok} (h : scanRadix base t = some s) :
    s.rest.length ≤ t.length ∧ s.value ≠ .eof := by
  simp only [scanRadix] at h
  split at h
  · cases h
  · have hdigits := scanDigits_length base t
    obtain ⟨hlen, hvalue⟩ := finishInteger_reads h
    exact ⟨by omega, hvalue⟩

theorem scanExponent_length {s : Scan Int} (h : scanExponent t = some s) :
    s.rest.length ≤ t.length := by
  cases t with
  | nil =>
    cases h
    exact Nat.le_refl _
  | cons c t =>
    rw [scanExponent_cons] at h
    split at h
    · dsimp only at h
      split at h
      · cases h
      · cases h
        have hdigits := scanDigits_length 10 (splitSign t).2.2
        have hsign : (splitSign t).2.2.length ≤ t.length := by
          unfold splitSign
          split <;> simp
        simp only [List.length_cons]
        omega
    · cases h
      exact Nat.le_refl _

theorem scanFraction_length (t : Text) :
    (scanFraction t).value.length + (scanFraction t).rest.length ≤ t.length := by
  unfold scanFraction
  split
  · rename_i cs
    have hdigits := scanDigits_length 10 cs
    exact Nat.le_succ_of_le hdigits
  · simp

theorem scanDecimal_reads {s : Scan Tok} (h : scanDecimal t = some s) :
    s.rest.length < t.length ∧ s.value ≠ .eof := by
  have hwhole := scanDigits_length 10 t
  by_cases hn : (scanDigits 10 t).rest.head? = some 'n'
  · obtain ⟨rest, hrest⟩ : ∃ rest, (scanDigits 10 t).rest = 'n' :: rest := by
      cases hrest : (scanDigits 10 t).rest <;> simp_all
    rw [scanDecimal_of_bigint hrest] at h
    split at h
    · cases h
    · rename_i hsome
      obtain ⟨hlen, hvalue⟩ := finishInteger_reads h
      have hpos : 0 < (scanDigits 10 t).value.length :=
        List.length_pos_iff.mpr (by simpa using hsome)
      rw [hrest] at hwhole
      exact ⟨by omega, hvalue⟩
  · rw [scanDecimal_of_head? hn] at h
    have hpart := scanFraction_length (scanDigits 10 t).rest
    dsimp only at h
    split at h
    · cases h
    · rename_i hsome
      obtain ⟨exponent, hexponent, h⟩ := Option.bind_eq_some_iff.mp h
      have hlen := scanExponent_length hexponent
      split at h <;> cases h
      have hpos : 0 < (scanDigits 10 t).value.length +
          (scanFraction (scanDigits 10 t).rest).value.length := by
        rw [Bool.and_eq_true, not_and_or] at hsome
        rcases hsome with hsome | hsome
        · exact Nat.add_pos_left (List.length_pos_iff.mpr (by simpa using hsome)) _
        · exact Nat.add_pos_right _ (List.length_pos_iff.mpr (by simpa using hsome))
      exact ⟨by dsimp only; omega, by simp⟩

theorem scanNumber_reads {s : Scan Tok} (h : scanNumber t = some s) :
    s.rest.length < t.length ∧ s.value ≠ .eof := by
  unfold scanNumber at h
  split at h
  · rename_i c cs
    have hradix : ∀ base, scanRadix base cs = some s →
        s.rest.length < ('0' :: c :: cs).length ∧ s.value ≠ .eof := by
      intro base h
      obtain ⟨hlen, hvalue⟩ := scanRadix_reads h
      exact ⟨by simp only [List.length_cons]; omega, hvalue⟩
    split at h
    · exact hradix 16 h
    split at h
    · exact hradix 8 h
    split at h
    · exact hradix 2 h
    split at h
    · have hdigits := scanDigits_length 8 (c :: cs)
      dsimp only at h
      split at h <;> cases h
      simp only [List.length_cons] at hdigits ⊢
      exact ⟨by omega, by simp⟩
    · exact scanDecimal_reads h
  · exact scanDecimal_reads h

theorem findPunct_reads {table : List (String × Punct)}
    (htable : ∀ entry ∈ table, 0 < entry.1.toList.length) {s : Scan Tok}
    (h : findPunct t table = some s) : s.rest.length < t.length ∧ s.value ≠ .eof := by
  induction table with
  | nil => cases h
  | cons entry table ih =>
    obtain ⟨hentry, htable⟩ := List.forall_mem_cons.mp htable
    simp only [findPunct] at h
    split at h
    · rename_i rest hrest
      split at h
      · cases h
        have hlen := Text.length_of_stripStart? hrest
        exact ⟨by dsimp only; omega, by simp⟩
      · exact ih htable h
    · exact ih htable h

theorem scanPunct_reads {s : Scan Tok} (h : scanPunct t = some s) :
    s.rest.length < t.length ∧ s.value ≠ .eof :=
  findPunct_reads (by decide) h

theorem scanRegexFrom_length {inClass : Bool} {s : Scan Unit}
    (h : scanRegexFrom inClass t = some s) : s.rest.length ≤ t.length := by
  fun_induction scanRegexFrom inClass t generalizing s with
  | case1 => cases h
  | case2 => cases h
  | case3 inClass c cs hc ih =>
    obtain ⟨s', hs', rfl⟩ := Option.map_eq_some_iff.mp h
    have hlen := ih hs'
    exact Nat.le_succ_of_le (Nat.le_succ_of_le hlen)
  | case4 => cases h
  | case5 inClass c cs _ hline hc =>
    cases h
    exact Nat.le_succ _
  | case6 =>
    rename_i ih
    obtain ⟨s', hs', rfl⟩ := Option.map_eq_some_iff.mp h
    have hlen := ih hs'
    exact Nat.le_succ_of_le hlen

theorem scanRegex_length {s : Scan Tok} (h : scanRegex t = some s) : s.rest.length ≤ t.length := by
  obtain ⟨body, hbody, rfl⟩ := Option.map_eq_some_iff.mp h
  have hlen := scanRegexFrom_length hbody
  have hflags := scanWhile_length isNamePart body.rest
  simp only
  omega

theorem LineBound.congr {f g : Text → Option (Scan α)} (h : LineBound f t)
    (hg : ∀ u, g (t ++ '\n' :: u) = f (t ++ '\n' :: u)) : LineBound g t := by
  intro s hs
  rw [hg] at hs
  obtain ⟨s₀, hlen, hread⟩ := h s hs
  exact ⟨s₀, hlen, fun u hu => by rw [hg, hread u hu]⟩

theorem scanString_lineBound {quote : Char} (hquote : quote ≠ '\n') (t : Text) :
    LineBound (fun cs => scanString quote cs.tail) (quote :: t) := by
  intro s hs
  simp only [List.cons_append, List.tail_cons] at hs
  obtain ⟨s', hs', rfl⟩ := Option.map_eq_some_iff.mp hs
  obtain ⟨s₀, hlen, hread⟩ := scanStringFrom_break hquote hs'
  refine ⟨(s₀.map Tok.string).after 1, Nat.lt_succ_of_le hlen, fun u hu => ?_⟩
  have hpos := List.length_pos_iff.mpr hu
  simp only [List.cons_append, List.tail_cons, scanString]
  rw [hread u _ (by simp only [List.length_append, List.length_cons, List.length_nil]; omega)]
  rfl

theorem scanPrivateName_lineBound (c : Char) (t : Text) :
    LineBound (fun cs => (scanWord cs.tail).map fun s =>
      (s.map fun (id, _) => Tok.privateName id).after 1) (c :: t) := by
  intro s hs
  obtain ⟨s', hs', rfl⟩ := Option.map_eq_some_iff.mp hs
  obtain ⟨s₀, hlen, hread⟩ := scanWord_lineBound t s' hs'
  refine ⟨(s₀.map fun (id, _) => Tok.privateName id).after 1, Nat.lt_succ_of_lt hlen,
    fun u hu => ?_⟩
  simp only [List.cons_append, List.tail_cons, hread u hu]
  rfl

theorem scanRegex_lineBound (c : Char) (t : Text) :
    LineBound (fun cs => scanRegex cs.tail) (c :: t) :=
  .of_append (fun u => scanRegex_append_break t u) fun _ hs =>
    Nat.lt_succ_of_le (scanRegex_length hs)

/-- A token that starts before a line break ends before it as well, if it ends before the next
one. -/
theorem scanToken_lineBound (operand : Bool) (hne : t ≠ []) : LineBound (scanToken operand) t := by
  cases t with
  | nil => exact absurd rfl hne
  | cons c t =>
    have hdigit := any_head?_append_break t
    by_cases hname : (isNameStart c || c == '\\') = true
    · refine (scanName_lineBound (c :: t)).congr fun u => ?_
      simp only [List.cons_append, scanToken, hname, if_true]
    by_cases hnumber : (isDigit c || (c == '.' && t.head?.any isDigit)) = true
    · refine LineBound.congr (.of_append (scanNumber_append_break (c :: t))
        fun _ h => (scanNumber_reads h).1) fun u => ?_
      simp only [List.cons_append, scanToken, hname, hdigit, hnumber, if_true,
        Bool.false_eq_true, if_false]
    by_cases hstring : (c == '"' || c == '\x27') = true
    · have hquote : c ≠ '\n' := by
        rintro rfl
        cases hstring
      refine (scanString_lineBound hquote t).congr fun u => ?_
      simp only [List.cons_append, scanToken, hname, hdigit, hnumber, hstring, if_true,
        Bool.false_eq_true, if_false, List.tail_cons]
    by_cases hhash : (c == '#') = true
    · refine (scanPrivateName_lineBound c t).congr fun u => ?_
      simp only [List.cons_append, scanToken, hname, hdigit, hnumber, hstring, hhash, if_true,
        Bool.false_eq_true, if_false, List.tail_cons]
    by_cases hslash : (c == '/' && operand) = true
    · refine (scanRegex_lineBound c t).congr fun u => ?_
      simp only [List.cons_append, scanToken, hname, hdigit, hnumber, hstring, hhash, hslash,
        if_true, Bool.false_eq_true, if_false, List.tail_cons]
    · refine LineBound.congr (.of_append (scanPunct_append_break (c :: t))
        fun _ h => (scanPunct_reads h).1) fun u => ?_
      simp only [List.cons_append, scanToken, hname, hdigit, hnumber, hstring, hhash, hslash,
        Bool.false_eq_true, if_false]

theorem scanTemplate_of_chunk (hback : ∀ cs, t ≠ '\x60' :: cs)
    (hhole : ∀ cs, t ≠ '$' :: '\x7b' :: cs) : scanTemplate t = scanChunk t := by
  unfold scanTemplate
  split
  · exact absurd rfl (hback _)
  · exact absurd rfl (hhole _)
  · rfl

theorem scanTemplate_lineBound (t : Text) : LineBound scanTemplate t := by
  by_cases hback : ∃ cs, t = '\x60' :: cs
  · obtain ⟨cs, rfl⟩ := hback
    exact fun s _ => ⟨⟨.punct .backtick, 1, cs⟩, Nat.lt_succ_self _, fun u _ => rfl⟩
  by_cases hhole : ∃ cs, t = '$' :: '\x7b' :: cs
  · obtain ⟨cs, rfl⟩ := hhole
    exact fun s _ => ⟨⟨.punct .dollarBrace, 2, cs⟩, Nat.lt_succ_of_lt (Nat.lt_succ_self _),
      fun u _ => rfl⟩
  have hchunk : ∀ u, scanTemplate (t ++ '\n' :: u) = scanChunk (t ++ '\n' :: u) := by
    refine fun u => scanTemplate_of_chunk (fun cs heq => ?_) fun cs heq => ?_
    · cases t with
      | nil => cases heq
      | cons c t => exact hback ⟨t, by rw [(List.cons.inj heq).1]⟩
    · match t with
      | [] => cases heq
      | [_] => cases heq
      | c :: d :: t =>
        obtain ⟨rfl, htail⟩ := List.cons.inj heq
        obtain ⟨rfl, -⟩ := List.cons.inj htail
        exact hhole ⟨t, rfl⟩
  intro s hs
  rw [hchunk] at hs
  obtain ⟨s', hs', rfl⟩ := Option.map_eq_some_iff.mp hs
  obtain ⟨s₀, -, hlt, hread⟩ := scanChunkFrom_break hs'
  refine ⟨s₀.map Tok.chunk, hlt (not_exists.mp hback) (not_exists.mp hhole), fun u _ => ?_⟩
  rw [hchunk, scanChunk, hread u]
  rfl

/-- The same trivia in front of more text. -/
def Trivia.extend (r : Trivia) (u : Text) : Trivia := { r with rest := r.rest ++ u }

theorem semicolonFollows_append_break (t u : Text) :
    semicolonFollows (t ++ '\n' :: u) = semicolonFollows t := by
  induction t with
  | nil => rfl
  | cons c t ih =>
    simp only [semicolonFollows] at ih ⊢
    by_cases hc : isSpace c = true
    all_goals simp [hc, ih]

section Trivia

variable {pos size : Nat} {fresh : Bool} {found : List PlacedComment} {c : Char} {cs : Text}

theorem scanTriviaFrom_between_cons :
    scanTriviaFrom .between pos fresh found size (c :: cs) =
      if isSpace c then
        scanTriviaFrom .between (pos + c.utf8Size) fresh found (size + c.utf8Size) cs
      else if isLineBreak c then
        scanTriviaFrom .between (pos + c.utf8Size) true found (size + c.utf8Size) cs
      else
        match c, cs with
        | '/', '/' :: cs => scanTriviaFrom (.line pos []) (pos + 2) fresh found (size + 2) cs
        | '/', '*' :: cs =>
          scanTriviaFrom (.block pos [] false) (pos + 2) fresh found (size + 2) cs
        | _, _ => ⟨found.reverse, fresh, false, size, c :: cs⟩ := by
  rw [scanTriviaFrom.eq_def]
  rfl

theorem scanTriviaFrom_line_cons {start : Nat} {reversed : Text} :
    scanTriviaFrom (.line start reversed) pos fresh found size (c :: cs) =
      if isLineBreak c then
        scanTriviaFrom .between (pos + c.utf8Size) true
          (⟨⟨false, reversed.reverse, ⟨start, pos⟩⟩, fresh, false⟩ :: found) (size + c.utf8Size) cs
      else
        scanTriviaFrom (.line start (c :: reversed)) (pos + c.utf8Size) fresh found
          (size + c.utf8Size) cs := rfl

theorem scanTriviaFrom_block_cons {start : Nat} {reversed : Text} {breaks : Bool} :
    scanTriviaFrom (.block start reversed breaks) pos fresh found size (c :: cs) =
      if c = '/' && reversed.head? == some '*' then
        scanTriviaFrom .between (pos + 1) (fresh || breaks)
          (⟨⟨true, reversed.tail.reverse, ⟨start, pos + 1⟩⟩, fresh,
            !fresh && !breaks && semicolonFollows cs⟩ :: found) (size + 1) cs
      else
        scanTriviaFrom (.block start (c :: reversed) (breaks || isLineBreak c))
          (pos + c.utf8Size) fresh found (size + c.utf8Size) cs := rfl

theorem scanTriviaFrom_stop (hspace : ¬isSpace c = true) (hline : ¬isLineBreak c = true)
    (hcomment : c = '/' → cs.head? ≠ some '/' ∧ cs.head? ≠ some '*') :
    scanTriviaFrom .between pos fresh found size (c :: cs) =
      ⟨found.reverse, fresh, false, size, c :: cs⟩ := by
  rw [scanTriviaFrom_between_cons, if_neg hspace, if_neg hline]
  split
  · simp at hcomment
  · simp at hcomment
  · rfl

end Trivia

/-- Trivia before a line break ends in at most so many characters before it, or it goes on after it:
between two tokens or in a comment. What `f` tells is the trivia, given the text after the break. -/
def TriviaBreaks (size : Nat) (f : Text → Trivia) : Prop :=
  (∃ r : Trivia, r.rest ≠ [] ∧ r.rest.length ≤ size ∧ r.unclosed = false ∧
    ∀ u, f u = r.extend ('\n' :: u)) ∨
  (∃ pos found size, ∀ u, f u = scanTriviaFrom .between pos true found size u) ∨
  ∃ start reversed pos fresh found size, ∀ u,
    f u = scanTriviaFrom (.block start reversed true) pos fresh found size u

theorem TriviaBreaks.mono {m n : Nat} {f g : Text → Trivia} (h : TriviaBreaks m f) (hle : m ≤ n)
    (hg : ∀ u, g u = f u) : TriviaBreaks n g := by
  obtain rfl : g = f := funext hg
  rcases h with ⟨r, hne, hlen, hclosed, hread⟩ | h | h
  · exact .inl ⟨r, hne, Nat.le_trans hlen hle, hclosed, hread⟩
  · exact .inr (.inl h)
  · exact .inr (.inr h)

theorem scanTriviaFrom_breaks (mode : TriviaMode) (pos : Nat) (fresh : Bool)
    (found : List PlacedComment) (size : Nat) (t : Text) :
    TriviaBreaks t.length fun u => scanTriviaFrom mode pos fresh found size (t ++ '\n' :: u) := by
  fun_induction scanTriviaFrom mode pos fresh found size t with
  | case1 pos fresh found size =>
    exact .inr (.inl ⟨pos + '\n'.utf8Size, found, size + '\n'.utf8Size, fun u => rfl⟩)
  | case2 pos fresh found size start reversed =>
    exact .inr (.inl ⟨pos + '\n'.utf8Size,
      ⟨⟨false, reversed.reverse, ⟨start, pos⟩⟩, fresh, false⟩ :: found, size + '\n'.utf8Size,
      fun u => rfl⟩)
  | case3 pos fresh found size start reversed breaks =>
    refine .inr (.inr ⟨start, '\n' :: reversed, pos + '\n'.utf8Size, fresh, found,
      size + '\n'.utf8Size, fun u => ?_⟩)
    rw [← Bool.or_true breaks]
    rfl
  | case4 =>
    rename_i hc ih
    refine ih.mono (Nat.le_succ _) fun u => ?_
    rw [List.cons_append, scanTriviaFrom_between_cons, if_pos hc]
  | case5 =>
    rename_i hc hl ih
    refine ih.mono (Nat.le_succ _) fun u => ?_
    rw [List.cons_append, scanTriviaFrom_between_cons, if_neg hc, if_pos hl]
  | case6 =>
    rename_i ih
    exact ih.mono (Nat.le_add_right _ 2) fun u => rfl
  | case7 =>
    rename_i ih
    exact ih.mono (Nat.le_add_right _ 2) fun u => rfl
  | case8 pos fresh found size c cs hspace hline hslashes hstar =>
    refine .inl ⟨⟨found.reverse, fresh, false, size, c :: cs⟩, List.cons_ne_nil c cs, Nat.le_refl _,
      rfl, fun u => scanTriviaFrom_stop hspace hline fun hc => ?_⟩
    cases cs with
    | nil => simp
    | cons d cs =>
      refine ⟨fun hd => hslashes cs hc ?_, fun hd => hstar cs hc ?_⟩
      all_goals
        obtain rfl : d = _ := by simpa using hd
        rfl
  | case9 =>
    rename_i hl placed ih
    refine ih.mono (Nat.le_succ _) fun u => ?_
    rw [List.cons_append, scanTriviaFrom_line_cons, if_pos hl]
  | case10 =>
    rename_i hl ih
    refine ih.mono (Nat.le_succ _) fun u => ?_
    rw [List.cons_append, scanTriviaFrom_line_cons, if_neg hl]
  | case11 =>
    rename_i hc placed ih
    refine ih.mono (Nat.le_succ _) fun u => ?_
    rw [List.cons_append, scanTriviaFrom_block_cons, if_pos hc, semicolonFollows_append_break]
  | case12 =>
    rename_i hc ih
    refine ih.mono (Nat.le_succ _) fun u => ?_
    rw [List.cons_append, scanTriviaFrom_block_cons, if_neg hc]

end Script

end StoryExports
