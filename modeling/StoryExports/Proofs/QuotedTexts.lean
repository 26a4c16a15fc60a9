import StoryExports.Json.Quoted
import StoryExports.Json.Reader
import StoryExports.Proofs.Cuts
import StoryExports.Script.Lexer

/-!
# Quoted texts

Comments, sources, names of exports, the runtime module and keys that are no words are written into
a script as JSON strings. Both languages read such a string as the text that was quoted, whatever
follows it.
-/
namespace StoryExports

namespace Script

open Json (escapeChar quote hexDigit)

/-! ### Strings of scripts -/

/-- The escapes of one letter, each with the character that it stands for. -/
def shortEscapes : List (Char × Char) :=
  [('"', '"'), ('\\', '\\'), ('b', '\x08'), ('t', '\t'), ('n', '\n'), ('f', '\x0c'), ('r', '\r')]

/-- A character is written as an escape of one letter, as an escape of four digits or as itself. -/
theorem escapeChar_cases (c : Char) :
    (∃ d, (d, c) ∈ shortEscapes ∧ escapeChar c = ['\\', d]) ∨
      (c.toNat < 0x20 ∧ escapeChar c =
        ['\\', 'u', '0', '0', hexDigit (c.toNat / 16), hexDigit (c.toNat % 16)]) ∨
      (c ≠ '"' ∧ c ≠ '\\' ∧ 0x20 ≤ c.toNat ∧ escapeChar c = [c]) := by
  have hspecial : ∀ {d : Char}, c.toNat = d.toNat → c = d := fun h => Char.toNat_inj.mp h
  by_cases hquote : c = '"'
  · subst hquote
    exact .inl ⟨'"', by decide, rfl⟩
  by_cases hslash : c = '\\'
  · subst hslash
    exact .inl ⟨'\\', by decide, rfl⟩
  by_cases hcontrol : c.toNat < 0x20
  · rw [escapeChar, if_neg hquote, if_neg hslash, if_pos hcontrol]
    split
    · rename_i h
      exact .inl ⟨'b', by rw [hspecial (d := '\x08') h]; decide, rfl⟩
    · rename_i h
      exact .inl ⟨'t', by rw [hspecial (d := '\t') h]; decide, rfl⟩
    · rename_i h
      exact .inl ⟨'n', by rw [hspecial (d := '\n') h]; decide, rfl⟩
    · rename_i h
      exact .inl ⟨'f', by rw [hspecial (d := '\x0c') h]; decide, rfl⟩
    · rename_i h
      exact .inl ⟨'r', by rw [hspecial (d := '\r') h]; decide, rfl⟩
    · exact .inr (.inl ⟨hcontrol, rfl⟩)
  · refine .inr (.inr ⟨hquote, hslash, Nat.le_of_not_lt hcontrol, ?_⟩)
    rw [escapeChar, if_neg hquote, if_neg hslash, if_neg hcontrol]

theorem escapeChar_ne_nil (c : Char) : escapeChar c ≠ [] := by
  rcases escapeChar_cases c with ⟨_, -, h⟩ | ⟨-, h⟩ | ⟨-, -, -, h⟩ <;> simp [h]

theorem scalar?_toNat (c : Char) : scalar? c.toNat = some c := by
  have hvalid : c.toNat.isValidChar := c.valid
  rw [scalar?, dif_pos hvalid]
  rfl

theorem digitBelow?_hexDigit {n : Nat} (h : n < 16) :
    digitBelow? 16 (hexDigit n) = some n ∧ (hexDigit n).utf8Size = 1 := by
  revert n
  decide

/-- The escape of a control character. -/
theorem scanEscape_control (c : Char) (h : c.toNat < 0x20) (rest : Text) :
    scanEscape ('u' :: '0' :: '0' :: hexDigit (c.toNat / 16) :: hexDigit (c.toNat % 16) :: rest) =
      some ⟨[c], 5, rest⟩ := by
  obtain ⟨hhigh, hhighSize⟩ := digitBelow?_hexDigit (show c.toNat / 16 < 16 by omega)
  obtain ⟨hlow, hlowSize⟩ := digitBelow?_hexDigit (show c.toNat % 16 < 16 by omega)
  have hzero : digitBelow? 16 '0' = some 0 ∧ '0'.utf8Size = 1 := by decide
  have hvalue : hexValue ['0', '0', hexDigit (c.toNat / 16), hexDigit (c.toNat % 16)] =
      c.toNat := by
    simp only [hexValue, List.foldl_cons, List.foldl_nil, hzero, hhigh, hlow, Option.getD_some]
    omega
  have hhex : scanHex 4 ('0' :: '0' :: hexDigit (c.toNat / 16) :: hexDigit (c.toNat % 16) :: rest) =
      some ⟨['0', '0', hexDigit (c.toNat / 16), hexDigit (c.toNat % 16)], 4, rest⟩ := by
    simp [scanHex, hzero, hhigh, hlow, hhighSize, hlowSize]
  have hunicode : scanUnicode
      ('0' :: '0' :: hexDigit (c.toNat / 16) :: hexDigit (c.toNat % 16) :: rest) =
      some ⟨[c], 4, rest⟩ := by
    simp [scanUnicode, hhex, Scan.map, hvalue, scalar?_toNat]
  simp [scanEscape, hunicode, Scan.after]

theorem scanEscape_short {d c : Char} (h : (d, c) ∈ shortEscapes) (rest : Text) :
    scanEscape (d :: rest) = some ⟨[c], 1, rest⟩ ∧ d.utf8Size = 1 := by
  simp only [shortEscapes, List.mem_cons, Prod.mk.injEq, List.not_mem_nil, or_false] at h
  rcases h with ⟨rfl, rfl⟩ | ⟨rfl, rfl⟩ | ⟨rfl, rfl⟩ | ⟨rfl, rfl⟩ | ⟨rfl, rfl⟩ | ⟨rfl, rfl⟩ |
    ⟨rfl, rfl⟩
  all_goals exact ⟨rfl, rfl⟩

theorem scanStringFrom_escapeChar (c : Char) (fuel : Nat) (rest : Text) :
    scanStringFrom '"' (fuel + 1) (escapeChar c ++ rest) =
      (scanStringFrom '"' fuel rest).map fun s =>
        ⟨c :: s.value, (escapeChar c).bytes + s.size, s.rest⟩ := by
  have hescape : ∀ {u : Text} {n : Nat}, scanEscape (u ++ rest) = some ⟨[c], n, rest⟩ →
      Text.bytes u = n → escapeChar c = '\\' :: u →
      scanStringFrom '"' (fuel + 1) (escapeChar c ++ rest) =
        (scanStringFrom '"' fuel rest).map fun s =>
          ⟨c :: s.value, (escapeChar c).bytes + s.size, s.rest⟩ := by
    intro u n hscan hn hc
    rw [hc, List.cons_append, scanStringFrom, if_neg (by decide), if_pos rfl, hscan]
    simp [hn, show '\\'.utf8Size = 1 from rfl]
  rcases escapeChar_cases c with ⟨d, hd, hc⟩ | ⟨hcontrol, hc⟩ | ⟨hquote, hslash, hplain, hc⟩
  · obtain ⟨hscan, hsize⟩ := scanEscape_short hd rest
    exact hescape (u := [d]) hscan (by simp [hsize]) hc
  · refine hescape (scanEscape_control c hcontrol rest) ?_ hc
    obtain ⟨-, hhigh⟩ := digitBelow?_hexDigit (show c.toNat / 16 < 16 by omega)
    obtain ⟨-, hlow⟩ := digitBelow?_hexDigit (show c.toNat % 16 < 16 by omega)
    simp [hhigh, hlow, show 'u'.utf8Size = 1 from rfl, show '0'.utf8Size = 1 from rfl]
  · have hline : ¬(c = '\n' || c = '\r') = true := by
      simp only [Bool.or_eq_true, decide_eq_true_eq, not_or]
      constructor <;> rintro rfl <;> exact absurd hplain (by decide)
    simp [hc, scanStringFrom, hquote, hslash, hline]

theorem scanStringFrom_escaped (t rest : Text) {fuel : Nat} (hfuel : t.length < fuel) :
    scanStringFrom '"' fuel (t.flatMap escapeChar ++ '"' :: rest) =
      some ⟨t, Text.bytes (t.flatMap escapeChar) + 1, rest⟩ := by
  induction t generalizing fuel with
  | nil =>
    obtain ⟨fuel, rfl⟩ := Nat.exists_eq_succ_of_ne_zero (Nat.ne_zero_of_lt hfuel)
    simp [scanStringFrom]
    rfl
  | cons c t ih =>
    obtain ⟨fuel, rfl⟩ := Nat.exists_eq_succ_of_ne_zero (Nat.ne_zero_of_lt hfuel)
    rw [List.flatMap_cons, List.append_assoc, Nat.succ_eq_add_one, scanStringFrom_escapeChar,
      ih (by simpa using hfuel)]
    simp [Nat.add_assoc]

/-- Each character is written as at least one, so the length of what is written bounds a scan. -/
theorem length_lt_escaped (t rest : Text) :
    t.length < (t.flatMap escapeChar ++ '"' :: rest).length + 1 := by
  induction t with
  | nil => simp
  | cons c t ih =>
    have hc : 0 < (escapeChar c).length := List.length_pos_iff.mpr (escapeChar_ne_nil c)
    simp only [List.flatMap_cons, List.length_append, List.length_cons] at ih ⊢
    omega

theorem quote_append (t rest : Text) :
    quote t ++ rest = '"' :: (t.flatMap escapeChar ++ '"' :: rest) := by
  simp [quote]

/-- A quoted text is one string, whatever follows. -/
theorem scanToken_quote (operand : Bool) (t rest : Text) :
    scanToken operand (quote t ++ rest) = some ⟨.string t, (quote t).bytes, rest⟩ := by
  have hstring := scanStringFrom_escaped t rest (length_lt_escaped t rest)
  have hsize : (quote t).bytes = 1 + (Text.bytes (t.flatMap escapeChar) + 1) := by
    simp [quote, show '"'.utf8Size = 1 from rfl]
  rw [quote_append, hsize]
  simp only [scanToken, show isNameStart '"' = false by decide, show isDigit '"' = false by decide,
    scanString, hstring]
  rfl

end Script

namespace Json

open Script (digitBelow?_hexDigit scalar?_toNat shortEscapes escapeChar_cases)

/-! ### Strings of JSON -/

theorem readEscape_short {d c : Char} (h : (d, c) ∈ shortEscapes) (rest : Text) :
    readEscape (d :: rest) = some (some c, rest) := by
  simp only [shortEscapes, List.mem_cons, Prod.mk.injEq, List.not_mem_nil, or_false] at h
  rcases h with ⟨rfl, rfl⟩ | ⟨rfl, rfl⟩ | ⟨rfl, rfl⟩ | ⟨rfl, rfl⟩ | ⟨rfl, rfl⟩ | ⟨rfl, rfl⟩ |
    ⟨rfl, rfl⟩
  all_goals rfl

theorem readEscape_control {c : Char} (h : c.toNat < 0x20) (rest : Text) :
    readEscape ('u' :: '0' :: '0' :: hexDigit (c.toNat / 16) :: hexDigit (c.toNat % 16) :: rest) =
      some (some c, rest) := by
  obtain ⟨hhigh, -⟩ := digitBelow?_hexDigit (show c.toNat / 16 < 16 by omega)
  obtain ⟨hlow, -⟩ := digitBelow?_hexDigit (show c.toNat % 16 < 16 by omega)
  have hzero : Script.digitBelow? 16 '0' = some 0 := by decide
  have hhex : readHex ('0' :: '0' :: hexDigit (c.toNat / 16) :: hexDigit (c.toNat % 16) :: rest) =
      some (c.toNat, rest) := by
    have hvalue : 0 * 4096 + 0 * 256 + c.toNat / 16 * 16 + c.toNat % 16 = c.toNat := by omega
    simp only [readHex, hzero, hhigh, hlow, Option.bind_eq_bind, Option.bind_some, hvalue,
      Option.pure_def]
  have hsurrogate : isHighSurrogate c.toNat = false := by
    simp only [isHighSurrogate, Bool.and_eq_false_iff, decide_eq_false_iff_not]
    omega
  simp only [readEscape, hhex, Option.bind_eq_bind, Option.bind_some, hsurrogate, scalar?_toNat]
  rfl

theorem readString_escapeChar (c : Char) (fuel : Nat) (rest : Text) :
    readString (fuel + 1) (escapeChar c ++ rest) =
      (readString fuel rest).map fun r => (r.1.map (c :: ·), r.2) := by
  have hescape : ∀ {u : Text}, readEscape (u ++ rest) = some (some c, rest) →
      escapeChar c = '\\' :: u → readString (fuel + 1) (escapeChar c ++ rest) =
        (readString fuel rest).map fun r => (r.1.map (c :: ·), r.2) := by
    intro u hread hc
    rw [hc, List.cons_append, readString, if_neg (by decide), if_pos rfl, hread]
    simp only [Option.bind_eq_bind, Option.bind_some]
    cases readString fuel rest with
    | none => rfl
    | some r =>
      obtain ⟨tail, after⟩ := r
      cases tail <;> rfl
  rcases escapeChar_cases c with ⟨d, hd, hc⟩ | ⟨hcontrol, hc⟩ | ⟨hquote, hslash, hplain, hc⟩
  · exact hescape (u := [d]) (readEscape_short hd rest) hc
  · exact hescape (readEscape_control hcontrol rest) hc
  · rw [hc, List.singleton_append, readString, if_neg hquote, if_neg hslash,
      if_neg (Nat.not_lt.mpr hplain)]
    cases readString fuel rest <;> rfl

theorem readString_escaped (t rest : Text) {fuel : Nat} (hfuel : t.length < fuel) :
    readString fuel (t.flatMap escapeChar ++ '"' :: rest) = some (some t, rest) := by
  induction t generalizing fuel with
  | nil =>
    obtain ⟨fuel, rfl⟩ := Nat.exists_eq_succ_of_ne_zero (Nat.ne_zero_of_lt hfuel)
    rfl
  | cons c t ih =>
    obtain ⟨fuel, rfl⟩ := Nat.exists_eq_succ_of_ne_zero (Nat.ne_zero_of_lt hfuel)
    rw [List.flatMap_cons, List.append_assoc, Nat.succ_eq_add_one, readString_escapeChar,
      ih (by simpa using hfuel)]
    rfl

theorem read?_quote (t : Text) : read? (quote t) = some (.string (some t)) := by
  have hstring := readString_escaped t [] (Script.length_lt_escaped t [])
  have hvalue : ∀ n, readValue (n + 1) (quote t) = some (.string (some t), []) := by
    intro n
    have hquote : skipSpace (quote t) = '"' :: (t.flatMap escapeChar ++ ['"']) := rfl
    rw [readValue, hquote]
    simp only [hstring]
    rfl
  rw [read?, hvalue]
  rfl

end Json

end StoryExports
